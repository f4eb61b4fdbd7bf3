import WalnutGateway.Config.GpsSetter
import WalnutGateway.Config.SetReboot

/-!
# Setting the APN

`network_config_set_apn` and `weware_network_set_apn`, after the boot has loaded the
configurations. Each argument is checked right before it is applied, and the second function saves
the APN before it looks at the PDP type.
-/

namespace WalnutGateway

variable {π : Type} [DecidableEq π]

/-! ## The functions -/

/-- Where the network configuration is in `g_modules`. -/
def networkSlot : Nat := ModuleId.network.toNat

/-- `sizeof` of `apn`, `username` and `password`. -/
def networkStringSize : Nat := 32

/-- `sizeof(g_network.pdp_type)`. -/
def pdpTypeSize : Nat := 16

/-- The configurations, the flash, and `g_network.pdp_type`. -/
structure ApnState (π : Type) where
  blocks : ConfigBlocks
  flash : Flash π
  pdpType : List Byte

namespace ApnState

/-- `*network_config_get_storage()`. -/
def network (s : ApnState π) : List Byte := s.blocks networkSlot

/-- An assignment to it. -/
def setNetwork (s : ApnState π) (block : List Byte) : ApnState π :=
  { s with blocks := Function.update s.blocks networkSlot block }

/-- `config_save_to_file(NULL)`. -/
def save (path : π) (s : ApnState π) : ApnState π :=
  { s with flash := (configSaveToFile walnutModules path s.blocks s.flash).2 }

end ApnState

/-- The block of `network_config_set_apn` for a username or a password, `NULL` for none; `none`
where it is too long. -/
def setCredential (block : List Byte) (offset : Nat) : Option (List Byte) → Option (List Byte)
  | some value =>
    if (cString value).length ≥ networkStringSize then none
    else some (setField block offset (utilsStrncpySafe networkStringSize value).toList)
  | none => some (setField block offset [0])

/-- `network_config_set_apn`. -/
def networkConfigSetApn (path : π) (s : ApnState π) (apn username password : Option (List Byte)) :
    Result × ApnState π :=
  match apn with
  | none => (.invalidParam, s)
  | some apn =>
    if (cString apn).length = 0 ∨ (cString apn).length ≥ networkStringSize then
      (.invalidParam, s)
    else
      let s := s.setNetwork
        (setField s.network 0 (utilsStrncpySafe networkStringSize apn).toList)
      match setCredential s.network usernameOffset username with
      | none => (.invalidParam, s)
      | some block =>
        let s := s.setNetwork block
        match setCredential s.network passwordOffset password with
        | none => (.invalidParam, s)
        | some block => (.success, (s.setNetwork block).save path)

/-- The end of `weware_network_set_apn`. -/
def setPdpType (s : ApnState π) : Option (List Byte) → Result × ApnState π
  | none => (.success, s)
  | some pdpType =>
    if (cString pdpType).length ≥ pdpTypeSize then (.invalidParam, s)
    else (.success, { s with pdpType := setField s.pdpType 0 (cString pdpType ++ [0]) })

/-- `weware_network_set_apn`, with its copies of the username and the password. -/
def wewareNetworkSetApn (path : π) (s : ApnState π) (apn pdpType : Option (List Byte)) :
    Result × ApnState π :=
  match apn with
  | none => setPdpType s pdpType
  | some apn =>
    let user := fieldString s.network usernameOffset
    let pass := fieldString s.network passwordOffset
    match networkConfigSetApn path s (some apn) (some user) (some pass) with
    | (.success, s) => setPdpType s pdpType
    | (_, s) => (.invalidParam, s)

/-- A call of one of the two, with its arguments. -/
inductive ApnCall
  | config (apn username password : Option (List Byte))
  | network (apn pdpType : Option (List Byte))

def ApnCall.run (path : π) (s : ApnState π) : ApnCall → Result × ApnState π
  | config apn username password => networkConfigSetApn path s apn username password
  | network apn pdpType => wewareNetworkSetApn path s apn pdpType

/-! ## Atomic calls -/

/-- The strings that can be set, and what is next to them. -/
@[ext]
structure ApnParts where
  apn : List Byte
  username : List Byte
  password : List Byte
  cid : List Byte
  autoConnect : List Byte
  pdpType : List Byte
  deriving DecidableEq

/-- The parts of a network configuration and of `pdp_type`. -/
def apnParts (block pdpType : List Byte) : ApnParts where
  apn := fieldString block 0
  username := fieldString block usernameOffset
  password := fieldString block passwordOffset
  cid := field block 96 4
  autoConnect := field block 100 1
  pdpType := cString pdpType

def ApnState.parts (s : ApnState π) : ApnParts := apnParts s.network s.pdpType

/-- The parts with the given values; `null` is what `NULL` makes of a username or a password in
`network_config_set_apn`. -/
def ApnCall.given (null : List Byte → List Byte) (p : ApnParts) : ApnCall → ApnParts
  | config apn username password =>
    { p with
      apn := apn.elim p.apn cString
      username := username.elim (null p.username) cString
      password := password.elim (null p.password) cString }
  | network apn pdpType =>
    { p with
      apn := apn.elim p.apn cString
      pdpType := pdpType.elim p.pdpType cString }

/-- A call that fails leaves the parts and the file, and one that succeeds changes exactly the given
parts. -/
structure ApnCall.Atomic (path : π) (null : List Byte → List Byte) (s : ApnState π)
    (call : ApnCall) : Prop where
  rejected : (call.run path s).1 ≠ .success → (call.run path s).2.parts = s.parts ∧
    (call.run path s).2.flash.files path = s.flash.files path
  accepted : (call.run path s).1 = .success →
    (call.run path s).2.parts = call.given null s.parts

/-- The APN passes its check. -/
def ApnFits (apn : List Byte) : Prop :=
  (cString apn).length ≠ 0 ∧ (cString apn).length < networkStringSize

/-- An argument is a string that does not fit `size` bytes. -/
def tooLong (size : Nat) (value : Option (List Byte)) : Bool :=
  value.any fun v => size ≤ (cString v).length

/-- The network block with an APN, and with the other strings copied over themselves. -/
def blockWithApn (block apn : List Byte) : List Byte :=
  let first := setField block 0 (utilsStrncpySafe networkStringSize apn).toList
  let second := setField first usernameOffset
    (utilsStrncpySafe networkStringSize (fieldString block usernameOffset)).toList
  setField second passwordOffset
    (utilsStrncpySafe networkStringSize (fieldString block passwordOffset)).toList

/-- No check fails behind one that let something new be applied or saved, and a `NULL` that clears a
string is what `null` says. -/
def ApnCall.Clean (path : π) (null : List Byte → List Byte) (s : ApnState π) : ApnCall → Prop
  | config none _ _ => True
  | config (some apn) username password => ApnFits apn →
    if tooLong networkStringSize username then cString apn = s.parts.apn
    else if tooLong networkStringSize password then
      cString apn = s.parts.apn ∧ username.elim [] cString = s.parts.username
    else (username = none → null s.parts.username = []) ∧
      (password = none → null s.parts.password = [])
  | network none _ => True
  | network (some apn) pdpType => ApnFits apn → tooLong pdpTypeSize pdpType →
    cString apn = s.parts.apn ∧
      (configSaveToFile walnutModules path
        (Function.update s.blocks networkSlot (blockWithApn s.network apn)) s.flash).2.files path =
          s.flash.files path

/-! ## The strings of the block -/

/-- The offset and the width of a field in `NetworkConfig`. -/
def networkFieldPlace : Nat → Nat × Nat
  | 0 => (0, networkStringSize)
  | 1 => (usernameOffset, networkStringSize)
  | 2 => (passwordOffset, networkStringSize)
  | 3 => (96, 4)
  | _ => (100, 1)

theorem places_networkFieldPlace :
    Places [0, 1, 2, 3, 4] networkFieldPlace networkModule.configSize := by
  constructor <;> decide

/-- A network configuration with terminated strings. -/
structure NetworkStrings (block : List Byte) : Prop where
  length : block.length = networkModule.configSize
  terminated : ∀ i ∈ [0, 1, 2], 0 ∈ fieldAt networkFieldPlace block i

variable {block : List Byte}

/-- A terminated string that is written into its field. -/
theorem NetworkStrings.setField (h : NetworkStrings block) {bytes : List Byte} {i : Nat}
    (hi : i ∈ [0, 1, 2]) (hlen : bytes.length = networkStringSize) (hzero : 0 ∈ bytes) :
    NetworkStrings (setField block (networkFieldPlace i).1 bytes) ∧
      fieldString (WalnutGateway.setField block (networkFieldPlace i).1 bytes)
        (networkFieldPlace i).1 = cString bytes ∧
      (∀ j ∈ [0, 1, 2], j ≠ i →
        fieldString (WalnutGateway.setField block (networkFieldPlace i).1 bytes)
          (networkFieldPlace j).1 = fieldString block (networkFieldPlace j).1) ∧
      ∀ j ∈ [3, 4], fieldAt networkFieldPlace
        (WalnutGateway.setField block (networkFieldPlace i).1 bytes) j =
          fieldAt networkFieldPlace block j := by
  have hall {j : Nat} (hj : j ∈ [0, 1, 2]) : j ∈ [0, 1, 2, 3, 4] :=
    List.mem_append_left [3, 4] hj
  have hwidth : (networkFieldPlace i).2 = networkStringSize := by
    simp only [List.mem_cons, List.not_mem_nil, or_false] at hi
    rcases hi with rfl | rfl | rfl <;> rfl
  obtain ⟨hsize, hself, hothers⟩ :=
    places_networkFieldPlace.setField (hall hi) h.length (hlen.trans hwidth.symm)
  have hended : ∀ j ∈ [0, 1, 2], 0 ∈ fieldAt networkFieldPlace
      (WalnutGateway.setField block (networkFieldPlace i).1 bytes) j := by
    intro j hj
    by_cases hji : j = i
    · rwa [hji, hself]
    · rw [hothers j (hall hj) hji]
      exact h.terminated j hj
  refine ⟨⟨hsize, hended⟩, ?_, fun j hj hne => ?_, fun j hj => ?_⟩
  · rw [fieldString_eq (hended i hi)]
    exact congrArg cString hself
  · rw [fieldString_eq (hended j hj), fieldString_eq (h.terminated j hj)]
    exact congrArg cString (hothers j (hall hj) hne)
  · refine hothers j (List.mem_append_right [0, 1, 2] hj) ?_
    simp only [List.mem_cons, List.not_mem_nil, or_false] at hi hj
    omega

/-- The start of a field is written with the rest of it as it is. -/
theorem setField_eq_append {bytes : List Byte} {offset width : Nat}
    (h : offset + bytes.length + width ≤ block.length) :
    setField block offset bytes =
      setField block offset (bytes ++ field block (offset + bytes.length) width) := by
  have hlen : (field block (offset + bytes.length) width).length = width := length_field h
  have hrest : block.drop (offset + bytes.length) =
      field block (offset + bytes.length) width ++
        block.drop (offset + (bytes.length + width)) := by
    rw [← Nat.add_assoc, ← List.drop_drop (i := width), field, List.take_append_drop]
  rw [setField, setField, List.length_append, hlen, hrest, List.append_assoc, List.append_assoc,
    List.append_assoc]

/-- The block after an accepted username or password. -/
def withCredential (block : List Byte) (offset : Nat) (value : Option (List Byte)) : List Byte :=
  setField block offset (value.elim [0] fun v => (utilsStrncpySafe networkStringSize v).toList)

theorem setCredential_eq (block : List Byte) (offset : Nat) (value : Option (List Byte)) :
    setCredential block offset value =
      if tooLong networkStringSize value then none
      else some (withCredential block offset value) := by
  cases value with
  | none => rfl
  | some v => simp [setCredential, tooLong, withCredential]

/-- What is written for a username or a password fills the field. -/
theorem NetworkStrings.withCredential_eq (h : NetworkStrings block) {i : Nat} (hi : i ∈ [1, 2])
    {value : Option (List Byte)} (hshort : tooLong networkStringSize value = false) :
    ∃ bytes : List Byte, bytes.length = networkStringSize ∧ 0 ∈ bytes ∧
      cString bytes = value.elim [] cString ∧
      withCredential block (networkFieldPlace i).1 value =
        WalnutGateway.setField block (networkFieldPlace i).1 bytes := by
  cases value with
  | none =>
    have hfits : (networkFieldPlace i).1 + 1 + (networkStringSize - 1) ≤ block.length := by
      rw [h.length]
      simp only [List.mem_cons, List.not_mem_nil, or_false] at hi
      rcases hi with rfl | rfl <;> decide
    refine ⟨0 :: field block ((networkFieldPlace i).1 + 1) (networkStringSize - 1), ?_,
      List.mem_cons_self .., rfl, setField_eq_append hfits⟩
    rw [List.length_cons, length_field hfits]
    rfl
  | some v =>
    refine ⟨_, length_toList _, zero_mem_utilsStrncpySafe (by decide) v, ?_, rfl⟩
    have hlt : (cString v).length < networkStringSize := by
      simpa [tooLong] using hshort
    rw [cString_utilsStrncpySafe (by decide), Option.elim_some]
    exact List.take_of_length_le (Nat.le_sub_one_of_lt hlt)

/-- The parts after an APN that fits. -/
theorem NetworkStrings.setApn (h : NetworkStrings block) {apn : List Byte} (hfits : ApnFits apn)
    (pdpType : List Byte) :
    NetworkStrings (WalnutGateway.setField block 0
      (utilsStrncpySafe networkStringSize apn).toList) ∧
      apnParts (WalnutGateway.setField block 0 (utilsStrncpySafe networkStringSize apn).toList)
        pdpType = { apnParts block pdpType with apn := cString apn } := by
  obtain ⟨hstrings, hself, hothers, hrest⟩ := h.setField (i := 0) (by decide) (length_toList _)
    (zero_mem_utilsStrncpySafe (by decide) apn)
  refine ⟨hstrings, ?_⟩
  rw [cString_utilsStrncpySafe (by decide),
    List.take_of_length_le (Nat.le_sub_one_of_lt hfits.2)] at hself
  exact ApnParts.ext hself (hothers 1 (by decide) (by decide)) (hothers 2 (by decide) (by decide))
    (hrest 3 (by decide)) (hrest 4 (by decide)) rfl

/-- The parts after a username that fits. -/
theorem NetworkStrings.setUsername (h : NetworkStrings block) {username : Option (List Byte)}
    (hshort : tooLong networkStringSize username = false) (pdpType : List Byte) :
    NetworkStrings (withCredential block usernameOffset username) ∧
      apnParts (withCredential block usernameOffset username) pdpType =
        { apnParts block pdpType with username := username.elim [] cString } := by
  obtain ⟨bytes, hlen, hzero, hstring, heq⟩ := h.withCredential_eq (i := 1) (by decide) hshort
  obtain ⟨hstrings, hself, hothers, hrest⟩ := h.setField (i := 1) (by decide) hlen hzero
  rw [← heq] at hstrings hself hothers hrest
  exact ⟨hstrings, ApnParts.ext (hothers 0 (by decide) (by decide)) (hself.trans hstring)
    (hothers 2 (by decide) (by decide)) (hrest 3 (by decide)) (hrest 4 (by decide)) rfl⟩

/-- The parts after a password that fits. -/
theorem NetworkStrings.setPassword (h : NetworkStrings block) {password : Option (List Byte)}
    (hshort : tooLong networkStringSize password = false) (pdpType : List Byte) :
    NetworkStrings (withCredential block passwordOffset password) ∧
      apnParts (withCredential block passwordOffset password) pdpType =
        { apnParts block pdpType with password := password.elim [] cString } := by
  obtain ⟨bytes, hlen, hzero, hstring, heq⟩ := h.withCredential_eq (i := 2) (by decide) hshort
  obtain ⟨hstrings, hself, hothers, hrest⟩ := h.setField (i := 2) (by decide) hlen hzero
  rw [← heq] at hstrings hself hothers hrest
  exact ⟨hstrings, ApnParts.ext (hothers 0 (by decide) (by decide))
    (hothers 1 (by decide) (by decide)) (hself.trans hstring) (hrest 3 (by decide))
    (hrest 4 (by decide)) rfl⟩

/-! ## The calls -/

variable {path : π} {s : ApnState π} {apn : List Byte}

omit [DecidableEq π] in
theorem ApnState.network_setNetwork (s : ApnState π) (block : List Byte) :
    (s.setNetwork block).network = block := by
  change Function.update s.blocks networkSlot block networkSlot = block
  exact Function.update_self ..

omit [DecidableEq π] in
theorem ApnState.setNetwork_setNetwork (s : ApnState π) (block block' : List Byte) :
    (s.setNetwork block).setNetwork block' = s.setNetwork block' := by
  rw [setNetwork, setNetwork, setNetwork, Function.update_idem]

omit [DecidableEq π] in
theorem ApnState.parts_setNetwork (s : ApnState π) (block : List Byte) :
    (s.setNetwork block).parts = apnParts block s.pdpType := by
  rw [parts, network_setNetwork]
  rfl

theorem ApnState.parts_save (path : π) (s : ApnState π) : (s.save path).parts = s.parts := rfl

theorem networkConfigSetApn_of_not_fits (h : ¬ ApnFits apn)
    (username password : Option (List Byte)) :
    networkConfigSetApn path s (some apn) username password = (.invalidParam, s) := by
  rw [ApnFits, not_and_or, not_not, not_lt] at h
  exact if_pos h

/-- `network_config_set_apn` with an APN that fits: the block is left after the first argument that
is too long, or saved. -/
theorem networkConfigSetApn_eq (h : ApnFits apn) (username password : Option (List Byte)) :
    networkConfigSetApn path s (some apn) username password =
      let first := setField s.network 0 (utilsStrncpySafe networkStringSize apn).toList
      let second := withCredential first usernameOffset username
      let third := withCredential second passwordOffset password
      if tooLong networkStringSize username then (.invalidParam, s.setNetwork first)
      else if tooLong networkStringSize password then (.invalidParam, s.setNetwork second)
      else (.success, (s.setNetwork third).save path) := by
  have hnot : ¬ ((cString apn).length = 0 ∨ (cString apn).length ≥ networkStringSize) := by
    rw [not_or, not_le]
    exact h
  unfold networkConfigSetApn
  dsimp only
  rw [if_neg hnot, ApnState.network_setNetwork, setCredential_eq]
  split_ifs with huser hpass
  · rfl
  · dsimp only
    rw [ApnState.setNetwork_setNetwork, ApnState.network_setNetwork, setCredential_eq, if_pos hpass]
  · dsimp only
    rw [ApnState.setNetwork_setNetwork, ApnState.network_setNetwork, setCredential_eq, if_neg hpass]
    dsimp only
    rw [ApnState.setNetwork_setNetwork]

/-- The string of a terminated field fits it. -/
theorem tooLong_fieldString (offset : Nat) (h : 0 ∈ field block offset networkStringSize) :
    cString (fieldString block offset) = fieldString block offset ∧
      tooLong networkStringSize (some (fieldString block offset)) = false := by
  have hstring : cString (fieldString block offset) = fieldString block offset :=
    cString_of_ne_zero fun _ => ne_zero_of_mem_cString
  have hlt : (fieldString block offset).length < networkStringSize :=
    cString_lt_of_terminated (f := ⟨networkModule, offset, networkStringSize⟩) h
  refine ⟨hstring, ?_⟩
  rw [tooLong, Option.any_some, hstring]
  exact decide_eq_false (not_le.mpr hlt)

/-- With copies of the username and the password nothing is too long. -/
theorem networkConfigSetApn_copies (hblock : NetworkStrings s.network) (h : ApnFits apn) :
    networkConfigSetApn path s (some apn) (some (fieldString s.network usernameOffset))
        (some (fieldString s.network passwordOffset)) =
      (.success, (s.setNetwork (blockWithApn s.network apn)).save path) := by
  obtain ⟨-, husername⟩ := tooLong_fieldString usernameOffset (hblock.terminated 1 (by decide))
  obtain ⟨-, hpassword⟩ := tooLong_fieldString passwordOffset (hblock.terminated 2 (by decide))
  rw [networkConfigSetApn_eq h]
  dsimp only
  rw [husername, hpassword]
  rfl

theorem apnParts_blockWithApn (hblock : NetworkStrings block) (h : ApnFits apn)
    (pdpType : List Byte) : apnParts (blockWithApn block apn) pdpType =
      { apnParts block pdpType with apn := cString apn } := by
  obtain ⟨husername, hushort⟩ :=
    tooLong_fieldString usernameOffset (hblock.terminated 1 (by decide))
  obtain ⟨hpassword, hpshort⟩ :=
    tooLong_fieldString passwordOffset (hblock.terminated 2 (by decide))
  obtain ⟨hfirst, hfirstParts⟩ := hblock.setApn h pdpType
  obtain ⟨hsecond, hsecondParts⟩ := hfirst.setUsername hushort pdpType
  obtain ⟨-, hthirdParts⟩ := hsecond.setPassword hpshort pdpType
  refine hthirdParts.trans ?_
  rw [hsecondParts, hfirstParts, Option.elim_some, Option.elim_some]
  exact ApnParts.ext rfl husername hpassword rfl rfl rfl

omit [DecidableEq π] in
/-- The PDP type is refused where it is too long, and set if there is one. -/
theorem setPdpType_eq (s : ApnState π) (pdpType : Option (List Byte)) :
    (tooLong pdpTypeSize pdpType = true → setPdpType s pdpType = (.invalidParam, s)) ∧
      (tooLong pdpTypeSize pdpType = false → ∃ s', setPdpType s pdpType = (.success, s') ∧
        s'.parts = { s.parts with pdpType := pdpType.elim s.parts.pdpType cString }) := by
  cases pdpType with
  | none => exact ⟨nofun, fun _ => ⟨s, rfl, rfl⟩⟩
  | some value =>
    rw [tooLong, Option.any_some, decide_eq_true_eq, decide_eq_false_iff_not]
    refine ⟨fun hlong => if_pos hlong, fun hshort => ⟨_, if_neg hshort, ?_⟩⟩
    have hstring : cString (setField s.pdpType 0 (cString value ++ [0])) = cString value := by
      rw [setField, List.take_zero, List.nil_append, List.append_assoc, List.singleton_append]
      exact cString_append_zero (fun _ => ne_zero_of_mem_cString) _
    exact ApnParts.ext rfl rfl rfl rfl rfl hstring

section Atomic

variable {null : List Byte → List Byte} {call : ApnCall} {s' : ApnState π}

theorem ApnCall.atomic_of_rejected (h : call.run path s = (.invalidParam, s')) :
    call.Atomic path null s ↔
      s'.parts = s.parts ∧ s'.flash.files path = s.flash.files path := by
  refine ⟨fun hatomic => ?_, fun hsame => ⟨fun _ => ?_, fun hsuccess => ?_⟩⟩
  · have hrejected := hatomic.rejected
    rw [h] at hrejected
    exact hrejected nofun
  · rwa [h]
  · rw [h] at hsuccess
    cases hsuccess

theorem ApnCall.atomic_of_success (h : call.run path s = (.success, s')) :
    call.Atomic path null s ↔ s'.parts = call.given null s.parts := by
  refine ⟨fun hatomic => ?_, fun hgiven => ⟨fun hnot => ?_, fun _ => ?_⟩⟩
  · have haccepted := hatomic.accepted
    rw [h] at haccepted
    exact haccepted rfl
  · rw [h] at hnot
    exact absurd rfl hnot
  · rwa [h]

omit [DecidableEq π] in
/-- A string is written as given, and `NULL` as the empty string. -/
theorem given_eq {value : Option (List Byte)} {old : List Byte} (h : value = none → null old = []) :
    value.elim [] cString = value.elim (null old) cString := by
  cases value with
  | none => exact (h rfl).symm
  | some v => rfl

/-- A call that is rejected at once is atomic. -/
theorem ApnCall.atomic_of_same (h : call.run path s = (.invalidParam, s)) :
    call.Atomic path null s := (atomic_of_rejected h).mpr ⟨rfl, rfl⟩

/-- `network_config_set_apn` changes all parts or none exactly when no username or password is
refused behind a part that changed, and `NULL` may clear. -/
theorem atomic_config_iff (hblock : NetworkStrings s.network) (apn : Option (List Byte))
    (username password : Option (List Byte)) :
    (ApnCall.config apn username password).Atomic path null s ↔
      (ApnCall.config apn username password).Clean path null s := by
  cases apn with
  | none => exact iff_of_true (ApnCall.atomic_of_same rfl) trivial
  | some apn =>
    by_cases hfits : ApnFits apn
    · have hrun : (ApnCall.config (some apn) username password).run path s = _ :=
        networkConfigSetApn_eq hfits username password
      obtain ⟨hfirst, hfirstParts⟩ := hblock.setApn hfits s.pdpType
      dsimp only at hrun
      rw [ApnCall.Clean, forall_prop_of_true hfits]
      by_cases huser : tooLong networkStringSize username = true
      · rw [if_pos huser] at hrun ⊢
        rw [ApnCall.atomic_of_rejected hrun, ApnState.parts_setNetwork, hfirstParts]
        constructor
        · exact fun hsame => congrArg ApnParts.apn hsame.1
        · exact fun hsame => ⟨ApnParts.ext hsame rfl rfl rfl rfl rfl, rfl⟩
      · rw [if_neg huser] at hrun ⊢
        obtain ⟨hsecond, hsecondParts⟩ :=
          hfirst.setUsername (Bool.eq_false_iff.mpr huser) s.pdpType
        by_cases hpass : tooLong networkStringSize password = true
        · rw [if_pos hpass] at hrun ⊢
          rw [ApnCall.atomic_of_rejected hrun, ApnState.parts_setNetwork, hsecondParts, hfirstParts]
          constructor
          · exact fun hsame =>
              ⟨congrArg ApnParts.apn hsame.1, congrArg ApnParts.username hsame.1⟩
          · exact fun hsame => ⟨ApnParts.ext hsame.1 hsame.2 rfl rfl rfl rfl, rfl⟩
        · rw [if_neg hpass] at hrun ⊢
          obtain ⟨-, hthirdParts⟩ :=
            hsecond.setPassword (Bool.eq_false_iff.mpr hpass) s.pdpType
          rw [ApnCall.atomic_of_success hrun, ApnState.parts_save, ApnState.parts_setNetwork,
            hthirdParts, hsecondParts, hfirstParts]
          constructor
          · intro hgiven
            refine ⟨?_, ?_⟩
            · rintro rfl
              exact (congrArg ApnParts.username hgiven).symm
            · rintro rfl
              exact (congrArg ApnParts.password hgiven).symm
          · rintro ⟨husername, hpassword⟩
            refine ApnParts.ext rfl ?_ ?_ rfl rfl rfl
            · exact given_eq husername
            · exact given_eq hpassword
    · exact iff_of_true (ApnCall.atomic_of_same (networkConfigSetApn_of_not_fits hfits _ _))
        fun h => absurd h hfits

/-- `weware_network_set_apn` changes all parts or none exactly when the PDP type is not refused
behind an APN that changed or was saved. -/
theorem atomic_network_iff (hblock : NetworkStrings s.network) (apn pdpType : Option (List Byte)) :
    (ApnCall.network apn pdpType).Atomic path null s ↔
      (ApnCall.network apn pdpType).Clean path null s := by
  cases apn with
  | none =>
    refine iff_of_true ?_ trivial
    obtain ⟨hlong, hshort⟩ := setPdpType_eq s pdpType
    by_cases hpdp : tooLong pdpTypeSize pdpType = true
    · exact ApnCall.atomic_of_same (hlong hpdp)
    · obtain ⟨s', hset, hparts⟩ := hshort (Bool.eq_false_iff.mpr hpdp)
      have hrun : (ApnCall.network none pdpType).run path s = (.success, s') := hset
      exact (ApnCall.atomic_of_success hrun).mpr hparts
  | some apn =>
    by_cases hfits : ApnFits apn
    · have hrun : (ApnCall.network (some apn) pdpType).run path s =
          setPdpType ((s.setNetwork (blockWithApn s.network apn)).save path) pdpType := by
        change wewareNetworkSetApn path s (some apn) pdpType = _
        unfold wewareNetworkSetApn
        dsimp only
        rw [networkConfigSetApn_copies hblock hfits]
      obtain ⟨hlong, hshort⟩ :=
        setPdpType_eq ((s.setNetwork (blockWithApn s.network apn)).save path) pdpType
      have hparts : ((s.setNetwork (blockWithApn s.network apn)).save path).parts =
          { s.parts with apn := cString apn } := by
        rw [ApnState.parts_save, ApnState.parts_setNetwork]
        exact apnParts_blockWithApn hblock hfits s.pdpType
      rw [ApnCall.Clean, forall_prop_of_true hfits]
      by_cases hpdp : tooLong pdpTypeSize pdpType = true
      · rw [forall_prop_of_true hpdp, ApnCall.atomic_of_rejected (hrun.trans (hlong hpdp)), hparts]
        refine and_congr_left fun _ => ⟨fun hsame => congrArg ApnParts.apn hsame, fun hsame => ?_⟩
        exact ApnParts.ext hsame rfl rfl rfl rfl rfl
      · obtain ⟨s', hset, hset'⟩ := hshort (Bool.eq_false_iff.mpr hpdp)
        refine iff_of_true ?_ fun h => absurd h hpdp
        rw [ApnCall.atomic_of_success (hrun.trans hset), hset', hparts]
        rfl
    · refine iff_of_true (ApnCall.atomic_of_same ?_) fun h => absurd h hfits
      change wewareNetworkSetApn path s (some apn) pdpType = _
      unfold wewareNetworkSetApn
      dsimp only
      rw [networkConfigSetApn_of_not_fits hfits]

end Atomic

/-- Setting the APN is atomic exactly when no check fails behind an argument that changed something,
whatever `NULL` is to mean for a username or a password. -/
theorem apn_call_atomic_iff (path : π) (null : List Byte → List Byte) {s : ApnState π}
    (hblock : NetworkStrings s.network) (call : ApnCall) :
    call.Atomic path null s ↔ call.Clean path null s := by
  cases call with
  | config apn username password => exact atomic_config_iff hblock apn username password
  | network apn pdpType => exact atomic_network_iff hblock apn pdpType

/-- The default configurations on an empty flash, and the PDP type of the firmware. -/
def apnDefaults : ApnState Unit where
  blocks i := (walnutModules[i]?).elim [] ModuleConfig.defaultBlock
  flash := ⟨fun _ => none, []⟩
  pdpType := asciiBytes "IP" ++ List.replicate 14 0

theorem apn_call_atomic_airtel :
    let call := ApnCall.config (some (asciiBytes "airtelgprs.com")) none none
    call.Atomic () (fun _ => []) apnDefaults := by
  intro call
  have hstrings : NetworkStrings apnDefaults.network := by
    constructor <;> decide +kernel
  exact (apn_call_atomic_iff () _ hstrings call).mpr fun _ => by decide +kernel

/-- A username of 32 characters is refused when the APN is already another one, and a PDP type of 16
when the APN is already saved. -/
theorem refused_username_leaves_apn :
    let apn := some (asciiBytes "airtelgprs.com")
    let username := ApnCall.config apn (some (List.replicate 32 0x75)) none
    let pdpType := ApnCall.network apn (some (List.replicate 16 0x49))
    NetworkStrings apnDefaults.network ∧
      (username.run () apnDefaults).1 = .invalidParam ∧
      (username.run () apnDefaults).2.parts.apn = asciiBytes "airtelgprs.com" ∧
      (pdpType.run () apnDefaults).1 = .invalidParam ∧
      (pdpType.run () apnDefaults).2.flash.files () ≠ none ∧
      ∀ null, ¬ username.Atomic () null apnDefaults ∧ ¬ pdpType.Atomic () null apnDefaults := by
  intro apn username pdpType
  have hstrings : NetworkStrings apnDefaults.network := by
    constructor <;> decide +kernel
  have husername : (username.run () apnDefaults).1 = .invalidParam ∧
      (username.run () apnDefaults).2.parts.apn = asciiBytes "airtelgprs.com" := by
    decide +kernel
  have hpdpType : (pdpType.run () apnDefaults).1 = .invalidParam ∧
      (pdpType.run () apnDefaults).2.flash.files () ≠ none := by
    decide +kernel
  refine ⟨hstrings, husername.1, husername.2, hpdpType.1, hpdpType.2, fun null => ⟨?_, ?_⟩⟩
  · intro hatomic
    have hsame := (hatomic.rejected (by rw [husername.1]; exact nofun)).1
    have hold : apnDefaults.parts.apn ≠ asciiBytes "airtelgprs.com" := by decide +kernel
    exact hold ((congrArg ApnParts.apn hsame).symm.trans husername.2)
  · intro hatomic
    exact hpdpType.2 (hatomic.rejected (by rw [hpdpType.1]; exact nofun)).2

end WalnutGateway
