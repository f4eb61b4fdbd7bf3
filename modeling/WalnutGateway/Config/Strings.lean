import WalnutGateway.Config.Load

/-!
# Strings in loaded configurations

The string functions that later read a loaded configuration stop at the first NUL.
The defaults end every string field with one, so a field can lose it only where the
file fills the field to its end, and where the check does not throw the entry out.
-/

namespace WalnutGateway

/-! ## Fields of an overlay -/

/-- A string field of a module. -/
structure StringField where
  module : ModuleConfig
  offset : Nat
  size : Nat

/-- The string fields that are kept in the file: `apn`, `username`, `password`,
`server_ip` and `auth_password`. -/
def stringFields : List StringField :=
  [⟨networkModule, 0, 32⟩, ⟨networkModule, usernameOffset, 32⟩, ⟨networkModule, passwordOffset, 32⟩,
    ⟨tcpModule, 0, serverIpSize⟩, ⟨commandModule, authPasswordOffset, authPasswordSize⟩]

/-- There is a NUL inside the field. -/
def StringField.Terminated (f : StringField) (block : List Byte) : Prop :=
  0 ∈ field block f.offset f.size

instance (f : StringField) (block : List Byte) : Decidable (f.Terminated block) :=
  inferInstanceAs (Decidable (_ ∈ _))

theorem field_eq_of_extends {bs cs : List Byte} (h : bs <+: cs) {offset width : Nat}
    (hlen : offset + width ≤ bs.length) : field cs offset width = field bs offset width := by
  obtain ⟨tail, rfl⟩ := h
  rw [field, List.drop_append_of_le_length (by omega), List.take_append_of_le_length, field]
  rw [List.length_drop]
  omega

theorem mem_field {block : List Byte} {offset width j : Nat} {b : Byte} (hb : block[j]? = some b)
    (hlo : offset ≤ j) (hhi : j < offset + width) : b ∈ field block offset width := by
  apply List.mem_of_getElem? (i := j - offset)
  rw [field, List.getElem?_take_of_lt (by omega), List.getElem?_drop, Nat.add_sub_cancel' hlo, hb]

/-- Where the defaults write a byte, a block with the defaults has it. -/
theorem HoldsDefaults.getElem? {defaults : List (Option Byte)} {bytes : List Byte}
    (h : HoldsDefaults defaults bytes) {j : Nat} {x : Byte} (hx : defaults[j]? = some (some x))
    (hj : j < bytes.length) : bytes[j]? = some x := by
  obtain ⟨b, hb⟩ : ∃ b, bytes[j]? = some b := ⟨_, List.getElem?_eq_getElem hj⟩
  have hmem : (some x, b) ∈ defaults.zip bytes := by
    apply List.mem_of_getElem? (i := j)
    rw [List.getElem?_zip_eq_some]
    exact ⟨hx, hb⟩
  rw [hb]
  exact congrArg some (h _ hmem x rfl)

/-! ## Fields that the defaults terminate -/

/-- The field lies in the structure, and the defaults put a NUL at its end. -/
structure StringField.Closed (f : StringField) : Prop where
  inside : f.offset + f.size ≤ f.module.configSize
  pos : 0 < f.size
  last : f.module.defaults[f.offset + f.size - 1]? = some (some 0)

theorem closed_stringFields : ∀ f ∈ stringFields, f.Closed := by
  simp only [stringFields, List.forall_mem_cons]
  refine ⟨⟨?_, ?_, ?_⟩, ⟨?_, ?_, ?_⟩, ⟨?_, ?_, ?_⟩, ⟨?_, ?_, ?_⟩, ⟨?_, ?_, ?_⟩, nofun⟩ <;>
    decide +kernel

namespace StringField

variable {f : StringField}

theorem Closed.terminated_defaults (h : f.Closed) {block : List Byte}
    (hblock : HoldsDefaults f.module.defaults block) (hlen : block.length = f.module.configSize) :
    f.Terminated block := by
  have hinside := h.inside
  have hpos := h.pos
  apply mem_field (hblock.getElem? h.last (by omega)) <;> omega

/-- Over the defaults a field is terminated unless the data fills it without a NUL. -/
theorem Closed.terminated_overlay (h : f.Closed) {block : List Byte}
    (hblock : HoldsDefaults f.module.defaults block) (hlen : block.length = f.module.configSize)
    (data : List Byte) : f.Terminated (overlay block data) ↔
      (f.offset + f.size ≤ data.length → f.Terminated data) := by
  have hinside := h.inside
  have hpos := h.pos
  by_cases hfill : f.offset + f.size ≤ data.length
  · have hfield : field (overlay block data) f.offset f.size = field data f.offset f.size :=
      field_eq_of_extends (List.prefix_append _ _) hfill
    rw [Terminated, hfield]
    exact ⟨fun ht _ => ht, fun ht => ht hfill⟩
  · refine ⟨fun _ hle => absurd hle hfill, fun _ => ?_⟩
    have hlast := hblock.getElem? h.last (by omega)
    apply mem_field (j := f.offset + f.size - 1)
    · rw [overlay, List.getElem?_append_right (by omega), List.getElem?_drop, ← hlast]
      congr 1
      omega
    · omega
    · omega

end StringField

/-! ## The checks -/

theorem terminated_of_cString_lt {f : StringField} {block : List Byte}
    (h : (fieldString block f.offset).length < f.size)
    (hlen : f.offset + f.size ≤ block.length) : f.Terminated block := by
  by_contra hnot
  have hall : ∀ b ∈ (block.drop f.offset).take f.size, b ≠ 0 := by
    rintro b hb rfl
    exact hnot hb
  have hsplit := List.take_append_drop f.size (block.drop f.offset)
  have hle : f.size ≤ (fieldString block f.offset).length := by
    rw [fieldString, cString, ← hsplit, List.takeWhile_append_of_pos (by simpa using hall),
      List.length_append, List.length_take, List.length_drop]
    omega
  omega

/-- A terminated field holds a string that fits it. -/
theorem cString_lt_of_terminated {f : StringField} {block : List Byte} (h : f.Terminated block) :
    (fieldString block f.offset).length < f.size := by
  by_contra hnot
  have hstart : (block.drop f.offset).take f.size <+: fieldString block f.offset := by
    have hstring : fieldString block f.offset <+: block.drop f.offset := List.takeWhile_prefix _
    refine List.prefix_of_prefix_length_le (List.take_prefix _ _) hstring ?_
    rw [List.length_take]
    omega
  exact ne_zero_of_mem_cString (hstart.subset h) rfl

/-- The check of the command configuration wants a NUL in `auth_password`. -/
theorem terminated_of_commandConfigValidate {block : List Byte}
    (h : commandConfigValidate block = true) (hlen : block.length = commandModule.configSize) :
    StringField.Terminated ⟨commandModule, authPasswordOffset, authPasswordSize⟩ block := by
  simp only [commandConfigValidate, decide_eq_true_eq, not_or, not_le, ge_iff_le] at h
  apply terminated_of_cString_lt h.2
  rw [hlen]
  decide

/-- The check of the TCP configuration wants one in `server_ip`. -/
theorem terminated_of_wewareTcpConfigValidate {block : List Byte}
    (h : wewareTcpConfigValidate block = true) (hlen : block.length = tcpModule.configSize) :
    StringField.Terminated ⟨tcpModule, 0, serverIpSize⟩ block := by
  simp only [wewareTcpConfigValidate, tcpConfigHostIsValid, Bool.and_eq_true,
    decide_eq_true_eq, not_or, not_le, ge_iff_le] at h
  apply terminated_of_cString_lt h.1.1.1.2
  rw [hlen]
  decide

/-- The check of the network configuration looks at the first byte only. -/
theorem networkConfigValidate_cons (b : Byte) (bs : List Byte) :
    networkConfigValidate (b :: bs) = decide (b ≠ 0) := by
  by_cases hb : b = 0
  · simp [networkConfigValidate, fieldString, cString, hb]
  · simp [networkConfigValidate, fieldString, cString, hb]

/-! ## A reader -/

/-- `strcpy` of the string at `offset` into an array of `n` bytes; `none` where it
writes over the end of the array. -/
def strcpyInto (n : Nat) (block : List Byte) (offset : Nat) : Option (CArray n) :=
  let s := fieldString block offset
  if s.length < n then some (CArray.ofList n s) else none

/-- The copies of `username` and `password` that `weware_network_set_apn` takes. -/
def wewareNetworkSetApnCopies (cfg : List Byte) : Option (CArray 32 × CArray 32) := do
  let user ← strcpyInto 32 cfg usernameOffset
  let pass ← strcpyInto 32 cfg passwordOffset
  return (user, pass)

/-- Both copies stay in their arrays exactly when both fields are terminated. -/
theorem wewareNetworkSetApnCopies_isSome {cfg : List Byte}
    (hlen : cfg.length = networkModule.configSize) :
    (wewareNetworkSetApnCopies cfg).isSome = true ↔
      StringField.Terminated ⟨networkModule, usernameOffset, 32⟩ cfg ∧
        StringField.Terminated ⟨networkModule, passwordOffset, 32⟩ cfg := by
  have hcopy (offset : Nat) (hinside : offset + 32 ≤ networkModule.configSize) :
      (fieldString cfg offset).length < 32 ↔
        StringField.Terminated ⟨networkModule, offset, 32⟩ cfg := by
    refine ⟨fun h => terminated_of_cString_lt h (hlen ▸ hinside), ?_⟩
    intro h
    exact cString_lt_of_terminated h
  rw [← hcopy usernameOffset (by decide), ← hcopy passwordOffset (by decide)]
  unfold wewareNetworkSetApnCopies strcpyInto
  by_cases huser : (fieldString cfg usernameOffset).length < 32
  · by_cases hpass : (fieldString cfg passwordOffset).length < 32
    · simp [huser, hpass]
    · simp [huser, hpass]
  · simp [huser]

/-! ## The check of an entry over the defaults -/

theorem zipWith_getD_eq {defaults : List (Option Byte)} (hall : ∀ d ∈ defaults, d.isSome = true)
    {block block' : List Byte} (hlen : block.length = block'.length) :
    List.zipWith (fun d b => d.getD b) defaults block =
      List.zipWith (fun d b => d.getD b) defaults block' := by
  induction defaults generalizing block block' with
  | nil => rfl
  | cons d ds ih =>
    rw [List.forall_mem_cons] at hall
    cases block with
    | nil =>
      rw [List.length_eq_zero_iff.mp hlen.symm]
    | cons b bs =>
      cases block' with
      | nil => cases hlen
      | cons b' bs' =>
        rw [List.zipWith_cons_cons, List.zipWith_cons_cons, ih hall.2 (Nat.succ.inj hlen)]
        obtain ⟨x, rfl⟩ := Option.isSome_iff_exists.mp hall.1
        rfl

/-- Defaults that write every byte leave the same block always. -/
theorem ModuleConfig.getDefaults_eq_defaultBlock {m : ModuleConfig}
    (hall : ∀ d ∈ m.defaults, d.isSome = true) {block : List Byte}
    (hlen : block.length = m.configSize) : m.getDefaults block = m.defaultBlock :=
  zipWith_getD_eq hall (hlen.trans (List.length_replicate ..).symm)

/-- Where an entry fills a string field, its check gives the same over any defaults. -/
theorem validates_overlay_eq {f : StringField} (hf : f ∈ stringFields) {block : List Byte}
    (hlen : block.length = f.module.configSize) {data : List Byte}
    (hfill : f.offset + f.size ≤ data.length) :
    f.module.validates (overlay (f.module.getDefaults block) data) =
      f.module.validates (overlay f.module.defaultBlock data) := by
  have hnetwork {data : List Byte} (hpos : 0 < data.length) (block block' : List Byte) :
      networkModule.validates (overlay block data) =
        networkModule.validates (overlay block' data) := by
    obtain ⟨b, bs, rfl⟩ := List.exists_cons_of_length_pos hpos
    exact (networkConfigValidate_cons b _).trans (networkConfigValidate_cons b _).symm
  simp only [stringFields, List.mem_cons, List.not_mem_nil, or_false] at hf
  rcases hf with rfl | rfl | rfl | rfl | rfl
  · exact hnetwork (lt_of_lt_of_le (by decide) hfill) _ _
  · exact hnetwork (lt_of_lt_of_le (by decide) hfill) _ _
  · exact hnetwork (lt_of_lt_of_le (by decide) hfill) _ _
  · rw [ModuleConfig.getDefaults_eq_defaultBlock (by decide +kernel) hlen]
  · rw [ModuleConfig.getDefaults_eq_defaultBlock (by decide +kernel) hlen]

theorem isStored_of_mem_stringFields : ∀ f ∈ stringFields, f.module.isStored = true := by
  simp only [stringFields, List.forall_mem_cons]
  exact ⟨rfl, rfl, rfl, rfl, rfl, nofun⟩

/-! ## After a load -/

variable {π : Type} [DecidableEq π]

/-- For every file and every answer of the driver, each string field is terminated after
a load exactly when the last entry that fills it brings a NUL inside the field, or was
read completely and fails the check. -/
theorem config_load_from_file_terminated_iff {mods : List ModuleConfig} (path : π)
    {blocks : ConfigBlocks} (hb : blocks.Sized mods) (fs : Flash π) :
    (∀ p ∈ mods.zipIdx, ∀ f ∈ stringFields, f.module = p.1 →
      f.Terminated ((configLoadFromFile mods path blocks fs).1 p.2)) ↔
    ∀ p ∈ mods.zipIdx, ∀ f ∈ stringFields, f.module = p.1 →
      ∀ pre v, LastVisit (configVisits mods path fs) p.2 pre v →
        f.offset + f.size ≤ v.data.length →
          f.Terminated v.data ∨
            (v.Complete p.1 ∧ p.1.validates (overlay p.1.defaultBlock v.data) = false) := by
  apply forall₂_congr
  intro p hp
  apply forall₂_congr
  intro f hf
  apply forall_congr'
  rintro hmodule
  obtain ⟨m, i⟩ := p
  obtain rfl : f.module = m := hmodule
  have hclosed := closed_stringFields f hf
  have hstored := isStored_of_mem_stringFields f hf
  rcases exists_lastVisit (configVisits mods path fs) i with hnone | ⟨pre, v, hl⟩
  · -- the defaults of the boot are still there
    refine iff_of_true ?_ ?_
    · have hsized :
          ((configLoadFromFile mods path blocks fs).1 i).length = f.module.configSize := by
        rw [configLoadFromFile_blocks, foldl_applyVisit_of_not_on _ _ hnone]
        exact hb.initializeModuleDefaults _ hp
      exact hclosed.terminated_defaults
        (holdsDefaults_of_not_visited path blocks fs hp hstored hnone) hsized
    · rintro pre v ⟨post, heq, hon, -⟩
      refine absurd hon (hnone v ?_)
      rw [heq]
      simp
  · obtain ⟨-, -, hdata, hlen, heq⟩ := hl.left hb hp
    generalize hblock : pre.foldl applyVisit (initializeModuleDefaults mods blocks) i = block at heq
    rw [hblock] at hlen
    have hdefaults := f.module.length_getDefaults hlen
    have hoverlay := hclosed.terminated_overlay (f.module.holdsDefaults_getDefaults block)
      hdefaults v.data
    have hreverted :
        f.Terminated (f.module.getDefaults (overlay (f.module.getDefaults block) v.data)) := by
      apply hclosed.terminated_defaults (f.module.holdsDefaults_getDefaults _)
      apply f.module.length_getDefaults
      have hfits : v.data.length ≤ (f.module.getDefaults block).length := hdefaults ▸ hdata
      rw [length_overlay hfits, hdefaults]
    have hcheck (hfill : f.offset + f.size ≤ v.data.length) := validates_overlay_eq hf hlen hfill
    have hlast : (∀ pre' w, LastVisit (configVisits mods path fs) i pre' w →
        f.offset + f.size ≤ w.data.length → f.Terminated w.data ∨ (w.Complete f.module ∧
          f.module.validates (overlay f.module.defaultBlock w.data) = false)) ↔
        (f.offset + f.size ≤ v.data.length → f.Terminated v.data ∨ (v.Complete f.module ∧
          f.module.validates (overlay f.module.defaultBlock v.data) = false)) := by
      refine ⟨fun h => h pre v hl, ?_⟩
      intro h pre' w hw
      rw [← hl.unique hw]
      exact h
    rw [hlast, heq]
    unfold ModuleConfig.loaded
    dsimp only
    by_cases hcomplete : v.Complete f.module
    · rw [if_neg (not_not_intro hcomplete)]
      cases hvalid : f.module.validates (overlay (f.module.getDefaults block) v.data) with
      | true =>
        rw [if_pos rfl, hoverlay]
        refine forall_congr' fun hfill => ?_
        rw [← hcheck hfill, hvalid]
        simp
      | false =>
        rw [if_neg Bool.false_ne_true]
        refine iff_of_true hreverted ?_
        intro hfill
        rw [← hcheck hfill]
        exact Or.inr ⟨hcomplete, hvalid⟩
    · rw [if_pos hcomplete, hoverlay]
      refine forall_congr' fun _ => ?_
      simp [hcomplete]

/-- An entry for the access point "m2m" without a user keeps its strings terminated. -/
theorem config_load_from_file_terminated_iff_entry :
    let fs := configFlash (oneEntryFile networkModule 104
      (setField networkModule.defaultBlock 0 (utilsStrncpySafe 32 (asciiBytes "m2m")).toList))
    ∀ p ∈ [networkModule].zipIdx, ∀ f ∈ stringFields, f.module = p.1 →
      f.Terminated
        ((configLoadFromFile [networkModule] () (zeroBlocks networkModule) fs).1 p.2) := by
  intro fs
  refine (config_load_from_file_terminated_iff () (sized_zeroBlocks networkModule) fs).mpr ?_
  intro p hp f hf hmodule pre v hl _
  obtain ⟨post, heq, -⟩ := hl
  have hmem : v ∈ configVisits [networkModule] () fs := by
    rw [heq]
    simp
  have hdata : ∀ v ∈ configVisits [networkModule] () fs,
      0 ∈ field v.data 0 32 ∧ 0 ∈ field v.data usernameOffset 32 ∧
        0 ∈ field v.data passwordOffset 32 := by
    decide +kernel
  obtain rfl : p = (networkModule, 0) := by simpa using hp
  have hname := congrArg ModuleConfig.configSize hmodule
  simp only [stringFields, List.mem_cons, List.not_mem_nil, or_false] at hf
  rcases hf with rfl | rfl | rfl | rfl | rfl
  · exact Or.inl (hdata v hmem).1
  · exact Or.inl (hdata v hmem).2.1
  · exact Or.inl (hdata v hmem).2.2
  · exact absurd hname (by decide)
  · exact absurd hname (by decide)

/-- A whole network entry of letters passes the check, and the copies of its user run
over their arrays; a command entry that ends one byte early is kept although no check
has seen it. -/
theorem config_load_from_file_not_terminated :
    let letters := List.replicate 104 (0x41 : Byte)
    let network := (configLoadFromFile [networkModule] () (zeroBlocks networkModule)
      (configFlash (oneEntryFile networkModule 104 letters))).1 0
    let command := (configLoadFromFile [commandModule] () (zeroBlocks commandModule)
      (configFlash (oneEntryFile commandModule 36 (letters.take 35)))).1 0
    (¬ StringField.Terminated ⟨networkModule, 0, 32⟩ network ∧
        ¬ StringField.Terminated ⟨networkModule, usernameOffset, 32⟩ network ∧
        wewareNetworkSetApnCopies network = none) ∧
      ¬ StringField.Terminated ⟨commandModule, authPasswordOffset, authPasswordSize⟩ command := by
  decide +kernel

end WalnutGateway
