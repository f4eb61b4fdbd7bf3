import WalnutGateway.Config.GetStrings
import WalnutGateway.Network.Apn

/-!
# Configurations are read back

What a get function writes is given to the set function of the same module. The configuration is one
that accepted strings made of the defaults, so its strings have no comma and no blank at their end,
and its numbers are in their ranges.
-/

namespace WalnutGateway

/-! ## Round trips -/

/-- What a set function returns, and the configuration it leaves. -/
def SetReply.outcome (r : SetReply) : Result × List Byte := (r.result, r.block)

/-- The configurations that accepted strings make of the first one. -/
inductive ReachableConfig {σ : Type} (set : Bool → List Byte → σ → Result × σ) (first : σ) :
    σ → Prop
  | first : ReachableConfig set first first
  | set {alloc : Bool} {configString : List Byte} {s s' : σ} (h : ReachableConfig set first s)
    (haccepted : set alloc configString s = (.success, s')) : ReachableConfig set first s'

theorem ReachableConfig.invariant {σ : Type} {set : Bool → List Byte → σ → Result × σ} {first : σ}
    {Good : σ → Prop} (hfirst : Good first)
    (hset : ∀ alloc configString s s', Good s → set alloc configString s = (.success, s') → Good s')
    {s : σ} (h : ReachableConfig set first s) : Good s := by
  induction h with
  | first => exact hfirst
  | set _ haccepted ih => exact hset _ _ _ _ ih haccepted

/-- `GET` gives a text, and `SET` with it, and with memory, changes nothing. -/
def ReadsBack {σ : Type} (set : Bool → List Byte → σ → Result × σ)
    (getString : σ → Nat → Except Result (List Byte)) (s : σ) : Prop :=
  ∃ text, getString s cmdHandlerMaxResponseLength = .ok text ∧ set true text s = (.success, s)

/-! ## Fields that are written back -/

theorem setField_field {block : List Byte} {offset width : Nat}
    (h : offset + width ≤ block.length) :
    setField block offset (field block offset width) = block := by
  rw [setField, length_field h, field, ← List.drop_drop, List.append_assoc,
    List.take_append_drop, List.take_append_drop]

theorem writeFields_self {place : Nat → Nat × Nat} {values : Nat → List Byte} {block : List Byte}
    {indices : List Nat}
    (h : ∀ i ∈ indices, (place i).1 + (place i).2 ≤ block.length ∧
      values i = fieldAt place block i) : writeFields place values block indices = block := by
  induction indices with
  | nil => rfl
  | cons i indices ih =>
    obtain ⟨⟨hinside, hvalue⟩, hrest⟩ := List.forall_mem_cons.mp h
    have hself : setField block (place i).1 (values i) = block := by
      rw [hvalue]
      exact setField_field hinside
    have hstep : writeFields place values block (i :: indices) =
        writeFields place values (setField block (place i).1 (values i)) indices := rfl
    rw [hstep, hself, ih hrest]

/-- A string that is copied twice. -/
theorem utilsStrncpySafe_toList {n : Nat} (hn : 0 < n) (src : List Byte) :
    utilsStrncpySafe n (utilsStrncpySafe n src).toList = utilsStrncpySafe n src := by
  unfold utilsStrncpySafe
  congr 1
  change (cString (utilsStrncpySafe n src).toList).take (n - 1) = _
  rw [cString_utilsStrncpySafe hn, List.take_take, Nat.min_self]

/-- The bytes of an array of `n` bytes with a value that stands for itself in a token, padded with
NULs. -/
def HoldsValue (n : Nat) (value bytes : List Byte) : Prop :=
  ValueText isBlank value ∧ value.length < n ∧ bytes = (utilsStrncpySafe n value).toList

theorem HoldsValue.string {n : Nat} {value bytes : List Byte} (h : HoldsValue n value bytes) :
    cString bytes = value := by
  obtain ⟨htext, hlen, rfl⟩ := h
  rw [cString_utilsStrncpySafe (by omega), cString_of_ne_zero fun c hc => (htext.plain c hc).2]
  exact List.take_of_length_le (by omega)

/-- The string at a field with such bytes, and a copy of it. -/
theorem HoldsValue.copy {n offset : Nat} {value block : List Byte}
    (h : HoldsValue n value (field block offset n)) :
    fieldString block offset = value ∧
      utilsStrncpySafe n (block.drop offset) = utilsStrncpySafe n value := by
  have hzero : 0 ∈ field block offset n := by
    rw [h.2.2]
    exact zero_mem_utilsStrncpySafe (by have := h.2.1; omega) value
  have hstring : fieldString block offset = value := by
    rw [fieldString_eq hzero]
    exact h.string
  refine ⟨hstring, ?_⟩
  unfold utilsStrncpySafe
  rw [cString_of_ne_zero fun c hc => (h.1.plain c hc).2]
  exact congrArg (fun s => CArray.ofList n (s.take (n - 1))) hstring

/-- The value of a keyed token stands for itself. -/
theorem valueText_of_mem_keyedTokens {table : List (String × Nat)} {s : List Byte}
    {a : Nat × List Byte}
    (h : a ∈ keyedTokens table (strtokTokens (· == comma) (cString s))) :
    ValueText isBlank a.2 := by
  obtain ⟨t, ht, h⟩ := List.mem_filterMap.mp h
  obtain ⟨index, hindex, rfl⟩ := Option.map_eq_some_iff.mp h
  obtain ⟨key, hkey, -⟩ := Option.bind_eq_some_iff.mp hindex
  have hcolon : colon ∈ utilsTrimWhitespace t := by
    unfold utilsConfigParseKey at hkey
    dsimp only at hkey
    split_ifs at hkey with hnot
    exact hnot
  have hvalue : utilsExtractConfigValue (utilsTrimWhitespace t) =
      ((utilsTrimWhitespace t).dropWhile (· != colon)).drop 1 := if_pos hcolon
  have hsuffix : utilsExtractConfigValue (utilsTrimWhitespace t) <:+ utilsTrimWhitespace t := by
    rw [hvalue]
    exact (List.drop_suffix _ _).trans (List.dropWhile_suffix _)
  constructor
  · intro c hc
    obtain ⟨hcomma, hmem⟩ := (mem_strtokTokens ht).2 c (mem_trim (hsuffix.subset hc))
    exact ⟨by simpa using hcomma, ne_zero_of_mem_cString hmem⟩
  · intro c hc
    obtain ⟨before, hbefore⟩ := hsuffix
    have hne : utilsExtractConfigValue (utilsTrimWhitespace t) ≠ [] := by
      intro hnil
      rw [hnil] at hc
      cases hc
    have hlast : c ∈ (utilsTrimWhitespace t).getLast? := by
      rw [← hbefore, List.getLast?_append_of_ne_nil _ hne]
      exact hc
    have htoken : utilsTrimWhitespace t ≠ [] := by
      intro hnil
      rw [hnil] at hlast
      cases hlast
    rw [List.getLast?_eq_some_getLast htoken, Option.mem_some_iff] at hlast
    rw [← hlast]
    exact Bool.eq_false_iff.mpr (List.rdropWhile_last_not isBlank _ htoken)

/-- A text that fits the response is copied as it is. -/
theorem PlainText.copy {ι : Type} {p : Byte → Bool} {format : List (String × ι)}
    {values : ι → List Byte} (h : PlainText p format values)
    (hlen : (configText format values).length < cmdHandlerMaxResponseLength) :
    utilsStrdupForTokenization true (configText format values) =
      some (configText format values) := by
  unfold utilsStrdupForTokenization
  dsimp only
  unfold cmdHandlerMaxResponseLength at hlen
  rw [h.cString, if_neg (by unfold utilsStrdupTokenizationMaxLen; omega), if_pos rfl]

/-- A `BOOL` is read back from its word. -/
theorem boolText_read {bytes : List Byte} (h : bytes = [0] ∨ bytes = [1]) :
    ValueText isspace (boolText "TRUE" "FALSE" bytes) ∧
      (parseBool (boolText "TRUE" "FALSE" bytes)).map (fun b => [b]) = some bytes := by
  have htext : ValueText isspace (asciiBytes "TRUE") ∧ ValueText isspace (asciiBytes "FALSE") := by
    constructor <;> constructor <;> decide +kernel
  rcases h with rfl | rfl
  · exact ⟨htext.2, by decide⟩
  · exact ⟨htext.1, by decide⟩

theorem length_boolText {bytes : List Byte} (h : bytes = [0] ∨ bytes = [1]) :
    (boolText "TRUE" "FALSE" bytes).length ≤ 5 := by
  rcases h with rfl | rfl <;> decide

/-! ## Network -/

/-- What set strings leave in the field for an index of `network_config_set`. -/
def NetworkFieldSet (bytes : List Byte) : Nat → Prop
  | 0 => ∃ value, HoldsValue networkStringSize value bytes ∧ value ≠ []
  | 1 | 2 => ∃ value, HoldsValue networkStringSize value bytes
  | 3 => ∃ n, 1 ≤ n ∧ n ≤ 16 ∧ bytes = leBytes 4 n
  | _ => bytes = [0] ∨ bytes = [1]

/-- The indices of `network_config_set`. -/
def networkIndices : List Nat := [0, 1, 2, 3, 4]

theorem of_mem_networkIndices {i : Nat} (h : i ∈ networkIndices) :
    i = 0 ∨ i = 1 ∨ i = 2 ∨ i = 3 ∨ i = 4 := by
  simpa [networkIndices] using h

/-- A configuration that set strings may leave. -/
structure NetworkSet (block : List Byte) : Prop where
  length : block.length = networkModule.configSize
  fields : ∀ i ∈ networkIndices, NetworkFieldSet (fieldAt networkFieldPlace block i) i

/-- The bytes that a temporary puts into the configuration. -/
def NetworkTemp.bytes (temp : NetworkTemp) : Nat → List Byte
  | 0 => (utilsStrncpySafe networkStringSize temp.apn.toList).toList
  | 1 => (utilsStrncpySafe networkStringSize temp.username.toList).toList
  | 2 => (utilsStrncpySafe networkStringSize temp.password.toList).toList
  | 3 => leBytes 4 temp.cid
  | _ => temp.autoConnect

/-- Temporaries that set strings may leave. -/
def NetworkTemp.Set (temp : NetworkTemp) : Prop :=
  ∀ i ∈ networkIndices, NetworkFieldSet (temp.bytes i) i

theorem NetworkTemp.update_eq (temp : NetworkTemp) (config : List Byte) :
    temp.update config = writeFields networkFieldPlace temp.bytes config networkIndices := rfl

section Network

variable {block : List Byte}

theorem NetworkFieldSet.length {bytes : List Byte} {i : Nat} (hi : i ∈ networkIndices)
    (h : NetworkFieldSet bytes i) : bytes.length = (networkFieldPlace i).2 := by
  rcases of_mem_networkIndices hi with rfl | rfl | rfl | rfl | rfl
  · obtain ⟨value, ⟨-, -, rfl⟩, -⟩ := h
    exact length_toList _
  · obtain ⟨value, -, -, rfl⟩ := h
    exact length_toList _
  · obtain ⟨value, -, -, rfl⟩ := h
    exact length_toList _
  · obtain ⟨n, -, -, rfl⟩ := h
    exact length_leBytes 4 n
  · rcases h with rfl | rfl <;> rfl

/-- The temporaries before the first token hold the fields. -/
theorem NetworkSet.ofConfig_bytes (h : NetworkSet block) :
    ∀ i ∈ networkIndices, (NetworkTemp.ofConfig block).bytes i =
      fieldAt networkFieldPlace block i := by
  have hstring {value : List Byte} {offset : Nat}
      (hvalue : HoldsValue networkStringSize value (field block offset networkStringSize)) :
      (utilsStrncpySafe networkStringSize
        (utilsStrncpySafe networkStringSize (block.drop offset)).toList).toList =
          field block offset networkStringSize := by
    rw [utilsStrncpySafe_toList (by decide), hvalue.copy.2, hvalue.2.2]
  intro i hi
  have hfield := h.fields i hi
  rcases of_mem_networkIndices hi with rfl | rfl | rfl | rfl | rfl
  · obtain ⟨value, hvalue, -⟩ := hfield
    exact hstring hvalue
  · obtain ⟨value, hvalue⟩ := hfield
    exact hstring hvalue
  · obtain ⟨value, hvalue⟩ := hfield
    exact hstring hvalue
  · obtain ⟨n, -, hn, hbytes⟩ := hfield
    change leBytes 4 (leNat (fieldAt networkFieldPlace block 3)) = _
    rw [hbytes, leNat_leBytes (by omega)]
  · rfl

/-- Each printed value is accepted, and leaves the temporary as it is. -/
theorem NetworkSet.stage_text (h : NetworkSet block) :
    ∀ i ∈ networkIndices, ValueText isBlank (networkFieldText block i) ∧
      networkConfigStage i (networkFieldText block i) (.ofConfig block) =
        some (.ofConfig block) := by
  intro i hi
  have hfield := h.fields i hi
  rcases of_mem_networkIndices hi with rfl | rfl | rfl | rfl | rfl
  · obtain ⟨value, hvalue, hne⟩ := hfield
    obtain ⟨hstring, hcopy⟩ : fieldString block 0 = value ∧
      utilsStrncpySafe 32 (block.drop 0) = utilsStrncpySafe 32 value := HoldsValue.copy hvalue
    rw [networkFieldText, hstring, networkConfigStage, if_neg, ← hcopy]
    · exact ⟨hvalue.1, rfl⟩
    · exact not_or.mpr ⟨fun hnil => hne (List.length_eq_zero_iff.mp hnil), not_le.mpr hvalue.2.1⟩
  · obtain ⟨value, hvalue⟩ := hfield
    obtain ⟨hstring, hcopy⟩ : fieldString block usernameOffset = value ∧
      utilsStrncpySafe 32 (block.drop usernameOffset) = utilsStrncpySafe 32 value :=
        HoldsValue.copy hvalue
    rw [networkFieldText, hstring, networkConfigStage, if_neg, ← hcopy]
    · exact ⟨hvalue.1, rfl⟩
    · exact not_le.mpr hvalue.2.1
  · obtain ⟨value, hvalue⟩ := hfield
    obtain ⟨hstring, hcopy⟩ : fieldString block passwordOffset = value ∧
      utilsStrncpySafe 32 (block.drop passwordOffset) = utilsStrncpySafe 32 value :=
        HoldsValue.copy hvalue
    rw [networkFieldText, hstring, networkConfigStage, if_neg, ← hcopy]
    · exact ⟨hvalue.1, rfl⟩
    · exact not_le.mpr hvalue.2.1
  · obtain ⟨n, hpos, hn, hbytes⟩ := hfield
    have hcid : leNat (field block 96 4) = n := by
      rw [show field block 96 4 = leBytes 4 n from hbytes, leNat_leBytes (by omega)]
    have htext : networkFieldText block 3 = decimalBytes n := by
      rw [networkFieldText, hcid, uint32ToInt32, if_pos (by omega), intBytes_natCast]
    rw [htext]
    refine ⟨(valueText_decimalBytes n).isBlank, ?_⟩
    rw [networkConfigStage, atol_decimalBytes (by omega), if_neg (by omega), Int.toNat_natCast,
      ← hcid]
    rfl
  · obtain ⟨htext, hparse⟩ := boolText_read hfield
    refine ⟨htext.isBlank, ?_⟩
    obtain ⟨b, hb, hbytes⟩ := Option.map_eq_some_iff.mp hparse
    change (parseBool (boolText "TRUE" "FALSE" (field block 100 1))).map _ = _
    rw [show parseBool (boolText "TRUE" "FALSE" (field block 100 1)) = some b from hb,
      Option.map_some, hbytes]
    rfl

theorem parseBool_eq {value : List Byte} {b : Byte} (h : parseBool value = some b) :
    [b] = [0] ∨ [b] = [1] := by
  unfold parseBool at h
  split_ifs at h
  · exact Or.inr (by rw [← Option.some.inj h])
  · exact Or.inl (by rw [← Option.some.inj h])

/-- A value that is accepted leaves temporaries of the same kind. -/
theorem networkConfigStage_fieldSet {index : Nat} {value : List Byte} {temp temp' : NetworkTemp}
    (hvalue : ValueText isBlank value)
    (hgood : temp.Set) (h : networkConfigStage index value temp = some temp') : temp'.Set := by
  have hstring (hlen : value.length < networkStringSize) :
      HoldsValue networkStringSize value (utilsStrncpySafe networkStringSize
        (utilsStrncpySafe networkStringSize value).toList).toList := by
    refine ⟨hvalue, hlen, ?_⟩
    rw [utilsStrncpySafe_toList (by decide)]
  unfold networkConfigStage at h
  split at h
  · split_ifs at h with hlen
    cases h
    obtain ⟨hne, hshort⟩ := not_or.mp hlen
    have hnew : ∃ v, HoldsValue networkStringSize v (utilsStrncpySafe networkStringSize
        (utilsStrncpySafe networkStringSize value).toList).toList ∧ v ≠ [] :=
      ⟨value, hstring (not_le.mp hshort), fun hnil => hne (List.length_eq_zero_iff.mpr hnil)⟩
    intro i hi
    rcases of_mem_networkIndices hi with rfl | rfl | rfl | rfl | rfl <;>
      first | exact hnew | exact hgood _ hi
  · split_ifs at h with hlen
    cases h
    have hnew := hstring (not_le.mp hlen)
    intro i hi
    rcases of_mem_networkIndices hi with rfl | rfl | rfl | rfl | rfl <;>
      first | exact ⟨value, hnew⟩ | exact hgood _ hi
  · split_ifs at h with hlen
    cases h
    have hnew := hstring (not_le.mp hlen)
    intro i hi
    rcases of_mem_networkIndices hi with rfl | rfl | rfl | rfl | rfl <;>
      first | exact ⟨value, hnew⟩ | exact hgood _ hi
  · split_ifs at h with hrange
    cases h
    have hnew : ∃ n, 1 ≤ n ∧ n ≤ 16 ∧ leBytes 4 (atol value).toNat = leBytes 4 n :=
      ⟨(atol value).toNat, by omega, by omega, rfl⟩
    intro i hi
    rcases of_mem_networkIndices hi with rfl | rfl | rfl | rfl | rfl <;>
      first | exact hnew | exact hgood _ hi
  · obtain ⟨b, hb, rfl⟩ := Option.map_eq_some_iff.mp h
    have hnew := parseBool_eq hb
    intro i hi
    rcases of_mem_networkIndices hi with rfl | rfl | rfl | rfl | rfl <;>
      first | exact hnew | exact hgood _ hi
  · cases h
    exact hgood

/-- An accepted string leaves such a configuration. -/
theorem NetworkSet.set (h : NetworkSet block) {alloc : Bool} {configString block' : List Byte}
    (haccepted : (networkConfigSet alloc block configString).outcome = (.success, block')) :
    NetworkSet block' := by
  rcases networkConfigSet_cases alloc block configString with
    hreply | ⟨copy, temp, hcopy, hstage, hreply⟩
  · rw [hreply] at haccepted
    cases congrArg Prod.fst haccepted
  · rw [hreply] at haccepted
    obtain ⟨-, rfl⟩ := Prod.mk.inj haccepted
    have hstart : (NetworkTemp.ofConfig block).Set := by
      intro i hi
      rw [h.ofConfig_bytes i hi]
      exact h.fields i hi
    obtain rfl := utilsStrdupForTokenization_some hcopy
    have htemp : temp.Set := by
      refine stageAll_invariant (fun a ha _ _ hgood hnext => ?_) (stageAll_of_stageKeyed hstage)
        hstart
      exact networkConfigStage_fieldSet (valueText_of_mem_keyedTokens ha) hgood hnext
    obtain ⟨hlen, hfields⟩ := places_networkFieldPlace.writeFields_all
      (fun i hi => (htemp i hi).length hi) h.length
    rw [NetworkTemp.update_eq]
    refine ⟨hlen, fun i hi => ?_⟩
    exact (congrArg (NetworkFieldSet · i) (hfields i hi)).mpr (htemp i hi)

theorem networkSet_defaultBlock : NetworkSet networkModule.defaultBlock := by
  constructor
  · decide +kernel
  · intro i hi
    rcases of_mem_networkIndices hi with rfl | rfl | rfl | rfl | rfl
    · refine ⟨asciiBytes "wheelseye.com", ⟨?_, ?_, ?_⟩, ?_⟩
      · constructor <;> decide +kernel
      · decide
      · decide +kernel
      · decide
    · exact ⟨[], ⟨nofun, nofun⟩, by decide, by decide +kernel⟩
    · exact ⟨[], ⟨nofun, nofun⟩, by decide, by decide +kernel⟩
    · exact ⟨1, by decide, by decide, by decide +kernel⟩
    · exact Or.inr (by decide +kernel)

theorem NetworkSet.length_text (h : NetworkSet block) :
    (configText networkFormat (networkFieldText block)).length < cmdHandlerMaxResponseLength := by
  have hstring {value : List Byte} {offset : Nat}
      (hvalue : HoldsValue networkStringSize value (field block offset networkStringSize)) :
      (fieldString block offset).length < 32 := by
    rw [hvalue.copy.1]
    exact hvalue.2.1
  obtain ⟨apn, hapn, -⟩ := h.fields 0 (by decide)
  obtain ⟨username, husername⟩ := h.fields 1 (by decide)
  obtain ⟨password, hpassword⟩ := h.fields 2 (by decide)
  obtain ⟨n, -, hn, hbytes⟩ := h.fields 3 (by decide)
  have happ : (networkFieldText block 0).length < 32 := hstring hapn
  have huser : (networkFieldText block 1).length < 32 := hstring husername
  have hpass : (networkFieldText block 2).length < 32 := hstring hpassword
  have hcid : (networkFieldText block 3).length ≤ 2 := by
    have hfield : leNat (field block 96 4) = n := by
      rw [show field block 96 4 = leBytes 4 n from hbytes, leNat_leBytes (by omega)]
    rw [networkFieldText, hfield, uint32ToInt32, if_pos (by omega), intBytes_natCast]
    have hall : ∀ n ≤ 16, (decimalBytes n).length ≤ 2 := by decide
    exact hall n hn
  have hauto : (networkFieldText block 4).length ≤ 5 := length_boolText (h.fields 4 (by decide))
  have hlen := length_configText networkFormat (networkFieldText block)
  have hsum : (networkFormat.map fun row =>
      (asciiBytes row.1).length + (networkFieldText block row.2).length + 2).sum =
        (3 + (networkFieldText block 0).length + 2) + ((4 + (networkFieldText block 1).length + 2) +
          ((4 + (networkFieldText block 2).length + 2) +
            ((3 + (networkFieldText block 3).length + 2) +
              ((4 + (networkFieldText block 4).length + 2) + 0)))) := rfl
  rw [hsum] at hlen
  unfold cmdHandlerMaxResponseLength
  omega

/-- A network configuration that set strings may leave is read back. -/
theorem NetworkSet.readsBack (h : NetworkSet block) :
    ReadsBack (fun alloc configString block => (networkConfigSet alloc block configString).outcome)
      networkConfigGetString block := by
  have hlen := h.length_text
  have hplain : PlainText isBlank networkFormat (networkFieldText block) := by
    constructor
    · decide +kernel
    · exact fun row hrow => (h.stage_text row.2 (List.mem_map_of_mem hrow)).1
  have htable : ∀ row ∈ networkFormat,
      utilsConfigKeyToIndex (asciiBytes row.1) sNetCfgKeys = some row.2 := by
    decide
  refine ⟨configText networkFormat (networkFieldText block), ?_, ?_⟩
  · rw [networkConfigGetString, formatInto, if_neg (by decide), if_neg (not_le.mpr hlen)]
  · have hstage := stageKeyed_entries networkConfigStage hplain htable false
      (NetworkTemp.ofConfig block)
    rw [← hplain.tokens, stageAll_self] at hstage
    · have hupdate : (NetworkTemp.ofConfig block).update block = block := by
        rw [NetworkTemp.update_eq]
        refine writeFields_self fun i hi => ⟨?_, h.ofConfig_bytes i hi⟩
        rw [h.length]
        exact places_networkFieldPlace.inside i hi
      dsimp only
      unfold networkConfigSet
      rw [hplain.copy hlen]
      dsimp only
      rw [hstage]
      exact congrArg (Prod.mk Result.success) hupdate
    · intro a ha
      obtain ⟨row, hrow, rfl⟩ := List.mem_map.mp ha
      exact (h.stage_text row.2 (List.mem_map_of_mem hrow)).2

end Network

/-! ## Command -/

/-- What set strings leave in the field for an index of `command_config_set`. -/
def CommandFieldSet (bytes : List Byte) : Nat → Prop
  | 1 => ∃ value, HoldsValue authPasswordSize value bytes ∧ value ≠ []
  | 2 => ∃ n ≤ 31, bytes = leBytes 1 n
  | _ => bytes = [0] ∨ bytes = [1]

/-- A configuration that set strings may leave. -/
structure CommandSet (block : List Byte) : Prop where
  length : block.length = commandModule.configSize
  fields : ∀ i ∈ commandIndices, CommandFieldSet (fieldAt commandFieldPlace block i) i

/-- Temporaries that set strings may leave. -/
def CommandTemp.Set (temp : CommandTemp) : Prop :=
  ∀ i ∈ commandIndices, CommandFieldSet (temp.bytes i) i

section Command

variable {block : List Byte}

theorem CommandFieldSet.length {bytes : List Byte} {i : Nat} (hi : i ∈ commandIndices)
    (h : CommandFieldSet bytes i) : bytes.length = (commandFieldPlace i).2 := by
  rcases of_mem_commandIndices hi with rfl | rfl | rfl | rfl
  · rcases h with rfl | rfl <;> rfl
  · obtain ⟨value, ⟨-, -, rfl⟩, -⟩ := h
    exact length_toList _
  · obtain ⟨n, -, rfl⟩ := h
    exact length_leBytes 1 n
  · rcases h with rfl | rfl <;> rfl

/-- The temporaries before the first token hold the fields. -/
theorem CommandSet.ofConfig_bytes (h : CommandSet block) :
    ∀ i ∈ commandIndices, (CommandTemp.ofConfig block).bytes i =
      fieldAt commandFieldPlace block i := by
  intro i hi
  have hfield := h.fields i hi
  rcases of_mem_commandIndices hi with rfl | rfl | rfl | rfl
  · rfl
  · obtain ⟨value, hvalue, -⟩ := hfield
    change (utilsStrncpySafe authPasswordSize
      (utilsStrncpySafe authPasswordSize (block.drop authPasswordOffset)).toList).toList =
        fieldAt commandFieldPlace block 1
    rw [utilsStrncpySafe_toList (by decide), hvalue.2.2]
    exact congrArg List.Vector.toList (HoldsValue.copy hvalue).2
  · rfl
  · rfl

/-- Each printed value is accepted, and leaves the temporary as it is. -/
theorem CommandSet.stage_text (h : CommandSet block) :
    ∀ i ∈ commandIndices, ValueText isBlank (commandFieldText block i) ∧
      commandConfigStage i (commandFieldText block i) (.ofConfig block) =
        some (.ofConfig block) := by
  intro i hi
  have hfield := h.fields i hi
  have hflag (offset : Nat) (hbytes : field block offset 1 = [0] ∨ field block offset 1 = [1]) :
      ValueText isBlank (boolText "TRUE" "FALSE" (field block offset 1)) ∧
        ∃ b, parseBool (boolText "TRUE" "FALSE" (field block offset 1)) = some b ∧
          [b] = field block offset 1 := by
    obtain ⟨htext, hparse⟩ := boolText_read hbytes
    exact ⟨htext.isBlank, Option.map_eq_some_iff.mp hparse⟩
  rcases of_mem_commandIndices hi with rfl | rfl | rfl | rfl
  · obtain ⟨htext, b, hparse, hbytes⟩ := hflag 0 hfield
    refine ⟨htext, ?_⟩
    rw [commandFieldText, commandConfigStage, hparse, Option.map_some, hbytes]
    rfl
  · obtain ⟨value, hvalue, hne⟩ := hfield
    obtain ⟨hstring, hcopy⟩ : fieldString block authPasswordOffset = value ∧
      utilsStrncpySafe authPasswordSize (block.drop authPasswordOffset) =
        utilsStrncpySafe authPasswordSize value := HoldsValue.copy hvalue
    rw [commandFieldText, hstring, commandConfigStage, if_neg, ← hcopy]
    · exact ⟨hvalue.1, rfl⟩
    · exact not_or.mpr ⟨fun hnil => hne (List.length_eq_zero_iff.mp hnil), not_le.mpr hvalue.2.1⟩
  · obtain ⟨n, hn, hbytes⟩ := hfield
    have hcsq : field block minCsqThresholdOffset 1 = leBytes 1 n := hbytes
    have htext : commandFieldText block 2 = decimalBytes n := by
      rw [commandFieldText, hcsq, leNat_leBytes (by omega)]
    have hbyte : [intByte n] = field block minCsqThresholdOffset 1 := by
      have hall : ∀ n ≤ 31, [intByte (n : ℕ)] = leBytes 1 n := by decide
      rw [hcsq, hall n hn]
    rw [htext]
    refine ⟨(valueText_decimalBytes n).isBlank, ?_⟩
    rw [commandConfigStage, strtol_decimalBytes (by omega)]
    dsimp only
    rw [if_neg (by omega), hbyte]
    rfl
  · obtain ⟨htext, b, hparse, hbytes⟩ := hflag adocNetTaskFlagOffset hfield
    refine ⟨htext, ?_⟩
    rw [commandFieldText, commandConfigStage, hparse, Option.map_some, hbytes]
    · rfl
    all_goals decide

theorem intByte_toNat {v : ℤ} (h : ¬ (v < 0 ∨ v > 31)) : [intByte v] = leBytes 1 v.toNat := by
  have hall : ∀ n ≤ 31, [intByte (n : ℕ)] = leBytes 1 n := by decide
  have hcast : ((v.toNat : ℕ) : ℤ) = v := Int.toNat_of_nonneg (by omega)
  rw [← hall v.toNat (by omega), hcast]

/-- A value that is accepted leaves temporaries of the same kind. -/
theorem commandConfigStage_fieldSet {index : Nat} {value : List Byte} {temp temp' : CommandTemp}
    (hvalue : ValueText isBlank value)
    (hgood : temp.Set) (h : commandConfigStage index value temp = some temp') : temp'.Set := by
  unfold commandConfigStage at h
  split at h
  · obtain ⟨b, hb, rfl⟩ := Option.map_eq_some_iff.mp h
    have hnew := parseBool_eq hb
    intro i hi
    rcases of_mem_commandIndices hi with rfl | rfl | rfl | rfl <;>
      first | exact hnew | exact hgood _ hi
  · split_ifs at h with hlen
    cases h
    obtain ⟨hne, hshort⟩ := not_or.mp hlen
    have hnew : ∃ v, HoldsValue authPasswordSize v (utilsStrncpySafe authPasswordSize
        (utilsStrncpySafe authPasswordSize value).toList).toList ∧ v ≠ [] := by
      refine ⟨value, ⟨hvalue, not_le.mp hshort, ?_⟩, fun hnil => ?_⟩
      · rw [utilsStrncpySafe_toList (by decide)]
      · exact hne (List.length_eq_zero_iff.mpr hnil)
    intro i hi
    rcases of_mem_commandIndices hi with rfl | rfl | rfl | rfl <;>
      first | exact hnew | exact hgood _ hi
  · split at h
    · rename_i v hv
      split_ifs at h with hrange
      cases h
      have hnew : ∃ n ≤ 31, [intByte v] = leBytes 1 n :=
        ⟨v.toNat, by omega, intByte_toNat hrange⟩
      intro i hi
      rcases of_mem_commandIndices hi with rfl | rfl | rfl | rfl <;>
        first | exact hnew | exact hgood _ hi
    · cases h
  · obtain ⟨b, hb, rfl⟩ := Option.map_eq_some_iff.mp h
    have hnew := parseBool_eq hb
    intro i hi
    rcases of_mem_commandIndices hi with rfl | rfl | rfl | rfl <;>
      first | exact hgood _ hi | exact hnew
  · cases h
    exact hgood

/-- An accepted string leaves such a configuration. -/
theorem CommandSet.set (h : CommandSet block) {alloc : Bool} {configString block' : List Byte}
    (haccepted : (commandConfigSet alloc block configString).outcome = (.success, block')) :
    CommandSet block' := by
  rcases commandConfigSet_cases alloc block configString with
    ⟨r, hr, hreply⟩ | ⟨copy, temp, hcopy, hstage, hreply⟩
  · rw [hreply] at haccepted
    exact absurd (congrArg Prod.fst haccepted) hr
  · rw [hreply] at haccepted
    cases haccepted
    have hstart : (CommandTemp.ofConfig block).Set := by
      intro i hi
      rw [h.ofConfig_bytes i hi]
      exact h.fields i hi
    obtain rfl := utilsStrdupForTokenization_some hcopy
    have htemp : temp.Set := by
      refine stageAll_invariant (fun a ha _ _ hgood hnext => ?_) (stageAll_of_stageKeyed hstage)
        hstart
      exact commandConfigStage_fieldSet (valueText_of_mem_keyedTokens ha) hgood hnext
    obtain ⟨hlen, hfields⟩ := places_commandFieldPlace.writeFields_all
      (fun i hi => (htemp i hi).length hi) h.length
    rw [CommandTemp.update_eq]
    refine ⟨hlen, fun i hi => ?_⟩
    rw [hfields i hi]
    exact htemp i hi

theorem commandSet_defaultBlock : CommandSet commandModule.defaultBlock := by
  constructor
  · decide +kernel
  · intro i hi
    rcases of_mem_commandIndices hi with rfl | rfl | rfl | rfl
    · exact Or.inr (by decide +kernel)
    · refine ⟨asciiBytes "WEWARE2024", ⟨?_, ?_, ?_⟩, ?_⟩
      · constructor <;> decide +kernel
      · decide
      · decide +kernel
      · decide
    · exact ⟨20, by decide, by decide +kernel⟩
    · exact Or.inr (by decide +kernel)

theorem CommandSet.length_text (h : CommandSet block) :
    (configText commandFormat (commandFieldText block)).length < cmdHandlerMaxResponseLength := by
  obtain ⟨password, hpassword, -⟩ := h.fields 1 (by decide)
  obtain ⟨n, hn, hbytes⟩ := h.fields 2 (by decide)
  have hauth : (commandFieldText block 0).length ≤ 5 := length_boolText (h.fields 0 (by decide))
  have hpass : (commandFieldText block 1).length < 32 := by
    have hstring : fieldString block authPasswordOffset = password := (HoldsValue.copy hpassword).1
    rw [commandFieldText, hstring]
    exact hpassword.2.1
  have hcsq : (commandFieldText block 2).length ≤ 2 := by
    have hfield : leNat (field block minCsqThresholdOffset 1) = n := by
      rw [show field block minCsqThresholdOffset 1 = leBytes 1 n from hbytes,
        leNat_leBytes (by omega)]
    have hall : ∀ n ≤ 31, (decimalBytes n).length ≤ 2 := by decide
    rw [commandFieldText, hfield]
    exact hall n hn
  have hadoc : (commandFieldText block 3).length ≤ 5 := length_boolText (h.fields 3 (by decide))
  have hlen := length_configText commandFormat (commandFieldText block)
  have hsum : (commandFormat.map fun row =>
      (asciiBytes row.1).length + (commandFieldText block row.2).length + 2).sum =
        (7 + (commandFieldText block 0).length + 2) + ((4 + (commandFieldText block 1).length + 2) +
          ((7 + (commandFieldText block 2).length + 2) +
            ((13 + (commandFieldText block 3).length + 2) + 0))) := rfl
  rw [hsum] at hlen
  unfold cmdHandlerMaxResponseLength
  omega

/-- A command configuration that set strings may leave is read back. -/
theorem CommandSet.readsBack (h : CommandSet block) :
    ReadsBack (fun alloc configString block => (commandConfigSet alloc block configString).outcome)
      commandConfigGetString block := by
  have hlen := h.length_text
  have hplain : PlainText isBlank commandFormat (commandFieldText block) := by
    constructor
    · decide +kernel
    · exact fun row hrow => (h.stage_text row.2 (List.mem_map_of_mem hrow)).1
  have htable : ∀ row ∈ commandFormat,
      utilsConfigKeyToIndex (asciiBytes row.1) sCmdCfgKeys = some row.2 := by
    decide
  refine ⟨configText commandFormat (commandFieldText block), ?_, ?_⟩
  · rw [commandConfigGetString, formatInto, if_neg (by decide), if_neg (not_le.mpr hlen)]
  · have hstage := stageKeyed_entries commandConfigStage hplain htable false
      (CommandTemp.ofConfig block)
    rw [← hplain.tokens, stageAll_self] at hstage
    · have hupdate : (CommandTemp.ofConfig block).update block = block := by
        rw [CommandTemp.update_eq]
        refine writeFields_self fun i hi => ⟨?_, h.ofConfig_bytes i hi⟩
        rw [h.length]
        exact places_commandFieldPlace.inside i hi
      have hne : (cString (configText commandFormat (commandFieldText block))).length ≠ 0 := by
        rw [hplain.cString]
        exact nofun
      dsimp only
      unfold commandConfigSet
      rw [if_neg hne, hplain.copy hlen]
      dsimp only
      rw [hstage]
      exact congrArg (Prod.mk Result.success) hupdate
    · intro a ha
      obtain ⟨row, hrow, rfl⟩ := List.mem_map.mp ha
      exact (h.stage_text row.2 (List.mem_map_of_mem hrow)).2

end Command

/-! ## TCP -/

/-- A configuration that set strings may leave. -/
structure TcpSet (block : List Byte) : Prop where
  length : block.length = tcpModule.configSize
  valid : tcpModule.validates block = true
  loginwithgps : field block 80 1 = [0] ∨ field block 80 1 = [1]
  liveFirst : field block 81 1 = [0] ∨ field block 81 1 = [1]

section Tcp

variable {block : List Byte}

theorem tcpConfigParseBool_eq {value bytes : List Byte}
    (h : (tcpConfigParseBool value).map (fun b => [b]) = some bytes) :
    bytes = [0] ∨ bytes = [1] := by
  obtain ⟨b, hb, rfl⟩ := Option.map_eq_some_iff.mp h
  unfold tcpConfigParseBool at hb
  split_ifs at hb
  · exact Or.inr (by rw [← Option.some.inj hb])
  · exact Or.inl (by rw [← Option.some.inj hb])

/-- An accepted string leaves such a configuration. -/
theorem TcpSet.set (h : TcpSet block) {configString block' : List Byte}
    (haccepted : (wewareTcpConfigSet block configString).outcome = (.success, block')) :
    TcpSet block' := by
  obtain ⟨hresult, hblock⟩ := Prod.mk.inj haccepted
  have hatomic := wewareTcpConfigSet_atomic h.length h.valid configString
  have hassigned := hatomic.assigned hresult
  have hlen := (wewareTcpConfigSet_spec block configString).1.length h.length
  have hvalid := hatomic.valid hresult
  have hblock : (wewareTcpConfigSet block configString).block = block' := hblock
  rw [hblock] at hassigned hlen hvalid
  have hflag (key : String) (hkey : asciiBytes key ∈ tcpConfigKeys)
      (hne : asciiBytes key ≠ asciiBytes "ip")
      (hparse : ∀ value, wewareTcpConfigValue (asciiBytes key) value =
        (tcpConfigParseBool value).map fun b => [b])
      (hold : fieldAt tcpFieldPlace block (asciiBytes key) = [0] ∨
        fieldAt tcpFieldPlace block (asciiBytes key) = [1]) :
      fieldAt tcpFieldPlace block' (asciiBytes key) = [0] ∨
        fieldAt tcpFieldPlace block' (asciiBytes key) = [1] := by
    have hfield := hassigned _ hkey
    have hget (b : List Byte) : tcpConfigField b (asciiBytes key) =
        fieldAt tcpFieldPlace b (asciiBytes key) := if_neg hne
    rw [hget, hget] at hfield
    split at hfield
    · rw [hparse] at hfield
      exact tcpConfigParseBool_eq hfield
    · rwa [hfield]
  refine ⟨hlen, hvalid, ?_, ?_⟩
  · refine hflag "loginwithgps" (by decide) (by decide) (fun value => ?_) h.loginwithgps
    rfl
  · refine hflag "live-first" (by decide) (by decide) (fun value => ?_) h.liveFirst
    rfl

/-- A character of a host stands for itself in a token. -/
theorem hostByte_class {c : Byte} (h : (isAlnum c || c == 0x2E || c == 0x2D) = true) :
    c ≠ comma ∧ c ≠ 0 ∧ isspace c = false := by
  have hspace : isspace c = false := by
    by_contra hnot
    simp only [isspace, isAlnum, Bool.or_eq_true, Bool.and_eq_true, decide_eq_true_eq,
      beq_iff_eq, Bool.not_eq_false, UInt8.le_iff_toNat_le, ← UInt8.toNat_inj] at h hnot
    simp only [UInt8.reduceToNat] at h hnot
    omega
  refine ⟨?_, ?_, hspace⟩
  · rintro rfl
    revert h
    decide
  · rintro rfl
    revert h
    decide

theorem leBytes_leNat (bs : List Byte) : leBytes bs.length (leNat bs) = bs := by
  induction bs with
  | nil => rfl
  | cons b bs ih =>
    have hlt : b.toNat < 256 := b.toNat_lt
    have hdiv : (b.toNat + 256 * leNat bs) / 256 = leNat bs := by omega
    rw [leNat, List.length_cons, leBytes, hdiv, ih]
    congr 1
    rw [← UInt8.toNat_inj, UInt8.toNat_ofNat']
    omega

theorem tcpConfigParseTimeout_decimalBytes {n : Nat} (hpos : n ≠ 0) (h : n ≤ uint32Max) :
    tcpConfigParseTimeout (decimalBytes n) = some n := by
  unfold tcpConfigParseTimeout
  rw [strtoul_decimalBytes h]
  dsimp only
  rw [if_neg (not_or.mpr ⟨hpos, not_lt.mpr h⟩)]

/-- What is printed for a field has no blank, and is the value of the field. -/
theorem TcpSet.value_text (h : TcpSet block) : ∀ key ∈ tcpConfigKeys,
    (∀ c ∈ tcpFieldText block key, c ≠ comma ∧ c ≠ 0 ∧ isspace c = false) ∧
      wewareTcpConfigValue key (tcpFieldText block key) = some (tcpConfigField block key) := by
  have hdigits (n : Nat) : ∀ c ∈ decimalBytes n, c ≠ comma ∧ c ≠ 0 ∧ isspace c = false := by
    intro c hc
    obtain ⟨d, hd, rfl⟩ := mem_decimalDigits hc
    obtain ⟨-, hspace, -, -, hcomma, hzero⟩ := digitByte_class d hd
    exact ⟨hcomma, hzero, hspace⟩
  have hvalid : wewareTcpConfigValidate block = true := h.valid
  simp only [wewareTcpConfigValidate, tcpConfigPortIsValid, Bool.and_eq_true, decide_eq_true_eq,
    Bool.not_eq_true', Bool.or_eq_false_iff, beq_eq_false_iff_ne] at hvalid
  obtain ⟨⟨hhost, hport⟩, ⟨hconn, hsend⟩, hretry⟩ := hvalid
  have hflag {bytes : List Byte} (hbytes : bytes = [0] ∨ bytes = [1]) :
      (∀ c ∈ boolText "true" "false" bytes, c ≠ comma ∧ c ≠ 0 ∧ isspace c = false) ∧
        (tcpConfigParseBool (boolText "true" "false" bytes)).map (fun b => [b]) = some bytes := by
    rcases hbytes with rfl | rfl <;> decide +kernel
  have htimeout (offset : Nat) (hinside : offset + 4 ≤ block.length)
      (hpos : leNat (field block offset 4) ≠ 0) :
      (tcpConfigParseTimeout (decimalBytes (leNat (field block offset 4)))).map (leBytes 4) =
        some (field block offset 4) := by
    have hwidth : (field block offset 4).length = 4 := length_field hinside
    have hle := leNat_lt (field block offset 4)
    rw [hwidth] at hle
    rw [tcpConfigParseTimeout_decimalBytes hpos (Nat.le_of_lt_succ hle), Option.map_some]
    exact congrArg some ((congrArg (leBytes · _) hwidth.symm).trans (leBytes_leNat _))
  have hlen : block.length = 84 := h.length
  intro key hkey
  simp only [tcpConfigKeys, List.map_cons, List.map_nil, List.mem_cons, List.not_mem_nil,
    or_false] at hkey
  rcases hkey with rfl | rfl | rfl | rfl | rfl | rfl | rfl
  · refine ⟨?_, ?_⟩
    · have hall := (of_decide_eq_true hhost).2
      exact fun c hc => hostByte_class (List.all_eq_true.mp hall c hc)
    · exact if_pos hhost
  · refine ⟨hdigits _, ?_⟩
    have hwidth : (field block 64 2).length = 2 := length_field (by omega)
    have hlt := leNat_lt (field block 64 2)
    rw [hwidth] at hlt
    have hvalue : wewareTcpConfigValue (asciiBytes "port")
        (decimalBytes (leNat (field block 64 2))) =
          some (leBytes 2 (leNat (field block 64 2))) := by
      change (if tcpConfigPortIsValid (atol (decimalBytes (leNat (field block 64 2)))) then
        some (leBytes 2 (atol (decimalBytes (leNat (field block 64 2)))).toNat) else none) = _
      have hchecked : tcpConfigPortIsValid (leNat (field block 64 2)) = true := decide_eq_true hport
      rw [atol_decimalBytes (by omega), if_pos hchecked, Int.toNat_natCast]
    exact hvalue.trans (congrArg some
      ((congrArg (leBytes · _) hwidth.symm).trans (leBytes_leNat _)))
  · exact ⟨hdigits _, htimeout 68 (by omega) hconn⟩
  · exact ⟨hdigits _, htimeout 72 (by omega) hsend⟩
  · exact ⟨hdigits _, htimeout 76 (by omega) hretry⟩
  · exact hflag h.loginwithgps
  · exact hflag h.liveFirst

/-- The string at the start of a block with its NUL. -/
theorem setField_cString (h : 0 ∈ block) : setField block 0 (cString block ++ [0]) = block := by
  have hsplit : ∃ tail, block = cString block ++ [0] ++ tail := by
    induction block with
    | nil => cases h
    | cons b block ih =>
      by_cases hb : b = 0
      · subst hb
        exact ⟨block, rfl⟩
      · obtain ⟨tail, htail⟩ := ih ((List.mem_cons.mp h).resolve_left (Ne.symm hb))
        refine ⟨tail, ?_⟩
        rw [cString, List.takeWhile_cons_of_pos (by simpa using hb), List.cons_append,
          List.cons_append]
        exact congrArg (b :: ·) htail
  obtain ⟨tail, htail⟩ := hsplit
  generalize cString block = value at htail ⊢
  subst htail
  rw [setField, List.take_zero, List.nil_append, Nat.zero_add, List.drop_left]

/-- A field with its own value is the block. -/
theorem TcpSet.apply_text (h : TcpSet block) {key : List Byte} (hkey : key ∈ tcpConfigKeys) :
    wewareTcpConfigApply key (tcpFieldText block key) block = some block := by
  rw [wewareTcpConfigApply_eq, (h.value_text key hkey).2, Option.map_some]
  by_cases hip : key = asciiBytes "ip"
  · subst hip
    have hzero : 0 ∈ block :=
      List.mem_of_mem_drop (List.mem_of_mem_take
        (terminated_of_wewareTcpConfigValidate h.valid h.length))
    have hstring : tcpConfigField block (asciiBytes "ip") = cString block := rfl
    rw [if_pos rfl, hstring]
    exact congrArg some (setField_cString hzero)
  · rw [if_neg hip, tcpConfigField, if_neg hip]
    have hinside := places_tcpFieldPlace.inside key hkey
    exact congrArg some (setField_field (by rwa [h.length]))

theorem trim_eq_self {p : Byte → Bool} {s : List Byte} (h : ∀ c ∈ s, p c = false) :
    trim p s = s := by
  have hnot : ∀ c ∈ s, ¬ p c = true := fun c hc => Bool.eq_false_iff.mp (h c hc)
  rw [trim, List.dropWhile_eq_self_iff.mpr, List.rdropWhile_eq_self_iff]
  · exact fun hne => hnot _ (List.getLast_mem hne)
  · exact fun hpos => hnot _ (List.getElem_mem hpos)

/-- The pieces of a text are staged one after the other. -/
theorem wewareTcpConfigStage_entries {format : List (String × List Byte)}
    {values : List Byte → List Byte} (h : PlainText isspace format values)
    (hkeys : ∀ row ∈ format, row.2 = asciiBytes row.1)
    (hvalues : ∀ row ∈ format, ∀ c ∈ values row.2, isspace c = false) (staged : List Byte) :
    wewareTcpConfigStage (format.map fun row => configEntry row.1 (values row.2)) staged =
      stageAll wewareTcpConfigApply (format.map fun row => (row.2, values row.2)) staged := by
  induction format generalizing staged with
  | nil => rfl
  | cons row format ih =>
    obtain ⟨hkey, hrest⟩ := List.forall_mem_cons.mp h.keys
    obtain ⟨hvalue, hrest'⟩ := List.forall_mem_cons.mp h.values
    obtain ⟨hname, hnames⟩ := List.forall_mem_cons.mp hkeys
    obtain ⟨hplain, hplains⟩ := List.forall_mem_cons.mp hvalues
    have htrim : tcpConfigTrim (configEntry row.1 (values row.2)) =
        configEntry row.1 (values row.2) := hkey.trim_configEntry hvalue fun _ hc => hc
    obtain ⟨hbefore, hbehind⟩ := hkey.split (values row.2)
    have hcolon : colon ∈ configEntry row.1 (values row.2) :=
      List.mem_append_right _ (List.mem_cons_self ..)
    have hne : configEntry row.1 (values row.2) ≠ [] := List.ne_nil_of_mem hcolon
    have htrimKey : tcpConfigTrim (asciiBytes row.1) = asciiBytes row.1 :=
      trim_eq_self fun c hc => (hkey.plain c hc).2.2.2
    have htrimValue : tcpConfigTrim (values row.2) = values row.2 := trim_eq_self hplain
    rw [List.map_cons, List.map_cons, wewareTcpConfigStage, htrim]
    dsimp only
    rw [if_neg hne, if_neg (not_not_intro hcolon), hbefore, hbehind, htrimKey, htrimValue, ← hname,
      stageAll]
    congr 1
    funext next
    exact ih ⟨hrest, hrest'⟩ hnames hplains next

/-- A TCP configuration that set strings may leave is read back if its text fits. -/
theorem TcpSet.readsBack (h : TcpSet block)
    (hlen : (configText tcpFormat (tcpFieldText block)).length < cmdHandlerMaxResponseLength) :
    ReadsBack (fun _ configString block => (wewareTcpConfigSet block configString).outcome)
      wewareTcpConfigGetString block := by
  have hkeys : ∀ row ∈ tcpFormat, row.2 = asciiBytes row.1 ∧ row.2 ∈ tcpConfigKeys := by
    decide
  have hvalues : ∀ row ∈ tcpFormat, ∀ c ∈ tcpFieldText block row.2,
      c ≠ comma ∧ c ≠ 0 ∧ isspace c = false :=
    fun row hrow => (h.value_text row.2 (hkeys row hrow).2).1
  have hplain : PlainText isspace tcpFormat (tcpFieldText block) := by
    constructor
    · decide +kernel
    · intro row hrow
      constructor
      · exact fun c hc => ⟨(hvalues row hrow c hc).1, (hvalues row hrow c hc).2.1⟩
      · exact fun c hc => (hvalues row hrow c (List.mem_of_getLast? hc)).2.2
  have hpieces : (configText tcpFormat (tcpFieldText block)).splitOn comma =
      tcpFormat.map fun row => configEntry row.1 (tcpFieldText block row.2) := by
    refine splitOn_commaJoin (List.cons_ne_nil _ _) fun t ht hmem => ?_
    obtain ⟨row, hrow, rfl⟩ := List.mem_map.mp ht
    exact ((hplain.keys row hrow).plain_configEntry (hplain.values row hrow) comma hmem).1 rfl
  have hstage : wewareTcpConfigStage
      (tcpFormat.map fun row => configEntry row.1 (tcpFieldText block row.2)) block =
        some block := by
    rw [wewareTcpConfigStage_entries hplain (fun row hrow => (hkeys row hrow).1)
      fun row hrow c hc => (hvalues row hrow c hc).2.2]
    refine stageAll_self fun a ha => ?_
    obtain ⟨row, hrow, rfl⟩ := List.mem_map.mp ha
    exact h.apply_text (hkeys row hrow).2
  refine ⟨configText tcpFormat (tcpFieldText block), ?_, ?_⟩
  · rw [wewareTcpConfigGetString, formatInto, if_neg (by decide), if_neg (not_le.mpr hlen)]
  · unfold cmdHandlerMaxResponseLength at hlen
    dsimp only
    unfold wewareTcpConfigSet wewareTcpConfigStringMax
    rw [hplain.cString]
    dsimp only
    rw [if_neg (by omega), hpieces, hstage]
    dsimp only
    rw [if_pos (show wewareTcpConfigValidate block = true from h.valid)]
    rfl

theorem tcpSet_defaultBlock : TcpSet tcpModule.defaultBlock := by
  constructor <;> decide +kernel

end Tcp

end WalnutGateway
