import WalnutGateway.Config.Atomic

/-!
# The configurations with floats are set as a whole

The same for the GPS and the system configuration. The GPS function updates its fields one by one
and never checks the whole, and a field of the system configuration is addressed by its key or by
the place of a token without one.
-/

namespace WalnutGateway

/-! ## GPS -/

/-- The indices of `gps_config_set`. -/
def gpsIndices : List Nat := [0, 1, 2, 3, 4, 5, 6, 7, 8, 9, 10, 11, 12, 13]

/-- What `gps_config_validate` wants of the field for an index. -/
def gpsFieldValid (index : Nat) (bytes : List Byte) : Bool :=
  match index with
  | 0 | 1 => ! (uint32ToInt32 (leNat bytes) ≤ 0)
  | 2 => ! (floatLt (leNat bytes) 0 || floatLt 0x43340000 (leNat bytes))
  | 3 | 13 => ! floatLt (leNat bytes) 0
  | 7 | 11 => leNat bytes == 0 || leNat bytes == 1 || leNat bytes == 2
  | _ => true

theorem places_gpsFieldPlace : Places gpsIndices gpsFieldPlace gpsModule.configSize := by
  constructor <;> decide

theorem gpsConfigValidate_iff {block : List Byte} : gpsConfigValidate block = true ↔
    ∀ i ∈ gpsIndices, gpsFieldValid i (fieldAt gpsFieldPlace block i) = true := by
  simp only [gpsIndices, List.forall_mem_cons, gpsFieldValid, fieldAt, gpsFieldPlace,
    gpsConfigValidate, Bool.and_eq_true, Bool.not_or, Bool.not_and]
  simp [bne, and_assoc]

theorem atol_le (s : List Byte) : atol s ≤ 2 ^ 31 - 1 := by
  unfold atol strtol
  cases hscan : strtolScan s with
  | none => decide
  | some p =>
    obtain ⟨negative, n, rest⟩ := p
    simp only [Option.map_some, Option.elim_some]
    split_ifs <;> omega

theorem parseStartMode_le {s : List Byte} {k : Nat} (h : parseStartMode s = some k) :
    k = 0 ∨ k = 1 ∨ k = 2 := by
  unfold parseStartMode at h
  split_ifs at h with _ _ _ hnumber
  · exact Or.inl (Option.some.inj h).symm
  · exact Or.inr (Or.inl (Option.some.inj h).symm)
  · exact Or.inr (Or.inr (Option.some.inj h).symm)
  · have hk := Option.some.inj h
    omega

theorem gpsConfigParseTimeSource_le {s : List Byte} {k : Nat}
    (h : gpsConfigParseTimeSource s = some k) : k = 0 ∨ k = 1 ∨ k = 2 := by
  unfold gpsConfigParseTimeSource at h
  split_ifs at h
  · exact Or.inl (Option.some.inj h).symm
  · exact Or.inr (Or.inl (Option.some.inj h).symm)
  · exact Or.inr (Or.inr (Option.some.inj h).symm)

/-- An accepted value is as wide as its field, and valid. -/
theorem gpsConfigValue_valid {lib : FloatLib} {index : Nat} {value bytes : List Byte}
    (hindex : index ∈ gpsIndices) (h : gpsConfigValue lib index value = some bytes) :
    bytes.length = (gpsFieldPlace index).2 ∧ gpsFieldValid index bytes = true := by
  have hword {n : Nat} (hn : n < 2 ^ 32) : leNat (leBytes 4 n) = n := leNat_leBytes hn
  have hinterval (h : (if atol value ≤ 0 then none else some (leBytes 4 (atol value).toNat)) =
      some bytes) : bytes.length = 4 ∧ (! (uint32ToInt32 (leNat bytes) ≤ 0)) = true := by
    have hle := atol_le value
    split_ifs at h with hpos
    cases h
    refine ⟨length_leBytes 4 _, ?_⟩
    rw [hword (by omega), uint32ToInt32, if_pos (by omega)]
    simpa using hpos
  have hmode {n : Option Nat} (hn : ∀ k ∈ n, k = 0 ∨ k = 1 ∨ k = 2)
      (h : n.map (leBytes 4) = some bytes) : bytes.length = 4 ∧
        (leNat bytes == 0 || leNat bytes == 1 || leNat bytes == 2) = true := by
    obtain ⟨k, hk, rfl⟩ := Option.map_eq_some_iff.mp h
    refine ⟨length_leBytes 4 _, ?_⟩
    rcases hn k hk with rfl | rfl | rfl <;> decide
  unfold gpsConfigValue at h
  split at h
  · exact hinterval h
  · exact hinterval h
  · dsimp only at h
    split_ifs at h with hrange
    cases h
    refine ⟨length_leBytes 4 _, ?_⟩
    rw [gpsFieldValid, hword (lib.atof_lt value), Bool.not_eq_true']
    exact Bool.eq_false_iff.mpr hrange
  · dsimp only at h
    split_ifs at h with hrange
    cases h
    refine ⟨length_leBytes 4 _, ?_⟩
    rw [gpsFieldValid, hword (lib.atof_lt value), Bool.not_eq_true']
    exact Bool.eq_false_iff.mpr hrange
  · exact hmode (fun k hk => parseStartMode_le hk) h
  · exact hmode (fun k hk => gpsConfigParseTimeSource_le hk) h
  · split at h
    · rename_i v hv
      split_ifs at h with hrange
      cases h
      refine ⟨length_leBytes 4 _, ?_⟩
      rw [gpsFieldValid, hword (lib.strtof_lt hv), Bool.not_eq_true']
      exact Bool.eq_false_iff.mpr hrange
    · cases h
  · obtain ⟨b, -, rfl⟩ := Option.map_eq_some_iff.mp h
    simp only [gpsIndices, List.mem_cons, List.not_mem_nil, or_false] at hindex
    have hflag : index = 4 ∨ index = 5 ∨ index = 6 ∨ index = 8 ∨ index = 9 ∨ index = 10 ∨
        index = 12 := by
      grind
    rcases hflag with rfl | rfl | rfl | rfl | rfl | rfl | rfl <;> exact ⟨rfl, rfl⟩

/-- The temporaries are valid values for the fields, those of the configuration where nothing was
provided. -/
structure GpsTemp.Good (config : List Byte) (temp : GpsTemp) : Prop where
  length : ∀ i ∈ gpsIndices, (temp.values i).length = (gpsFieldPlace i).2
  valid : ∀ i ∈ gpsIndices, gpsFieldValid i (temp.values i) = true
  kept : ∀ i ∈ gpsIndices, temp.provided i = false →
    temp.values i = fieldAt gpsFieldPlace config i

theorem GpsTemp.good_ofConfig {config : List Byte} (hlen : config.length = gpsModule.configSize)
    (hvalid : gpsConfigValidate config = true) : (GpsTemp.ofConfig config).Good config := by
  refine ⟨fun i hi => ?_, gpsConfigValidate_iff.mp hvalid, fun _ _ _ => rfl⟩
  apply length_field
  rw [hlen]
  exact places_gpsFieldPlace.inside i hi

theorem stages_gpsConfigStage (lib : FloatLib) (config : List Byte) : Stages gpsIndices
    GpsTemp.values (gpsConfigValue lib) (gpsConfigStage lib) (GpsTemp.Good config)
    fun _ => True := by
  have hindices {i : Nat} : i ∈ gpsIndices ↔ ¬ i > 13 := by
    simp only [gpsIndices, List.mem_cons, List.not_mem_nil, or_false]
    omega
  constructor
  · intro i value temp temp' hgood _ h
    unfold gpsConfigStage at h
    split_ifs at h with hbehind
    · cases h
      exact hgood
    · obtain ⟨bytes, hbytes, rfl⟩ := Option.map_eq_some_iff.mp h
      obtain ⟨hlen, hvalid⟩ := gpsConfigValue_valid (hindices.mpr hbehind) hbytes
      refine ⟨fun j hj => ?_, fun j hj => ?_, fun j hj hnot => ?_⟩ <;> dsimp only at *
      · by_cases hji : j = i
        · subst hji
          rwa [Function.update_self]
        · rw [Function.update_of_ne hji]
          exact hgood.length j hj
      · by_cases hji : j = i
        · subst hji
          rwa [Function.update_self]
        · rw [Function.update_of_ne hji]
          exact hgood.valid j hj
      · by_cases hji : j = i
        · subst hji
          rw [Function.update_self] at hnot
          cases hnot
        · rw [Function.update_of_ne hji] at hnot
          rw [Function.update_of_ne hji]
          exact hgood.kept j hj hnot
  · intro i value temp temp' hi _ _ h
    rw [gpsConfigStage, if_neg (hindices.mp hi)] at h
    obtain ⟨bytes, hbytes, rfl⟩ := Option.map_eq_some_iff.mp h
    dsimp only
    rw [Function.update_self, hbytes]
  · intro i j value temp temp' _ hne _ _ h
    unfold gpsConfigStage at h
    split_ifs at h
    · cases h
      rfl
    · obtain ⟨bytes, -, rfl⟩ := Option.map_eq_some_iff.mp h
      exact Function.update_of_ne hne _ _

/-- The fields after the update are the temporaries. -/
theorem GpsTemp.Good.field_update {config : List Byte} {temp : GpsTemp} (h : temp.Good config)
    (hlen : config.length = gpsModule.configSize) :
    ∀ i ∈ gpsIndices, fieldAt gpsFieldPlace (temp.update config) i = temp.values i := by
  have hfirst : ∀ i ∈ [0, 1, 2, 3, 4, 5, 6],
      i ∈ gpsIndices ∧ (temp.values i).length = (gpsFieldPlace i).2 := by
    intro i hi
    have hmem : i ∈ gpsIndices := List.mem_append_left [7, 8, 9, 10, 11, 12, 13] hi
    exact ⟨hmem, h.length i hmem⟩
  have hsecond : ∀ i ∈ [12, 7, 8, 9, 10, 11, 13].filter temp.provided,
      i ∈ gpsIndices ∧ (temp.values i).length = (gpsFieldPlace i).2 := by
    intro i hi
    have hsub : [12, 7, 8, 9, 10, 11, 13] ⊆ gpsIndices := by decide
    have hmem := hsub (List.mem_filter.mp hi).1
    exact ⟨hmem, h.length i hmem⟩
  obtain ⟨hsize, hplain⟩ := places_gpsFieldPlace.writeFields hfirst hlen
  intro i hi
  unfold update
  rw [(places_gpsFieldPlace.writeFields hsecond hsize).2 i hi]
  by_cases hprovided : temp.provided i = true
  · by_cases hplace : i ∈ [12, 7, 8, 9, 10, 11, 13]
    · exact if_pos (List.mem_filter.mpr ⟨hplace, hprovided⟩)
    · rw [if_neg fun hmem => hplace (List.mem_filter.mp hmem).1, hplain i hi, if_pos]
      simp only [gpsIndices, List.mem_cons, List.not_mem_nil, or_false] at hi hplace ⊢
      omega
  · rw [if_neg fun hmem => hprovided (List.mem_filter.mp hmem).2, hplain i hi,
      h.kept i hi (Bool.eq_false_iff.mpr hprovided), ite_self]

/-- `gps_config_set` sets the configuration as a whole. -/
theorem gpsConfigSet_atomic {lib : FloatLib} {config : List Byte}
    (hlen : config.length = gpsModule.configSize) (hvalid : gpsModule.validates config = true)
    (alloc : Bool) (configString : List Byte) :
    (gpsConfigSet lib alloc config configString).1.Atomic gpsModule gpsIndices
      (fieldAt gpsFieldPlace) (gpsConfigValue lib)
      (keyedTokens sGpsCfgKeys (strtokTokens (· == comma) (cString configString))) config := by
  have hrejected (as : List (Nat × List Byte)) :
      (SetReply.mk .invalidParam config false).Atomic gpsModule gpsIndices
        (fieldAt gpsFieldPlace) (gpsConfigValue lib) as config :=
    ⟨fun _ => rfl, nofun, nofun⟩
  unfold gpsConfigSet
  cases hcopy : utilsStrdupForTokenization alloc configString with
  | none => exact hrejected _
  | some copy =>
    rw [← utilsStrdupForTokenization_some hcopy]
    dsimp only
    split
    · rename_i temp hstage
      obtain ⟨hgood, hassigned⟩ := (stages_gpsConfigStage lib config).run (fun _ _ => trivial)
        (GpsTemp.good_ofConfig hlen hvalid) (stageAll_of_stageKeyed hstage)
      have hfields := hgood.field_update hlen
      refine ⟨fun h => absurd rfl h, fun _ => ?_, fun _ => ?_⟩
      · refine gpsConfigValidate_iff.mpr fun i hi => ?_
        rw [hfields i hi]
        exact hgood.valid i hi
      · exact hassigned.congr (fun _ _ => rfl) hfields
    · exact hrejected _

/-! ## System -/

/-- The tokens of the system configuration, with the index each is for. -/
def systemTokens (tokens : List (List Byte)) (paramIndex : Nat) : List (Nat × List Byte) :=
  (tokens.zipIdx paramIndex).filterMap fun t =>
    let token := utilsTrimWhitespace t.1
    (systemConfigIndex token t.2).map fun index => (index, utilsExtractConfigValue token)

theorem stageAll_of_systemConfigTokens {strtof : Strtof} {tokens : List (List Byte)}
    {paramIndex count : Nat} {temp temp' : List Byte}
    (h : systemConfigTokens strtof tokens paramIndex temp = some (count, temp')) :
    count = paramIndex + tokens.length ∧
      stageAll (systemConfigStage strtof) (systemTokens tokens paramIndex) temp = some temp' := by
  induction tokens generalizing paramIndex temp with
  | nil =>
    cases h
    exact ⟨rfl, rfl⟩
  | cons t tokens ih =>
    obtain ⟨index, hindex, h⟩ := Option.bind_eq_some_iff.mp h
    obtain ⟨next, hnext, h⟩ := Option.bind_eq_some_iff.mp h
    obtain ⟨hcount, hrest⟩ := ih h
    refine ⟨by rw [hcount, List.length_cons]; omega, ?_⟩
    rw [systemTokens, List.zipIdx_cons,
      List.filterMap_cons_some (b := (index, utilsExtractConfigValue (utilsTrimWhitespace t)))
        (by simp [hindex]), stageAll]
    dsimp only
    rw [hnext, Option.bind_some]
    exact hrest

/-- The indices of `system_config_set`. -/
def systemIndices : List Nat := [0, 1, 2, 3, 4, 5, 6, 7, 8, 9, 10, 11, 12, 13, 14, 15, 16]

/-- The offset and the width of the field for an index in `SystemConfig`. -/
def systemFieldPlace (index : Nat) : Nat × Nat :=
  (systemFieldOffset index, if index = 5 ∨ 12 < index then 1 else 4)

theorem places_systemFieldPlace :
    Places systemIndices systemFieldPlace systemModule.configSize := by
  constructor <;> decide

/-- An accepted value is as wide as its field. -/
theorem length_systemConfigValue_eq {strtof : Strtof} {index : Nat} {value bytes : List Byte}
    (hindex : index ∈ systemIndices) (h : systemConfigValue strtof index value = some bytes) :
    bytes.length = (systemFieldPlace index).2 := by
  have henum {parsed : Option Nat} (h : parsed.map (leBytes 4) = some bytes) :
      bytes.length = 4 := by
    obtain ⟨n, -, rfl⟩ := Option.map_eq_some_iff.mp h
    exact length_leBytes 4 n
  unfold systemConfigValue at h
  split at h
  case h_1 | h_7 | h_8 => exact henum h
  case h_2 | h_3 | h_4 | h_5 =>
    split at h
    · cases h
      exact length_leBytes 4 _
    · cases h
  case h_6 =>
    split at h
    · split_ifs at h
      cases h
      rfl
    · cases h
  case h_9 | h_10 | h_11 | h_12 | h_13 =>
    split at h
    · split_ifs at h
      cases h
      exact length_leBytes 4 _
    · cases h
  case h_14 =>
    obtain ⟨b, -, rfl⟩ := Option.map_eq_some_iff.mp h
    simp only [systemIndices, List.mem_cons, List.not_mem_nil, or_false] at hindex
    have hflag : index = 13 ∨ index = 14 ∨ index = 15 ∨ index = 16 := by
      grind
    rcases hflag with rfl | rfl | rfl | rfl <;> rfl

theorem stages_systemConfigStage (strtof : Strtof) : Stages systemIndices
    (fieldAt systemFieldPlace) (systemConfigValue strtof) (systemConfigStage strtof)
    (fun block => block.length = systemModule.configSize) fun _ => True := by
  have hindices {i : Nat} : i ∈ systemIndices ↔ ¬ i > 16 := by
    simp only [systemIndices, List.mem_cons, List.not_mem_nil, or_false]
    omega
  have hcases {i : Nat} {value block block' : List Byte}
      (hlen : block.length = systemModule.configSize)
      (h : systemConfigStage strtof i value block = some block') :
      block'.length = systemModule.configSize ∧
        (i ∈ systemIndices →
          systemConfigValue strtof i value = some (fieldAt systemFieldPlace block' i)) ∧
        ∀ j ∈ systemIndices, j ≠ i →
          fieldAt systemFieldPlace block' j = fieldAt systemFieldPlace block j := by
    unfold systemConfigStage at h
    split_ifs at h with hbehind
    · cases h
      exact ⟨hlen, fun hi => absurd hbehind (hindices.mp hi), fun _ _ _ => rfl⟩
    · obtain ⟨bytes, hbytes, rfl⟩ := Option.map_eq_some_iff.mp h
      have hi := hindices.mpr hbehind
      obtain ⟨hlen', hself, hothers⟩ :=
        places_systemFieldPlace.setField hi hlen (length_systemConfigValue_eq hi hbytes)
      exact ⟨hlen', fun _ => hbytes.trans (congrArg some hself.symm), hothers⟩
  constructor
  · exact fun hgood _ h => (hcases hgood h).1
  · exact fun hi hgood _ h => (hcases hgood h).2.1 hi
  · exact fun hj hne hgood _ h => (hcases hgood h).2.2 _ hj hne

/-- `system_config_set` sets the configuration as a whole. -/
theorem systemConfigSet_atomic {strtof : Strtof} {config : List Byte}
    (hlen : config.length = systemModule.configSize)
    (hvalid : systemModule.validates config = true) (alloc : Bool) (configString : List Byte) :
    (systemConfigSet strtof alloc config configString).Atomic systemModule systemIndices
      (fieldAt systemFieldPlace) (systemConfigValue strtof)
      (systemTokens (strtokTokens (· == comma) (cString configString)) 0) config := by
  have hrejected (result : Result) (h : result ≠ .success) (as : List (Nat × List Byte)) :
      (SetReply.mk result config false).Atomic systemModule systemIndices
        (fieldAt systemFieldPlace) (systemConfigValue strtof) as config :=
    ⟨fun _ => rfl, fun hsuccess => absurd hsuccess h, fun hsuccess => absurd hsuccess h⟩
  unfold systemConfigSet
  split_ifs
  · exact hrejected .invalidParam (by decide) _
  · cases hcopy : utilsStrdupForTokenization alloc configString with
    | none => exact hrejected .error (by decide) _
    | some copy =>
      rw [← utilsStrdupForTokenization_some hcopy]
      dsimp only
      cases hstage : systemConfigTokens strtof (strtokTokens (· == comma) copy) 0 config with
      | none => exact hrejected .invalidParam (by decide) _
      | some staged =>
        obtain ⟨count, temp⟩ := staged
        obtain ⟨hcount, hall⟩ := stageAll_of_systemConfigTokens hstage
        cases count with
        | zero =>
          have hnil : strtokTokens (· == comma) copy = [] :=
            List.length_eq_zero_iff.mp (by omega)
          rw [hnil]
          exact ⟨fun _ => rfl, fun _ => hvalid, fun _ _ _ => rfl⟩
        | succ count =>
          change (if systemConfigValidate temp = true then
            SetReply.mk .success temp true else ⟨.invalidParam, config, false⟩).Atomic ..
          split_ifs with hchecked
          · refine ⟨fun h => absurd rfl h, fun _ => hchecked, fun _ => ?_⟩
            exact ((stages_systemConfigStage strtof).run (fun _ _ => trivial) hlen hall).2
          · exact hrejected .invalidParam (by decide) _

/-! ## All four -/

/-- A configuration of the right size that the check of its module accepts. -/
structure ModuleConfig.Accepts (m : ModuleConfig) (config : List Byte) : Prop where
  length : config.length = m.configSize
  valid : m.validates config = true

/-- Each of the four set functions changes nothing or sets its configuration as a whole. -/
theorem config_sets_atomic (lib : FloatLib) (alloc : Bool) {tcp gps system command : List Byte}
    (htcp : tcpModule.Accepts tcp) (hgps : gpsModule.Accepts gps)
    (hsystem : systemModule.Accepts system) (hcommand : commandModule.Accepts command)
    (configString : List Byte) :
    let tokens := strtokTokens (· == comma) (cString configString)
    (wewareTcpConfigSet tcp configString).Atomic tcpModule tcpConfigKeys tcpConfigField
        wewareTcpConfigValue (tcpTokens ((cString configString).splitOn comma)) tcp ∧
      (gpsConfigSet lib alloc gps configString).1.Atomic gpsModule gpsIndices
        (fieldAt gpsFieldPlace) (gpsConfigValue lib) (keyedTokens sGpsCfgKeys tokens) gps ∧
      (systemConfigSet lib.strtof alloc system configString).Atomic systemModule systemIndices
        (fieldAt systemFieldPlace) (systemConfigValue lib.strtof) (systemTokens tokens 0) system ∧
      (commandConfigSet alloc command configString).Atomic commandModule commandIndices
        commandConfigField commandConfigValue (keyedTokens sCmdCfgKeys tokens) command :=
  ⟨wewareTcpConfigSet_atomic htcp.length htcp.valid configString,
    gpsConfigSet_atomic hgps.length hgps.valid alloc configString,
    systemConfigSet_atomic hsystem.length hsystem.valid alloc configString,
    commandConfigSet_atomic hcommand.length hcommand.valid alloc configString⟩

/-- The number five, and no other text, as `strtof` and `atof` read it. -/
def fiveFloatLib : FloatLib where
  strtof s := if s = asciiBytes "5" then some (0x40A00000, []) else none
  atof s := if s = asciiBytes "5" then 0x40A00000 else 0
  strtof_lt := by
    intro s v rest h
    split_ifs at h
    cases h
    decide
  atof_lt := by
    intro s
    split_ifs <;> decide

theorem config_sets_atomic_speed_filter :
    let s := asciiBytes "i-on:10,sf:5,i-on:20"
    let r := (gpsConfigSet fiveFloatLib true gpsModule.defaultBlock s).1
    r.result = .success ∧ fieldAt gpsFieldPlace r.block 0 = leBytes 4 20 ∧
      Assigned gpsIndices (fieldAt gpsFieldPlace) (gpsConfigValue fiveFloatLib)
        (keyedTokens sGpsCfgKeys (strtokTokens (· == comma) (cString s)))
        gpsModule.defaultBlock r.block := by
  have hsuccess : (gpsConfigSet fiveFloatLib true gpsModule.defaultBlock
      (asciiBytes "i-on:10,sf:5,i-on:20")).1.result = .success := by decide +kernel
  have htcp : tcpModule.Accepts tcpModule.defaultBlock := by constructor <;> decide +kernel
  have hgps : gpsModule.Accepts gpsModule.defaultBlock := by constructor <;> decide +kernel
  have hsystem : systemModule.Accepts systemModule.defaultBlock := by
    constructor <;> decide +kernel
  have hcommand : commandModule.Accepts commandModule.defaultBlock := by
    constructor <;> decide +kernel
  obtain ⟨-, hatomic, -, -⟩ := config_sets_atomic fiveFloatLib true htcp hgps hsystem hcommand
    (asciiBytes "i-on:10,sf:5,i-on:20")
  refine ⟨hsuccess, ?_, hatomic.assigned hsuccess⟩
  decide +kernel

/-- The sixth token is for `deb` by its place, and overrides the last value of its key. -/
theorem later_place_overrides_key :
    let s := asciiBytes "d:10,d:20,d:30,d:40,d:50,60"
    let r := systemConfigSet fiveFloatLib.strtof true systemModule.defaultBlock s
    systemModule.Accepts systemModule.defaultBlock ∧ r.result = .success ∧
      lastValue (keyedTokens sSysCfgKeys (strtokTokens (· == comma) (cString s))) 5 =
        some (asciiBytes "50") ∧
      systemConfigValue fiveFloatLib.strtof 5 (asciiBytes "50") ≠
        some (fieldAt systemFieldPlace r.block 5) := by
  intro s r
  exact ⟨by constructor <;> decide +kernel, by decide +kernel, by decide +kernel,
    by decide +kernel⟩

end WalnutGateway
