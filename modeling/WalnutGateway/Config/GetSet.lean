import WalnutGateway.Config.Numbers
import WalnutGateway.Config.RoundTrip

/-!
# A get text is a set text

The network and the command configuration are always read back from their text, and the TCP
configuration where its text fits the response. The text of the GPS configuration has only the whole
part of a float, and that of the system configuration one, two or no decimals, so these are read
back exactly where the floats have no more.
-/

namespace WalnutGateway

/-! ## Printed numbers -/

theorem valueText_fixedBytes (negative : Bool) (decimals units : Nat) :
    ValueText isspace (fixedBytes negative decimals units) := by
  have hall : ∀ c ∈ fixedBytes negative decimals units,
      (c ≠ comma ∧ c ≠ 0) ∧ isspace c = false := by
    intro c hc
    have hdigit (h : ∃ d < 10, c = digitByte d) :
        (c ≠ comma ∧ c ≠ 0) ∧ isspace c = false := by
      obtain ⟨d, hd, rfl⟩ := h
      obtain ⟨-, hspace, -, -, hplain⟩ := digitByte_class d hd
      exact ⟨hplain, hspace⟩
    unfold fixedBytes at hc
    rcases List.mem_append.mp hc with hc | hc
    · rcases List.mem_append.mp hc with hc | hc
      · split_ifs at hc
        · obtain rfl := List.mem_singleton.mp hc
          decide
        · cases hc
      · exact hdigit (mem_decimalDigits hc)
    · split_ifs at hc
      · cases hc
      · rcases List.mem_cons.mp hc with rfl | hc
        · decide
        · exact hdigit (mem_paddedDigits hc)
  exact ⟨fun c hc => (hall c hc).1, fun c hc => (hall c (List.mem_of_getLast? hc)).2⟩

theorem flagBytes_read {q : ℚ} (h : q = 0 ∨ q = 1) :
    (parseBool (flagBytes q)).map (fun b => (b.toNat : ℚ)) = some q := by
  rcases h with rfl | rfl
  · have hparse : parseBool (flagBytes 0) = some 0 := by decide
    rw [hparse]
    simp
  · have hparse : parseBool (flagBytes 1) = some 1 := by decide
    rw [hparse]
    simp

theorem parseBool_flag {value : List Byte} {q : ℚ}
    (h : (parseBool value).map (fun b => (b.toNat : ℚ)) = some q) : q = 0 ∨ q = 1 := by
  obtain ⟨b, hb, rfl⟩ := Option.map_eq_some_iff.mp h
  rcases parseBool_eq hb with hbyte | hbyte
  · obtain rfl := List.singleton_inj.mp hbyte
    simp
  · obtain rfl := List.singleton_inj.mp hbyte
    simp

/-- A number of `int` that is read back exactly if it is the number it was cut from. -/
theorem fixedValue_zero (n : ℤ) : fixedValue (n < 0) 0 n.natAbs = n := by
  rw [fixedValue, pow_zero, div_one, Nat.cast_natAbs]
  split_ifs with hneg
  · rw [abs_of_neg (of_decide_eq_true hneg), Int.cast_neg, neg_neg]
  · rw [abs_of_nonneg (not_lt.mp fun h => hneg (decide_eq_true h))]

/-- The cut of a number that is not negative is the number exactly if this is a whole one. -/
theorem NumberLib.Exact.toInt_eq_iff {lib : NumberLib} (hlib : lib.Exact) {q : ℚ} (h : 0 ≤ q) :
    (lib.toInt q : ℚ) = q ↔ ∃ n : Nat, n < 2 ^ 31 ∧ q = n := by
  constructor
  · intro heq
    have hlt := hlib.toInt_lt q
    have hpos : 0 ≤ lib.toInt q := by
      rw [← heq] at h
      exact_mod_cast h
    refine ⟨(lib.toInt q).toNat, by omega, ?_⟩
    rw [← Int.cast_natCast, Int.toNat_of_nonneg hpos, heq]
  · rintro ⟨n, hn, rfl⟩
    rw [hlib.toInt_floor n h (by exact_mod_cast hn), Int.floor_natCast, Int.cast_natCast]

/-! ## GPS -/

/-- What accepted strings leave in the field for an index of `gps_config_set`. -/
def GpsNumberSet (q : ℚ) : Nat → Prop
  | 0 | 1 => ∃ n : Nat, 0 < n ∧ n < 2 ^ 31 ∧ q = n
  | 2 => 0 ≤ q ∧ q ≤ 180
  | 3 | 13 => 0 ≤ q
  | 7 | 11 => q = 0 ∨ q = 1 ∨ q = 2
  | _ => q = 0 ∨ q = 1

/-- A configuration that accepted strings may leave. -/
def GpsSet (config : Numbers) : Prop := ∀ i ∈ gpsIndices, GpsNumberSet (config i) i

/-- The indices of the floats. -/
def gpsFloatIndices : List Nat := [2, 3, 13]

/-- The floats are whole numbers that fit an `int`. -/
def WholeFloats (config : Numbers) : Prop :=
  ∀ i ∈ gpsFloatIndices, ∃ n : Nat, n < 2 ^ 31 ∧ config i = n

theorem gpsSet_defaults : GpsSet gpsNumbersDefaults := by
  intro i hi
  simp only [gpsIndices, List.mem_cons, List.not_mem_nil, or_false] at hi
  rcases hi with rfl | rfl | rfl | rfl | rfl | rfl | rfl | rfl | rfl | rfl | rfl | rfl | rfl | rfl
  · exact ⟨10, by decide, by decide, rfl⟩
  · exact ⟨30, by decide, by decide, rfl⟩
  · constructor <;> norm_num [gpsNumbersDefaults]
  all_goals
    simp [GpsNumberSet, gpsNumbersDefaults]

/-- An accepted value is such a number. -/
theorem gpsNumberValue_set {lib : NumberLib} {i : Nat} {value : List Byte} {q : ℚ}
    (hi : i ∈ gpsIndices) (h : gpsNumberValue lib i value = some q) : GpsNumberSet q i := by
  have hinterval (h : (if atol value ≤ 0 then none else some (atol value : ℚ)) = some q) :
      ∃ n : Nat, 0 < n ∧ n < 2 ^ 31 ∧ q = n := by
    have hle := atol_le value
    split_ifs at h with hpos
    cases h
    refine ⟨(atol value).toNat, by omega, by omega, ?_⟩
    rw [← Int.cast_natCast, Int.toNat_of_nonneg (by omega)]
  have hmode {parsed : Option Nat} (hparsed : ∀ k ∈ parsed, k = 0 ∨ k = 1 ∨ k = 2)
      (h : parsed.map (fun n : Nat => (n : ℚ)) = some q) : q = 0 ∨ q = 1 ∨ q = 2 := by
    obtain ⟨k, hk, rfl⟩ := Option.map_eq_some_iff.mp h
    rcases hparsed k hk with rfl | rfl | rfl <;> simp
  simp only [gpsIndices, List.mem_cons, List.not_mem_nil, or_false] at hi
  rcases hi with rfl | rfl | rfl | rfl | rfl | rfl | rfl | rfl | rfl | rfl | rfl | rfl | rfl | rfl
  · exact hinterval h
  · exact hinterval h
  · change (if lib.atof value < 0 ∨ lib.atof value > 180 then none
      else some (lib.atof value)) = some q at h
    split_ifs at h with hrange
    cases h
    exact ⟨not_lt.mp (not_or.mp hrange).1, not_lt.mp (not_or.mp hrange).2⟩
  · change (if lib.atof value < 0 then none else some (lib.atof value)) = some q at h
    split_ifs at h with hrange
    cases h
    exact not_lt.mp hrange
  · exact parseBool_flag h
  · exact parseBool_flag h
  · exact parseBool_flag h
  · exact hmode (fun k hk => parseStartMode_le hk) h
  · exact parseBool_flag h
  · exact parseBool_flag h
  · exact parseBool_flag h
  · exact hmode (fun k hk => gpsConfigParseTimeSource_le hk) h
  · exact parseBool_flag h
  · exact (gpsNumberValue_speed_iff.mp h).2

theorem valueText_gpsNumberText (lib : NumberLib) (i : Nat) (q : ℚ) :
    ValueText isspace (gpsNumberText lib i q) := by
  unfold gpsNumberText
  split
  · exact valueText_fixedBytes _ _ _
  · exact valueText_fixedBytes _ _ _
  · exact valueText_fixedBytes _ _ _
  · exact valueText_fixedBytes _ _ _
  · exact valueText_fixedBytes _ _ _
  · exact valueText_decimalBytes _
  · exact valueText_decimalBytes _
  · exact valueText_decimalBytes _

theorem startModeText_read {q : ℚ} (h : q = 0 ∨ q = 1 ∨ q = 2) :
    (parseStartMode (decimalBytes (if q = 1 then 1 else if q = 2 then 2 else 0))).map
      (fun n : Nat => (n : ℚ)) = some q := by
  rcases h with rfl | rfl | rfl <;> decide +kernel

theorem timeSourceText_read {q : ℚ} (h : q = 0 ∨ q = 1 ∨ q = 2) :
    (gpsConfigParseTimeSource (decimalBytes q.num.toNat)).map (fun n : Nat => (n : ℚ)) =
      some q := by
  rcases h with rfl | rfl | rfl <;> decide +kernel

/-- A printed number is read back, a float exactly if it is a whole number. -/
theorem gpsNumberValue_text_iff {lib : NumberLib} (hlib : lib.Exact) {i : Nat} {q : ℚ}
    (hi : i ∈ gpsIndices) (h : GpsNumberSet q i) :
    gpsNumberValue lib i (gpsNumberText lib i q) = some q ↔
      (i ∈ gpsFloatIndices → ∃ n : Nat, n < 2 ^ 31 ∧ q = n) := by
  have hinterval (hq : ∃ n : Nat, 0 < n ∧ n < 2 ^ 31 ∧ q = n) :
      (if atol (intBytes q.num) ≤ 0 then none else some (atol (intBytes q.num) : ℚ)) =
        some q := by
    obtain ⟨n, hpos, hn, rfl⟩ := hq
    rw [Rat.num_natCast, intBytes_natCast, atol_decimalBytes hn, if_neg (by omega),
      Int.cast_natCast]
  -- A cut number is taken exactly if the cut changes nothing.
  have hcut {refused : Prop} [Decidable refused] (hq : 0 ≤ q)
      (haccepted : (lib.toInt q : ℚ) = q → ¬ refused) :
      (if refused then none else some (lib.toInt q : ℚ)) = some q ↔
        ∃ n : Nat, n < 2 ^ 31 ∧ q = n := by
    rw [← hlib.toInt_eq_iff hq]
    refine ⟨fun heq => ?_, fun heq => ?_⟩
    · split_ifs at heq
      exact Option.some.inj heq
    · rw [if_neg (haccepted heq), heq]
  have hatof : lib.atof (intBytes (lib.toInt q)) = lib.toInt q := by
    rw [intBytes, hlib.atof_fixed, fixedValue_zero]
  have hstrtof : lib.strtof (intBytes (lib.toInt q)) = some ((lib.toInt q : ℚ), []) := by
    rw [intBytes, hlib.strtof_fixed, fixedValue_zero]
  simp only [gpsIndices, List.mem_cons, List.not_mem_nil, or_false] at hi
  rcases hi with rfl | rfl | rfl | rfl | rfl | rfl | rfl | rfl | rfl | rfl | rfl | rfl | rfl | rfl
  · exact iff_of_true (hinterval h) (fun hmem => absurd hmem (by decide))
  · exact iff_of_true (hinterval h) (fun hmem => absurd hmem (by decide))
  · obtain ⟨hpos, hle⟩ := h
    have hangle : gpsNumberValue lib 2 (gpsNumberText lib 2 q) =
        if (lib.toInt q : ℚ) < 0 ∨ (lib.toInt q : ℚ) > 180 then none
        else some (lib.toInt q : ℚ) := by
      rw [← hatof]
      rfl
    rw [imp_iff_right (by decide), hangle]
    exact hcut hpos fun heq => by rw [heq]; exact not_or.mpr ⟨not_lt.mpr hpos, not_lt.mpr hle⟩
  · have hdistance : gpsNumberValue lib 3 (gpsNumberText lib 3 q) =
        if (lib.toInt q : ℚ) < 0 then none else some (lib.toInt q : ℚ) := by
      rw [← hatof]
      rfl
    rw [imp_iff_right (by decide), hdistance]
    exact hcut h fun heq => by rw [heq]; exact not_lt.mpr h
  · exact iff_of_true (flagBytes_read h) (fun hmem => absurd hmem (by decide))
  · exact iff_of_true (flagBytes_read h) (fun hmem => absurd hmem (by decide))
  · exact iff_of_true (flagBytes_read h) (fun hmem => absurd hmem (by decide))
  · exact iff_of_true (startModeText_read h) (fun hmem => absurd hmem (by decide))
  · exact iff_of_true (flagBytes_read h) (fun hmem => absurd hmem (by decide))
  · exact iff_of_true (flagBytes_read h) (fun hmem => absurd hmem (by decide))
  · exact iff_of_true (flagBytes_read h) (fun hmem => absurd hmem (by decide))
  · exact iff_of_true (timeSourceText_read h) (fun hmem => absurd hmem (by decide))
  · exact iff_of_true (flagBytes_read h) (fun hmem => absurd hmem (by decide))
  · have hspeed : lib.strtof (gpsNumberText lib 13 q) = some ((lib.toInt q : ℚ), []) := hstrtof
    have hpos : 0 ≤ q := h
    rw [imp_iff_right (by decide), gpsNumberValue_speed_iff, and_iff_left hpos, hspeed,
      ← hlib.toInt_eq_iff hpos, Option.some.injEq, Prod.mk.injEq, and_iff_left rfl]

section Gps

variable {lib : NumberLib} {config : Numbers}

theorem GpsSet.stage {index : Nat} {value : List Byte} {temp temp' : Numbers} (h : GpsSet temp)
    (hstage : gpsNumbersStage lib index value temp = some temp') : GpsSet temp' := by
  unfold gpsNumbersStage at hstage
  split_ifs at hstage
  · cases hstage
    exact h
  · obtain ⟨q, hq, rfl⟩ := Option.map_eq_some_iff.mp hstage
    intro i hi
    by_cases heq : i = index
    · subst heq
      rw [Function.update_self]
      exact gpsNumberValue_set hi hq
    · rw [Function.update_of_ne heq]
      exact h i hi

theorem gpsSet_of_reachable
    (h : ReachableConfig (gpsNumbersSet lib) gpsNumbersDefaults config) : GpsSet config := by
  refine h.invariant gpsSet_defaults fun alloc configString s s' hs haccepted => ?_
  unfold gpsNumbersSet at haccepted
  split at haccepted
  · cases haccepted
  · split at haccepted
    · rename_i temp hstage
      cases haccepted
      exact stageAll_invariant (fun _ _ _ _ hgood hnext => GpsSet.stage hgood hnext)
        (stageAll_of_stageKeyed hstage) hs
    · cases haccepted

/-- The text of a reachable configuration is read back exactly if its floats are whole numbers. -/
theorem gpsNumbersSet_text_iff (hlib : lib.Exact)
    (h : ReachableConfig (gpsNumbersSet lib) gpsNumbersDefaults config) {text : List Byte}
    (hget : gpsNumbersGetString lib config cmdHandlerMaxResponseLength = .ok text) :
    gpsNumbersSet lib true text config = (.success, config) ↔ WholeFloats config := by
  have hset := gpsSet_of_reachable h
  unfold gpsNumbersGetString formatInto at hget
  split_ifs at hget with _ hlen
  cases hget
  have hplain : PlainText isBlank gpsFormat fun i => gpsNumberText lib i (config i) :=
    ⟨by decide +kernel, fun row _ => (valueText_gpsNumberText lib row.2 (config row.2)).isBlank⟩
  have htable : ∀ row ∈ gpsFormat,
      utilsConfigKeyToIndex (asciiBytes row.1) sGpsCfgKeys = some row.2 := by
    decide
  have hrows : ∀ row ∈ gpsFormat, row.2 ∈ gpsIndices ∧ ¬ row.2 > 13 := by
    decide
  have hstage := stageKeyed_entries (gpsNumbersStage lib) hplain htable false config
  have hunchanged : stageAll (gpsNumbersStage lib)
      (gpsFormat.map fun row => (row.2, gpsNumberText lib row.2 (config row.2))) config =
        some config ↔ WholeFloats config := by
    rw [stageAll_update_self_iff (gpsNumberValue lib)]
    · rw [List.forall_mem_map]
      constructor
      · intro hread i hi
        have hrow : ∃ row ∈ gpsFormat, row.2 = i := by
          revert i
          decide
        obtain ⟨row, hrow, rfl⟩ := hrow
        exact (gpsNumberValue_text_iff hlib (hrows row hrow).1 (hset _ (hrows row hrow).1)).mp
          (hread row hrow) hi
      · intro hwhole row hrow
        exact (gpsNumberValue_text_iff hlib (hrows row hrow).1 (hset _ (hrows row hrow).1)).mpr
          (hwhole row.2)
    · intro a ha s
      obtain ⟨row, hrow, rfl⟩ := List.mem_map.mp ha
      rw [gpsNumbersStage, if_neg (hrows row hrow).2]
    · rw [List.map_map]
      exact (by decide : (gpsFormat.map Prod.snd).Nodup)
  rw [← hunchanged]
  unfold gpsNumbersSet
  rw [hplain.copy (not_le.mp hlen)]
  dsimp only
  rw [hplain.tokens, hstage]
  cases stageAll (gpsNumbersStage lib)
      (gpsFormat.map fun row => (row.2, gpsNumberText lib row.2 (config row.2))) config with
  | none =>
    refine iff_of_false (fun hset => ?_) (fun hsome => ?_)
    · cases hset
    · cases hsome
  | some temp =>
    change (Result.success, temp) = (Result.success, config) ↔ some temp = some config
    rw [Prod.mk.injEq, Option.some.injEq, and_iff_right rfl]

end Gps

/-! ## System -/

/-- A whole number between two bounds. -/
def WholeBetween (low high : Nat) (q : ℚ) : Prop := ∃ n : Nat, low ≤ n ∧ n ≤ high ∧ q = n

/-- What accepted strings leave in the field for an index of `system_config_set`. -/
def SystemNumberSet (q : ℚ) : Nat → Prop
  | 0 | 6 => WholeBetween 0 1 q
  | 1 | 2 | 3 | 4 => True
  | 5 => WholeBetween 1 255 q
  | 7 => WholeBetween 0 4 q
  | 8 | 9 | 10 => 0 ≤ q
  | 11 | 12 => WholeBetween 1 uint32Max q
  | _ => q = 0 ∨ q = 1

/-- A configuration that accepted strings may leave. -/
structure SystemSet (config : Numbers) : Prop where
  numbers : ∀ i ∈ systemIndices, SystemNumberSet (config i) i
  valid : systemNumbersValidate config = true

/-- The indices of the floats. -/
def systemFloatIndices : List Nat := [1, 2, 3, 4, 8, 9, 10]

/-- The floats have no more decimals than the text has. -/
def PrintedDecimals (config : Numbers) : Prop :=
  ∀ i ∈ systemFloatIndices, HasDecimals (systemDecimals i) (config i)

theorem systemSet_defaults : SystemSet systemNumbersDefaults := by
  constructor
  · intro i hi
    simp only [systemIndices, List.mem_cons, List.not_mem_nil, or_false] at hi
    rcases hi with rfl | rfl | rfl | rfl | rfl | rfl | rfl | rfl | rfl | rfl | rfl | rfl | rfl |
      rfl | rfl | rfl | rfl
    · exact ⟨0, by decide, by decide, rfl⟩
    · trivial
    · trivial
    · trivial
    · trivial
    · exact ⟨5, by decide, by decide, rfl⟩
    · exact ⟨0, by decide, by decide, rfl⟩
    · exact ⟨4, by decide, by decide, rfl⟩
    · norm_num [SystemNumberSet, systemNumbersDefaults]
    · norm_num [SystemNumberSet, systemNumbersDefaults]
    · norm_num [SystemNumberSet, systemNumbersDefaults]
    · exact ⟨2000, by decide, by decide, rfl⟩
    · exact ⟨5, by decide, by decide, rfl⟩
    · exact Or.inl rfl
    · exact Or.inr rfl
    · exact Or.inl rfl
    · exact Or.inl rfl
  · decide +kernel

/-- An enumerator is one of those that have a number or a name. -/
theorem parseEnum_le {maxInclusive k : Nat} {names : List (String × Nat)} {s : List Byte}
    (hnames : ∀ row ∈ names, row.2 ≤ maxInclusive) (h : parseEnum maxInclusive names s = some k) :
    k ≤ maxInclusive := by
  rcases Option.or_eq_some_iff.mp h with hdigit | ⟨-, hname⟩
  · unfold parseEnumDigit at hdigit
    split at hdigit
    · split_ifs at hdigit with hrange
      cases hdigit
      omega
    · cases hdigit
  · obtain ⟨row, hrow, rfl⟩ := Option.map_eq_some_iff.mp hname
    exact hnames row (List.mem_of_find?_eq_some hrow)

theorem strtoul_le {s rest : List Byte} {v : Nat} (h : strtoul s = some (v, rest)) :
    v ≤ uint32Max := by
  obtain ⟨⟨negative, n, rest'⟩, -, heq⟩ := Option.map_eq_some_iff.mp h
  dsimp only at heq
  obtain ⟨rfl, -⟩ := Prod.mk.inj heq
  unfold uint32Max
  split_ifs <;> omega

/-- An accepted value is such a number. -/
theorem systemNumberValue_set {lib : NumberLib} {i : Nat} {value : List Byte} {q : ℚ}
    (hi : i ∈ systemIndices) (h : systemNumberValue lib i value = some q) :
    SystemNumberSet q i := by
  have henum {maxInclusive : Nat} {names : List (String × Nat)}
      (hnames : ∀ row ∈ names, row.2 ≤ maxInclusive)
      (h : (parseEnum maxInclusive names value).map (fun n : Nat => (n : ℚ)) = some q) :
      WholeBetween 0 maxInclusive q := by
    obtain ⟨k, hk, rfl⟩ := Option.map_eq_some_iff.mp h
    exact ⟨k, Nat.zero_le k, parseEnum_le hnames hk, rfl⟩
  have hduration {j : Nat} (hj : j = 11 ∨ j = 12)
      (h : systemNumberValue lib j value = some q) : WholeBetween 1 uint32Max q := by
    obtain ⟨n, hread, hne, rfl⟩ := (systemNumberValue_duration_iff hj).mp h
    exact ⟨n, Nat.pos_of_ne_zero hne, strtoul_le hread, rfl⟩
  simp only [systemIndices, List.mem_cons, List.not_mem_nil, or_false] at hi
  rcases hi with rfl | rfl | rfl | rfl | rfl | rfl | rfl | rfl | rfl | rfl | rfl | rfl | rfl |
    rfl | rfl | rfl | rfl
  · exact henum (by decide) h
  · trivial
  · trivial
  · trivial
  · trivial
  · obtain ⟨v, -, hpos, hle, rfl⟩ := systemNumberValue_count_iff.mp h
    refine ⟨v.toNat, by omega, by omega, ?_⟩
    rw [← Int.cast_natCast, Int.toNat_of_nonneg (by omega)]
  · exact henum (by decide) h
  · exact henum (by decide) h
  · exact ((systemNumberValue_threshold_iff (by decide)).mp h).2
  · exact ((systemNumberValue_threshold_iff (by decide)).mp h).2
  · exact ((systemNumberValue_threshold_iff (by decide)).mp h).2
  · exact hduration (by decide) h
  · exact hduration (by decide) h
  · exact parseBool_flag h
  · exact parseBool_flag h
  · exact parseBool_flag h
  · exact parseBool_flag h

theorem valueText_systemNumberText (i : Nat) (q : ℚ) :
    ValueText isspace (systemNumberText i q) := by
  unfold systemNumberText
  split
  all_goals first | exact valueText_fixedBytes _ _ _ | exact valueText_decimalBytes _

/-- A number of an enumerator is read back. -/
theorem parseEnum_decimalBytes {maxInclusive n : Nat} (names : List (String × Nat))
    (h : n ≤ maxInclusive) (hn : n < 2 ^ 31) :
    parseEnum maxInclusive names (decimalBytes n) = some n := by
  rw [parseEnum, parseEnumDigit, strtol_decimalBytes hn]
  dsimp only
  rw [if_neg (by omega), Int.toNat_natCast, Option.some_or]

/-- A printed number is read back, a float exactly if it has no more decimals than the text. -/
theorem systemNumberValue_text_iff {lib : NumberLib} (hlib : lib.Exact) {i : Nat} {q : ℚ}
    (hi : i ∈ systemIndices) (h : SystemNumberSet q i) :
    systemNumberValue lib i (systemNumberText i q) = some q ↔
      (i ∈ systemFloatIndices → HasDecimals (systemDecimals i) q) := by
  have hnum (n : Nat) : decimalBytes (n : ℚ).num.toNat = decimalBytes n := by
    rw [Rat.num_natCast, Int.toNat_natCast]
  have henum {maxInclusive : Nat} (names : List (String × Nat)) (hmax : maxInclusive < 2 ^ 31)
      (hq : WholeBetween 0 maxInclusive q) :
      (parseEnum maxInclusive names (decimalBytes q.num.toNat)).map (fun n : Nat => (n : ℚ)) =
        some q := by
    obtain ⟨n, -, hn, rfl⟩ := hq
    rw [hnum, parseEnum_decimalBytes names hn (by omega), Option.map_some]
  have hduration (hq : WholeBetween 1 uint32Max q) :
      ∃ n, strtoul (decimalBytes q.num.toNat) = some (n, []) ∧ n ≠ 0 ∧ q = n := by
    obtain ⟨n, hpos, hn, rfl⟩ := hq
    rw [hnum]
    exact ⟨n, strtoul_decimalBytes hn, Nat.pos_iff_ne_zero.mp hpos, rfl⟩
  have hfloat (decimals : Nat) :
      lib.strtof (fixedBytes (q < 0) decimals (fixedUnits decimals q)) = some (q, []) ↔
        HasDecimals decimals q := by
    rw [hlib.strtof_fixed, Option.some.injEq, Prod.mk.injEq, and_iff_left rfl]
    exact fixedValue_fixedUnits_iff decimals q
  simp only [systemIndices, List.mem_cons, List.not_mem_nil, or_false] at hi
  rcases hi with rfl | rfl | rfl | rfl | rfl | rfl | rfl | rfl | rfl | rfl | rfl | rfl | rfl |
    rfl | rfl | rfl | rfl
  · exact iff_of_true (henum _ (by decide) h) (fun hmem => absurd hmem (by decide))
  · exact ((systemNumberValue_float_iff (by decide)).trans (hfloat 1)).trans
      (imp_iff_right (by decide)).symm
  · exact ((systemNumberValue_float_iff (by decide)).trans (hfloat 1)).trans
      (imp_iff_right (by decide)).symm
  · exact ((systemNumberValue_float_iff (by decide)).trans (hfloat 1)).trans
      (imp_iff_right (by decide)).symm
  · exact ((systemNumberValue_float_iff (by decide)).trans (hfloat 1)).trans
      (imp_iff_right (by decide)).symm
  · refine iff_of_true ?_ (fun hmem => absurd hmem (by decide))
    obtain ⟨n, hpos, hn, rfl⟩ := h
    have hlong : strtol (decimalBytes (n : ℚ).num.toNat) = some ((n : ℤ), []) := by
      rw [hnum, strtol_decimalBytes (by omega)]
    exact systemNumberValue_count_iff.mpr ⟨n, hlong, by omega, by omega, rfl⟩
  · exact iff_of_true (henum _ (by decide) h) (fun hmem => absurd hmem (by decide))
  · exact iff_of_true (henum _ (by decide) h) (fun hmem => absurd hmem (by decide))
  · exact (((systemNumberValue_threshold_iff (by decide)).trans (and_iff_left h)).trans
      (hfloat 0)).trans (imp_iff_right (by decide)).symm
  · exact (((systemNumberValue_threshold_iff (by decide)).trans (and_iff_left h)).trans
      (hfloat 0)).trans (imp_iff_right (by decide)).symm
  · exact (((systemNumberValue_threshold_iff (by decide)).trans (and_iff_left h)).trans
      (hfloat 2)).trans (imp_iff_right (by decide)).symm
  · exact iff_of_true ((systemNumberValue_duration_iff (by decide)).mpr (hduration h))
      (fun hmem => absurd hmem (by decide))
  · exact iff_of_true ((systemNumberValue_duration_iff (by decide)).mpr (hduration h))
      (fun hmem => absurd hmem (by decide))
  · exact iff_of_true (flagBytes_read h) (fun hmem => absurd hmem (by decide))
  · exact iff_of_true (flagBytes_read h) (fun hmem => absurd hmem (by decide))
  · exact iff_of_true (flagBytes_read h) (fun hmem => absurd hmem (by decide))
  · exact iff_of_true (flagBytes_read h) (fun hmem => absurd hmem (by decide))

section System

variable {lib : NumberLib} {config : Numbers}

/-- Entries with their keys are staged one after the other. -/
theorem systemNumbersTokens_entries {format : List (String × Nat)} {values : Nat → List Byte}
    (h : PlainText isBlank format values)
    (htable : ∀ row ∈ format, utilsConfigKeyToIndex (asciiBytes row.1) sSysCfgKeys = some row.2)
    (paramIndex : Nat) (temp : Numbers) :
    systemNumbersTokens lib (format.map fun row => configEntry row.1 (values row.2)) paramIndex
        temp =
      (stageAll (systemNumbersStage lib) (format.map fun row => (row.2, values row.2)) temp).map
        (paramIndex + format.length, ·) := by
  induction format generalizing paramIndex temp with
  | nil => rfl
  | cons row format ih =>
    obtain ⟨hkey, hkeys⟩ := List.forall_mem_cons.mp h.keys
    obtain ⟨hvalue, hvalues⟩ := List.forall_mem_cons.mp h.values
    obtain ⟨hindex, hindices⟩ := List.forall_mem_cons.mp htable
    have htrim : utilsTrimWhitespace (configEntry row.1 (values row.2)) =
        configEntry row.1 (values row.2) :=
      hkey.trim_configEntry hvalue fun _ => isspace_of_isBlank
    have htoken : systemConfigIndex (configEntry row.1 (values row.2)) paramIndex =
        some row.2 := by
      unfold systemConfigIndex
      dsimp only
      rw [if_neg (not_not_intro (colon_mem_configEntry ..)), (hkey.split _).1, if_neg, hindex]
      rw [not_or, not_le]
      exact hkey.length
    rw [List.map_cons, List.map_cons, systemNumbersTokens, htrim, htoken,
      Option.bind_some, hkey.extract, stageAll, Option.map_bind]
    congr 1
    funext next
    have hcount : paramIndex + (row :: format).length = paramIndex + 1 + format.length := by
      rw [List.length_cons]
      omega
    rw [ih ⟨hkeys, hvalues⟩ hindices, hcount]
    rfl

theorem systemNumbersStage_set {index : Nat} {value : List Byte} {temp temp' : Numbers}
    (h : ∀ i ∈ systemIndices, SystemNumberSet (temp i) i)
    (hstage : systemNumbersStage lib index value temp = some temp') :
    ∀ i ∈ systemIndices, SystemNumberSet (temp' i) i := by
  unfold systemNumbersStage at hstage
  split_ifs at hstage
  · cases hstage
    exact h
  · obtain ⟨q, hq, rfl⟩ := Option.map_eq_some_iff.mp hstage
    intro i hi
    by_cases heq : i = index
    · subst heq
      rw [Function.update_self]
      exact systemNumberValue_set hi hq
    · rw [Function.update_of_ne heq]
      exact h i hi

theorem systemNumbersTokens_set {tokens : List (List Byte)} {paramIndex count : Nat}
    {temp temp' : Numbers} (h : ∀ i ∈ systemIndices, SystemNumberSet (temp i) i)
    (htokens : systemNumbersTokens lib tokens paramIndex temp = some (count, temp')) :
    ∀ i ∈ systemIndices, SystemNumberSet (temp' i) i := by
  induction tokens generalizing paramIndex temp with
  | nil =>
    cases htokens
    exact h
  | cons t tokens ih =>
    obtain ⟨index, -, htokens⟩ := Option.bind_eq_some_iff.mp htokens
    obtain ⟨next, hnext, htokens⟩ := Option.bind_eq_some_iff.mp htokens
    exact ih (systemNumbersStage_set h hnext) htokens

theorem systemSet_of_reachable
    (h : ReachableConfig (systemNumbersSet lib) systemNumbersDefaults config) :
    SystemSet config := by
  refine h.invariant systemSet_defaults fun alloc configString s s' hs haccepted => ?_
  unfold systemNumbersSet at haccepted
  split_ifs at haccepted
  · cases haccepted
  · split at haccepted
    · cases haccepted
    · split at haccepted
      · cases haccepted
      · cases haccepted
        exact hs
      · rename_i count temp _ htokens
        split_ifs at haccepted with hvalid
        · cases haccepted
          exact ⟨systemNumbersTokens_set hs.numbers htokens, hvalid⟩
        · cases haccepted

/-- The text of a reachable configuration is read back exactly if its floats have no more decimals
than the text. -/
theorem systemNumbersSet_text_iff (hlib : lib.Exact)
    (h : ReachableConfig (systemNumbersSet lib) systemNumbersDefaults config) {text : List Byte}
    (hget : systemNumbersGetString config cmdHandlerMaxResponseLength = .ok text) :
    systemNumbersSet lib true text config = (.success, config) ↔ PrintedDecimals config := by
  have hset := systemSet_of_reachable h
  unfold systemNumbersGetString formatInto at hget
  split_ifs at hget with _ hlen
  cases hget
  have hplain : PlainText isBlank systemFormat fun i => systemNumberText i (config i) :=
    ⟨by decide +kernel, fun row _ => (valueText_systemNumberText row.2 (config row.2)).isBlank⟩
  have htable : ∀ row ∈ systemFormat,
      utilsConfigKeyToIndex (asciiBytes row.1) sSysCfgKeys = some row.2 := by
    decide
  have hrows : ∀ row ∈ systemFormat, row.2 ∈ systemIndices ∧ ¬ row.2 > 16 := by
    decide
  have hunchanged : stageAll (systemNumbersStage lib)
      (systemFormat.map fun row => (row.2, systemNumberText row.2 (config row.2))) config =
        some config ↔ PrintedDecimals config := by
    rw [stageAll_update_self_iff (systemNumberValue lib)]
    · rw [List.forall_mem_map]
      constructor
      · intro hread i hi
        have hrow : ∃ row ∈ systemFormat, row.2 = i := by
          revert i
          decide
        obtain ⟨row, hrow, rfl⟩ := hrow
        exact (systemNumberValue_text_iff hlib (hrows row hrow).1
          (hset.numbers _ (hrows row hrow).1)).mp (hread row hrow) hi
      · intro hprinted row hrow
        exact (systemNumberValue_text_iff hlib (hrows row hrow).1
          (hset.numbers _ (hrows row hrow).1)).mpr (hprinted row.2)
    · intro a ha s
      obtain ⟨row, hrow, rfl⟩ := List.mem_map.mp ha
      rw [systemNumbersStage, if_neg (hrows row hrow).2]
    · rw [List.map_map]
      exact (by decide : (systemFormat.map Prod.snd).Nodup)
  have hne : (configText systemFormat fun i => systemNumberText i (config i)).length ≠ 0 := by
    unfold configText systemFormat
    rw [List.map_cons, commaJoin, List.length_append, configEntry, List.length_append,
      List.length_cons]
    omega
  rw [← hunchanged]
  unfold systemNumbersSet
  rw [hplain.cString, if_neg hne, hplain.copy (not_le.mp hlen)]
  dsimp only
  rw [hplain.tokens, systemNumbersTokens_entries hplain htable]
  cases hstage : stageAll (systemNumbersStage lib)
      (systemFormat.map fun row => (row.2, systemNumberText row.2 (config row.2))) config with
  | none =>
    refine iff_of_false (fun hset => ?_) (fun hsome => ?_)
    · cases hset
    · cases hsome
  | some temp =>
    change (if systemNumbersValidate temp = true then (Result.success, temp)
      else (Result.invalidParam, config)) = (Result.success, config) ↔ some temp = some config
    constructor
    · intro hreply
      split_ifs at hreply
      · exact congrArg some (Prod.mk.inj hreply).2
      · cases hreply
    · intro heq
      obtain rfl := Option.some.inj heq
      rw [if_pos hset.valid]

end System

/-! ## Every module -/

/-- `GET` and then `SET` changes nothing: always for the network and the command configuration, for
the TCP configuration where the text fits, and for the others, where it fits, exactly if the floats
have no more decimals than the text. -/
theorem get_then_set {lib : NumberLib} (hlib : lib.Exact) :
    (∀ block, ReachableConfig (fun alloc configString block =>
        (networkConfigSet alloc block configString).outcome) networkModule.defaultBlock block →
      ReadsBack (fun alloc configString block =>
        (networkConfigSet alloc block configString).outcome) networkConfigGetString block) ∧
    (∀ block, ReachableConfig (fun alloc configString block =>
        (commandConfigSet alloc block configString).outcome) commandModule.defaultBlock block →
      ReadsBack (fun alloc configString block =>
        (commandConfigSet alloc block configString).outcome) commandConfigGetString block) ∧
    (∀ block, ReachableConfig (fun _ configString block =>
        (wewareTcpConfigSet block configString).outcome) tcpModule.defaultBlock block →
      (∃ text, wewareTcpConfigGetString block cmdHandlerMaxResponseLength = .ok text) →
      ReadsBack (fun _ configString block =>
        (wewareTcpConfigSet block configString).outcome) wewareTcpConfigGetString block) ∧
    (∀ config text, ReachableConfig (gpsNumbersSet lib) gpsNumbersDefaults config →
      gpsNumbersGetString lib config cmdHandlerMaxResponseLength = .ok text →
      (gpsNumbersSet lib true text config = (.success, config) ↔ WholeFloats config)) ∧
    ∀ config text, ReachableConfig (systemNumbersSet lib) systemNumbersDefaults config →
      systemNumbersGetString config cmdHandlerMaxResponseLength = .ok text →
      (systemNumbersSet lib true text config = (.success, config) ↔ PrintedDecimals config) := by
  refine ⟨fun block h => ?_, fun block h => ?_, fun block h hget => ?_,
    fun config text h hget => gpsNumbersSet_text_iff hlib h hget,
    fun config text h hget => systemNumbersSet_text_iff hlib h hget⟩
  · exact (h.invariant networkSet_defaultBlock fun _ _ _ _ hset => hset.set).readsBack
  · exact (h.invariant commandSet_defaultBlock fun _ _ _ _ hset => hset.set).readsBack
  · obtain ⟨text, hget⟩ := hget
    refine (h.invariant tcpSet_defaultBlock fun _ _ _ _ hset => hset.set).readsBack ?_
    unfold wewareTcpConfigGetString formatInto at hget
    split_ifs at hget with _ hlen
    exact not_le.mp hlen

/-- Digits, and more digits behind a point. -/
def readUnsigned (s : List Byte) : Option (ℚ × List Byte) :=
  let whole := s.takeWhile isdigit
  let rest := s.dropWhile isdigit
  let fraction := if rest.head? = some 0x2E then (rest.drop 1).takeWhile isdigit else []
  if whole = [] ∧ fraction = [] then none
  else some (digitsFrom 0 (whole ++ fraction) / 10 ^ fraction.length,
    if rest.head? = some 0x2E then (rest.drop 1).dropWhile isdigit else rest)

/-- A decimal number behind blanks, with a sign. -/
def readDecimal (s : List Byte) : Option (ℚ × List Byte) :=
  let t := s.dropWhile isspace
  if t.head? = some 0x2D then (readUnsigned (t.drop 1)).map fun (q, rest) => (-q, rest)
  else if t.head? = some 0x2B then readUnsigned (t.drop 1)
  else readUnsigned t

/-- A library that reads decimal numbers, and cuts and saturates to an `int`. -/
def decimalLib : NumberLib where
  strtof := readDecimal
  atof s := (readDecimal s).elim 0 Prod.fst
  toInt q := if 0 ≤ q then min ⌊q⌋ (2 ^ 31 - 1) else max (-⌊-q⌋) (-2 ^ 31)

/-- Digits and what is behind them. -/
theorem scan_decimalBytes (n : Nat) (tail : List Byte) (h : ∀ c ∈ tail.head?, isdigit c = false) :
    (decimalBytes n ++ tail).takeWhile isdigit = decimalBytes n ∧
      (decimalBytes n ++ tail).dropWhile isdigit = tail := by
  have hdigits : ∀ c ∈ decimalBytes n, isdigit c = true := fun _ => isdigit_of_mem_decimalBytes
  rw [List.takeWhile_append_of_pos hdigits, List.dropWhile_append_of_pos hdigits]
  cases tail with
  | nil => exact ⟨List.append_nil _, rfl⟩
  | cons c tail =>
    have hc : ¬ isdigit c = true := Bool.eq_false_iff.mp (h c rfl)
    rw [List.takeWhile_cons_of_neg hc, List.dropWhile_cons_of_neg hc]
    exact ⟨List.append_nil _, rfl⟩

/-- The digits of a number with decimals stand for it in its smallest unit. -/
theorem digitsFrom_fixed (decimals units : Nat) :
    digitsFrom 0 (decimalBytes (units / 10 ^ decimals) ++ paddedDigits decimals units) = units := by
  have hwhole : digitsFrom 0 (decimalBytes (units / 10 ^ decimals) ++ paddedDigits decimals units) =
      digitsFrom (digitsFrom 0 (decimalBytes (units / 10 ^ decimals)))
        (paddedDigits decimals units) := List.foldl_append
  rw [hwhole, digitsFrom_decimalBytes, digitsFrom_paddedDigits]
  exact Nat.div_add_mod' units (10 ^ decimals)

theorem readUnsigned_fixed (decimals units : Nat) :
    readUnsigned (decimalBytes (units / 10 ^ decimals) ++
      if decimals = 0 then [] else 0x2E :: paddedDigits decimals units) =
        some ((units : ℚ) / 10 ^ decimals, []) := by
  unfold readUnsigned
  by_cases hzero : decimals = 0
  · subst hzero
    obtain ⟨hwhole, hrest⟩ := scan_decimalBytes (units / 10 ^ 0) [] nofun
    rw [if_pos rfl, hwhole, hrest]
    simp [decimalBytes_ne_nil, digitsFrom_decimalBytes]
  · have hpoint : ∀ c ∈ ((0x2E : Byte) :: paddedDigits decimals units).head?,
        isdigit c = false := by
      intro c hc
      cases hc
      decide
    obtain ⟨hwhole, hrest⟩ := scan_decimalBytes (units / 10 ^ decimals) _ hpoint
    have hdigits : ∀ c ∈ paddedDigits decimals units, isdigit c = true := by
      intro c hc
      obtain ⟨d, hd, rfl⟩ := mem_paddedDigits hc
      exact (digitByte_class d hd).1
    rw [if_neg hzero, hwhole, hrest]
    dsimp only
    rw [List.head?_cons, if_pos rfl, if_pos rfl, List.drop_one, List.tail_cons,
      List.takeWhile_eq_self_iff.mpr hdigits, List.dropWhile_eq_nil_iff.mpr hdigits,
      if_neg fun hnil => decimalBytes_ne_nil _ hnil.1, digitsFrom_fixed, length_paddedDigits]

/-- A printed decimal is read to its end, and is the number it stands for. -/
theorem readDecimal_fixedBytes (negative : Bool) (decimals units : Nat) :
    readDecimal (fixedBytes negative decimals units) =
      some (fixedValue negative decimals units, []) := by
  obtain ⟨c, cs, hcons⟩ := List.exists_cons_of_ne_nil (decimalBytes_ne_nil (units / 10 ^ decimals))
  obtain ⟨d, hd, rfl⟩ : ∃ d < 10, c = digitByte d := by
    have hmem : c ∈ decimalBytes (units / 10 ^ decimals) := by
      rw [hcons]
      exact List.mem_cons_self ..
    exact mem_decimalDigits hmem
  obtain ⟨-, hspace, hplus, hminus, -⟩ := digitByte_class d hd
  have hread := readUnsigned_fixed decimals units
  unfold readDecimal fixedBytes fixedValue
  dsimp only
  cases negative with
  | true =>
    rw [if_pos rfl, if_pos rfl, List.append_assoc, List.singleton_append,
      List.dropWhile_cons_of_neg (by decide), List.head?_cons, if_pos rfl, List.drop_one,
      List.tail_cons, hread]
    rfl
  | false =>
    rw [if_neg Bool.false_ne_true, if_neg Bool.false_ne_true, List.nil_append]
    rw [hcons] at hread ⊢
    rw [List.cons_append, List.dropWhile_cons_of_neg (by rw [hspace]; exact nofun),
      List.head?_cons, if_neg (by simpa using hminus), if_neg (by simpa using hplus)]
    exact hread

theorem exact_decimalLib : decimalLib.Exact where
  strtof_fixed := readDecimal_fixedBytes
  atof_fixed negative units := by
    rw [decimalLib]
    dsimp only
    rw [readDecimal_fixedBytes, Option.elim_some]
  toInt_floor q hpos hlt := by
    have hfloor : ⌊q⌋ < 2 ^ 31 := by
      rw [Int.floor_lt]
      exact_mod_cast hlt
    rw [decimalLib]
    dsimp only
    rw [if_pos hpos, min_eq_left (by omega)]
  toInt_lt q := by
    rw [decimalLib]
    dsimp only
    split_ifs with hpos
    · omega
    · have hfloor : 0 ≤ ⌊-q⌋ := by
        rw [Int.floor_nonneg]
        linarith
      omega

theorem get_then_set_defaults :
    ReadsBack (fun alloc configString block =>
      (networkConfigSet alloc block configString).outcome) networkConfigGetString
        networkModule.defaultBlock ∧
    ReadsBack (fun alloc configString block =>
      (commandConfigSet alloc block configString).outcome) commandConfigGetString
        commandModule.defaultBlock ∧
    ReadsBack (fun _ configString block =>
      (wewareTcpConfigSet block configString).outcome) wewareTcpConfigGetString
        tcpModule.defaultBlock ∧
    gpsNumbersSet decimalLib true (asciiBytes ("i-on:10,i-off:30,ang:20,dist:50,ang-tr:1," ++
      "dist-tr:1,agps:1,start:0,lv-boot:1,lv-ign-off:0,lv-no-fix:1,time-src:0,agps-ref:0," ++
      "spd-filt:5")) gpsNumbersDefaults = (.success, gpsNumbersDefaults) ∧
    systemNumbersSet decimalLib true (asciiBytes ("is:0,wo:5.0,wf:4.9,sl:12.7,sh:15.0,d:5,ms:0," ++
      "mm:4,sp:5,di:200,ag:0.05,ad:2000,st:5,se:0,de:1,ae:0,sc:0")) systemNumbersDefaults =
        (.success, systemNumbersDefaults) := by
  obtain ⟨hnetwork, hcommand, htcp, hgps, hsystem⟩ := get_then_set exact_decimalLib
  refine ⟨hnetwork _ .first, hcommand _ .first, htcp _ .first ⟨asciiBytes ("ip:13.126.118.139," ++
      "port:9616,conn-to:30000,send-to:5000,retry:10000,loginwithgps:false,live-first:true"), ?_⟩,
    (hgps _ _ .first ?_).mpr ?_, (hsystem _ _ .first ?_).mpr ?_⟩
  · decide +kernel
  · decide +kernel
  · intro i hi
    simp only [gpsFloatIndices, List.mem_cons, List.not_mem_nil, or_false] at hi
    rcases hi with rfl | rfl | rfl
    · exact ⟨20, by decide, rfl⟩
    · exact ⟨50, by decide, rfl⟩
    · exact ⟨5, by decide, rfl⟩
  · decide +kernel
  · intro i hi
    simp only [systemFloatIndices, List.mem_cons, List.not_mem_nil, or_false] at hi
    rcases hi with rfl | rfl | rfl | rfl | rfl | rfl | rfl
    · exact ⟨50, by norm_num [systemDecimals, systemNumbersDefaults]⟩
    · exact ⟨49, by norm_num [systemDecimals, systemNumbersDefaults]⟩
    · exact ⟨127, by norm_num [systemDecimals, systemNumbersDefaults]⟩
    · exact ⟨150, by norm_num [systemDecimals, systemNumbersDefaults]⟩
    · exact ⟨5, by norm_num [systemDecimals, systemNumbersDefaults]⟩
    · exact ⟨200, by norm_num [systemDecimals, systemNumbersDefaults]⟩
    · exact ⟨5, by norm_num [systemDecimals, systemNumbersDefaults]⟩

/-- The defaults with an angle of 20.5 degrees. -/
def fractionalAngle : Numbers :=
  (gpsNumbersSet decimalLib true (asciiBytes "ang:20.5") gpsNumbersDefaults).2

/-- An angle that is not whole is read back as a whole one. -/
theorem fraction_not_read_back :
    decimalLib.Exact ∧
      ReachableConfig (gpsNumbersSet decimalLib) gpsNumbersDefaults fractionalAngle ∧
      ¬ ReadsBack (gpsNumbersSet decimalLib) (gpsNumbersGetString decimalLib) fractionalAngle := by
  have hresult : (gpsNumbersSet decimalLib true (asciiBytes "ang:20.5") gpsNumbersDefaults).1 =
      .success := by decide +kernel
  refine ⟨exact_decimalLib, .set .first (Prod.ext hresult rfl), ?_⟩
  rintro ⟨text, hget, hset⟩
  have hshown : gpsNumbersGetString decimalLib fractionalAngle cmdHandlerMaxResponseLength =
      .ok (asciiBytes ("i-on:10,i-off:30,ang:20,dist:50,ang-tr:1,dist-tr:1,agps:1,start:0," ++
        "lv-boot:1,lv-ign-off:0,lv-no-fix:1,time-src:0,agps-ref:0,spd-filt:5")) := by
    decide +kernel
  obtain rfl := Except.ok.inj (hshown.symm.trans hget)
  have hangle := congrFun (congrArg Prod.snd hset) 2
  revert hangle
  decide +kernel

end WalnutGateway
