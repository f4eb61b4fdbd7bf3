import WalnutGateway.Config.AtomicFloats
import WalnutGateway.Config.GetStrings

/-!
# The configurations with floats, over the rationals

The GPS and the system configuration as the numbers in their fields, by the index that the set
function gives them; a `BOOL` is 0 or 1. The set functions are those of the blocks with rational
numbers for the floats, and the get functions write these with a fixed number of decimals, or cut to
an `int`.
-/

namespace WalnutGateway

/-- What reads a float, and the conversion of one to `int`, over the rationals. -/
structure NumberLib where
  strtof : List Byte → Option (ℚ × List Byte)
  atof : List Byte → ℚ
  toInt : ℚ → ℤ

/-- A printed decimal is read exactly and to its end, and the conversion cuts what fits an `int`. -/
structure NumberLib.Exact (lib : NumberLib) : Prop where
  strtof_fixed : ∀ negative decimals units,
    lib.strtof (fixedBytes negative decimals units) =
      some (fixedValue negative decimals units, [])
  atof_fixed : ∀ negative units,
    lib.atof (fixedBytes negative 0 units) = fixedValue negative 0 units
  toInt_floor : ∀ q, 0 ≤ q → q < 2 ^ 31 → lib.toInt q = ⌊q⌋
  toInt_lt : ∀ q, lib.toInt q < 2 ^ 31

/-- The numbers in the fields of a configuration. -/
abbrev Numbers := Nat → ℚ

/-- `%u` of a `BOOL`. -/
def flagBytes (q : ℚ) : List Byte := decimalBytes (if q = 0 then 0 else 1)

/-! ## GPS -/

/-- `gps_config_get_defaults`. -/
def gpsNumbersDefaults : Numbers
  | 0 => 10
  | 1 => 30
  | 2 => 20
  | 3 => 50
  | 4 | 5 | 6 => 1
  | 8 | 10 => 1
  | 13 => 5
  | _ => 0

/-- The branches of `gps_config_set`. -/
def gpsNumberValue (lib : NumberLib) (index : Nat) (value : List Byte) : Option ℚ :=
  match index with
  | 0 | 1 => if atol value ≤ 0 then none else some (atol value)
  | 2 => if lib.atof value < 0 ∨ lib.atof value > 180 then none else some (lib.atof value)
  | 3 => if lib.atof value < 0 then none else some (lib.atof value)
  | 7 => (parseStartMode value).map fun n : Nat => (n : ℚ)
  | 11 => (gpsConfigParseTimeSource value).map fun n : Nat => (n : ℚ)
  | 13 =>
    match lib.strtof value with
    | some (v, []) => if v < 0 then none else some v
    | _ => none
  | _ => (parseBool value).map fun b : Byte => (b.toNat : ℚ)

/-- The speed is a number to the end of its text that is not negative. -/
theorem gpsNumberValue_speed_iff {lib : NumberLib} {value : List Byte} {q : ℚ} :
    gpsNumberValue lib 13 value = some q ↔ lib.strtof value = some (q, []) ∧ 0 ≤ q := by
  simp only [gpsNumberValue]
  cases lib.strtof value with
  | none => simp
  | some p =>
    obtain ⟨v, rest⟩ := p
    cases rest with
    | nil => grind
    | cons c rest => simp

/-- The switch of `gps_config_set`. -/
def gpsNumbersStage (lib : NumberLib) (index : Nat) (value : List Byte) (temp : Numbers) :
    Option Numbers :=
  if index > 13 then some temp
  else (gpsNumberValue lib index value).map (Function.update temp index)

/-- `gps_config_set`. A temporary that is not provided is the field it came from. -/
def gpsNumbersSet (lib : NumberLib) (alloc : Bool) (configString : List Byte) (config : Numbers) :
    Result × Numbers :=
  match utilsStrdupForTokenization alloc configString with
  | none => (.invalidParam, config)
  | some copy =>
    match stageKeyed sGpsCfgKeys (gpsNumbersStage lib) (strtokTokens (· == comma) copy) false
        config with
    | some (true, temp) => (.success, temp)
    | _ => (.invalidParam, config)

/-- The format of `gps_config_get_string`. -/
def gpsFormat : List (String × Nat) :=
  [("i-on", 0), ("i-off", 1), ("ang", 2), ("dist", 3), ("ang-tr", 4), ("dist-tr", 5), ("agps", 6),
    ("start", 7), ("lv-boot", 8), ("lv-ign-off", 9), ("lv-no-fix", 10), ("time-src", 11),
    ("agps-ref", 12), ("spd-filt", 13)]

/-- What it writes for a field; the start mode goes through `gps_config_start_mode_to_index`. -/
def gpsNumberText (lib : NumberLib) (index : Nat) (q : ℚ) : List Byte :=
  match index with
  | 0 | 1 => intBytes q.num
  | 2 | 3 | 13 => intBytes (lib.toInt q)
  | 7 => decimalBytes (if q = 1 then 1 else if q = 2 then 2 else 0)
  | 11 => decimalBytes q.num.toNat
  | _ => flagBytes q

/-- `gps_config_get_string`. -/
def gpsNumbersGetString (lib : NumberLib) (config : Numbers) (bufferSize : Nat) :
    Except Result (List Byte) :=
  formatInto bufferSize (configText gpsFormat fun i => gpsNumberText lib i (config i))

/-! ## System -/

/-- `system_config_get_defaults`. -/
def systemNumbersDefaults : Numbers
  | 1 => 5
  | 2 => 49 / 10
  | 3 => 127 / 10
  | 4 => 15
  | 5 => 5
  | 7 => 4
  | 8 => 5
  | 9 => 200
  | 10 => 1 / 20
  | 11 => 2000
  | 12 => 5
  | 14 => 1
  | _ => 0

/-- `system_config_validate`. -/
def systemNumbersValidate (config : Numbers) : Bool :=
  ¬ config 2 ≥ config 1 ∧ ¬ config 3 ≥ config 4 ∧ ¬ config 5 = 0 ∧
    ¬ (config 8 < 0 ∨ config 9 < 0 ∨ config 10 < 0) ∧ ¬ (config 11 = 0 ∨ config 12 = 0)

/-- The branches of `system_config_set`. -/
def systemNumberValue (lib : NumberLib) (index : Nat) (value : List Byte) : Option ℚ :=
  match index with
  | 0 => (parseIgnSrc value).map fun n : Nat => (n : ℚ)
  | 1 | 2 | 3 | 4 =>
    match lib.strtof value with
    | some (v, []) => some v
    | _ => none
  | 5 =>
    match strtol value with
    | some (v, []) => if v ≤ 0 ∨ v > 255 then none else some v
    | _ => none
  | 6 => (parseMotSrc value).map fun n : Nat => (n : ℚ)
  | 7 => (parseMotMethod value).map fun n : Nat => (n : ℚ)
  | 8 | 9 | 10 =>
    match lib.strtof value with
    | some (v, []) => if v < 0 then none else some v
    | _ => none
  | 11 | 12 =>
    match strtoul value with
    | some (v, []) => if v = 0 then none else some v
    | _ => none
  | _ => (parseBool value).map fun b : Byte => (b.toNat : ℚ)

section SystemValue

variable {lib : NumberLib} {i : Nat} {value : List Byte} {q : ℚ}

/-- A voltage is a number to the end of its text. -/
theorem systemNumberValue_float_iff (hi : i = 1 ∨ i = 2 ∨ i = 3 ∨ i = 4) :
    systemNumberValue lib i value = some q ↔ lib.strtof value = some (q, []) := by
  rcases hi with rfl | rfl | rfl | rfl
  all_goals
    simp only [systemNumberValue]
    cases lib.strtof value with
    | none => simp
    | some p =>
      obtain ⟨v, rest⟩ := p
      cases rest with
      | nil => simp
      | cons c rest => simp

/-- A threshold is a number to the end of its text that is not negative. -/
theorem systemNumberValue_threshold_iff (hi : i = 8 ∨ i = 9 ∨ i = 10) :
    systemNumberValue lib i value = some q ↔ lib.strtof value = some (q, []) ∧ 0 ≤ q := by
  rcases hi with rfl | rfl | rfl
  all_goals
    simp only [systemNumberValue]
    cases lib.strtof value with
    | none => simp
    | some p =>
      obtain ⟨v, rest⟩ := p
      cases rest with
      | nil => grind
      | cons c rest => simp

/-- The polls of the debouncing are a small positive number to the end of its text. -/
theorem systemNumberValue_count_iff : systemNumberValue lib 5 value = some q ↔
    ∃ v : ℤ, strtol value = some (v, []) ∧ 0 < v ∧ v ≤ 255 ∧ q = v := by
  simp only [systemNumberValue]
  cases strtol value with
  | none => simp
  | some p =>
    obtain ⟨v, rest⟩ := p
    cases rest with
    | nil => grind
    | cons c rest => simp

/-- A duration is a positive number to the end of its text. -/
theorem systemNumberValue_duration_iff (hi : i = 11 ∨ i = 12) :
    systemNumberValue lib i value = some q ↔
      ∃ n, strtoul value = some (n, []) ∧ n ≠ 0 ∧ q = n := by
  rcases hi with rfl | rfl
  all_goals
    simp only [systemNumberValue]
    cases strtoul value with
    | none => simp
    | some p =>
      obtain ⟨n, rest⟩ := p
      cases rest with
      | nil => grind
      | cons c rest => simp

end SystemValue

/-- The switch of `system_config_set`. -/
def systemNumbersStage (lib : NumberLib) (index : Nat) (value : List Byte) (temp : Numbers) :
    Option Numbers :=
  if index > 16 then some temp
  else (systemNumberValue lib index value).map (Function.update temp index)

/-- The loop of `system_config_set`, with `param_index`. -/
def systemNumbersTokens (lib : NumberLib) :
    List (List Byte) → Nat → Numbers → Option (Nat × Numbers)
  | [], paramIndex, temp => some (paramIndex, temp)
  | t :: tokens, paramIndex, temp =>
    let token := utilsTrimWhitespace t
    (systemConfigIndex token paramIndex).bind fun index =>
      (systemNumbersStage lib index (utilsExtractConfigValue token) temp).bind
        (systemNumbersTokens lib tokens (paramIndex + 1))

/-- `system_config_set`. -/
def systemNumbersSet (lib : NumberLib) (alloc : Bool) (configString : List Byte)
    (config : Numbers) : Result × Numbers :=
  if (cString configString).length = 0 then (.invalidParam, config) else
  match utilsStrdupForTokenization alloc configString with
  | none => (.error, config)
  | some copy =>
    match systemNumbersTokens lib (strtokTokens (· == comma) copy) 0 config with
    | none => (.invalidParam, config)
    | some (0, _) => (.success, config)
    | some (_, temp) =>
      if systemNumbersValidate temp then (.success, temp) else (.invalidParam, config)

/-- The format of `system_config_get_string`. -/
def systemFormat : List (String × Nat) :=
  [("is", 0), ("wo", 1), ("wf", 2), ("sl", 3), ("sh", 4), ("d", 5), ("ms", 6), ("mm", 7),
    ("sp", 8), ("di", 9), ("ag", 10), ("ad", 11), ("st", 12), ("se", 13), ("de", 14), ("ae", 15),
    ("sc", 16)]

/-- With how many decimals it writes a float. -/
def systemDecimals (index : Nat) : Nat :=
  match index with
  | 8 | 9 => 0
  | 10 => 2
  | _ => 1

/-- What it writes for a field. -/
def systemNumberText (index : Nat) (q : ℚ) : List Byte :=
  match index with
  | 1 | 2 | 3 | 4 | 8 | 9 | 10 =>
    fixedBytes (q < 0) (systemDecimals index) (fixedUnits (systemDecimals index) q)
  | 0 | 5 | 6 | 7 | 11 | 12 => decimalBytes q.num.toNat
  | _ => flagBytes q

/-- `system_config_get_string`. -/
def systemNumbersGetString (config : Numbers) (bufferSize : Nat) : Except Result (List Byte) :=
  formatInto bufferSize (configText systemFormat fun i => systemNumberText i (config i))

example : systemNumbersGetString systemNumbersDefaults cmdHandlerMaxResponseLength =
    .ok (asciiBytes ("is:0,wo:5.0,wf:4.9,sl:12.7,sh:15.0,d:5,ms:0,mm:4,sp:5,di:200,ag:0.05," ++
      "ad:2000,st:5,se:0,de:1,ae:0,sc:0")) := by
  decide +kernel

end WalnutGateway
