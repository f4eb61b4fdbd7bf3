import WalnutGateway.Config.Setters

/-!
# The set function of the GPS module

`gps_config_set` reads the values into temporaries, each checked by itself, and puts them into the
configuration when all of them are accepted. It does not save the file.
-/

namespace WalnutGateway

/-- The functions of the C library that read floats, as bits. -/
structure FloatLib where
  strtof : Strtof
  /-- `(float)atof`. -/
  atof : List Byte → Nat
  strtof_lt : ∀ {s v rest}, strtof s = some (v, rest) → v < 2 ^ 32
  atof_lt : ∀ s, atof s < 2 ^ 32

/-- `s_gps_cfg_keys`. -/
def sGpsCfgKeys : List (String × Nat) :=
  [("i-on", 0), ("i-off", 1), ("ang", 2), ("dist", 3), ("ang-tr", 4), ("dist-tr", 5), ("agps", 6),
    ("start", 7), ("lv-boot", 8), ("lv-ign-off", 9), ("lv-no-fix", 10), ("time-src", 11),
    ("agps-ref", 12), ("agps_ref", 12), ("spd-filt", 13), ("speed-filter", 13), ("sf", 13)]

/-- The offset and the width of the field for an index of `gps_config_set` in `GpsConfig`. -/
def gpsFieldPlace : Nat → Nat × Nat
  | 0 => (0, 4)
  | 1 => (4, 4)
  | 2 => (8, 4)
  | 3 => (12, 4)
  | 4 => (16, 1)
  | 5 => (17, 1)
  | 6 => (18, 1)
  | 7 => (20, 4)
  | 8 => (24, 1)
  | 9 => (25, 1)
  | 10 => (26, 1)
  | 11 => (28, 4)
  | 12 => (19, 1)
  | _ => (32, 4)

/-- `gps_config_parse_time_source`. -/
def gpsConfigParseTimeSource (s : List Byte) : Option Nat :=
  if strcaseEq s (asciiBytes "AUTO") || s == asciiBytes "0" then some 0
  else if strcaseEq s (asciiBytes "GPS") || s == asciiBytes "1" then some 1
  else if strcaseEq s (asciiBytes "GSM") || s == asciiBytes "2" then some 2
  else none

/-- The start mode by its name or its number. -/
def parseStartMode (s : List Byte) : Option Nat :=
  if strcaseEq s (asciiBytes "HOT") then some 0
  else if strcaseEq s (asciiBytes "WARM") then some 1
  else if strcaseEq s (asciiBytes "COLD") then some 2
  else if atol s = 0 ∨ atol s = 1 ∨ atol s = 2 then some (atol s).toNat
  else none

/-- The bytes that the branches of `gps_config_set` put into the temporary of an index. -/
def gpsConfigValue (lib : FloatLib) (index : Nat) (value : List Byte) : Option (List Byte) :=
  match index with
  | 0 | 1 => if atol value ≤ 0 then none else some (leBytes 4 (atol value).toNat)
  | 2 =>
    let v := lib.atof value
    if floatLt v 0 || floatLt 0x43340000 v then none else some (leBytes 4 v)
  | 3 =>
    let v := lib.atof value
    if floatLt v 0 then none else some (leBytes 4 v)
  | 7 => (parseStartMode value).map (leBytes 4)
  | 11 => (gpsConfigParseTimeSource value).map (leBytes 4)
  | 13 =>
    match lib.strtof value with
    | some (v, []) => if floatLt v 0 then none else some (leBytes 4 v)
    | _ => none
  | _ => (parseBool value).map fun b => [b]

/-- The temporaries of `gps_config_set` and `provided_params`. -/
structure GpsTemp where
  values : Nat → List Byte
  provided : Nat → Bool

/-- The values before the first token. -/
def GpsTemp.ofConfig (config : List Byte) : GpsTemp where
  values i := field config (gpsFieldPlace i).1 (gpsFieldPlace i).2
  provided _ := false

/-- The switch of `gps_config_set`; an index behind the last is ignored. -/
def gpsConfigStage (lib : FloatLib) (index : Nat) (value : List Byte) (temp : GpsTemp) :
    Option GpsTemp :=
  if index > 13 then some temp
  else (gpsConfigValue lib index value).map fun bytes =>
    { values := Function.update temp.values index bytes
      provided := Function.update temp.provided index true }

/-- Assignments to the fields of some indices. -/
def writeFields (place : Nat → Nat × Nat) (values : Nat → List Byte) (config : List Byte)
    (indices : List Nat) : List Byte :=
  indices.foldl (fun config i => setField config (place i).1 (values i)) config

/-- The update at the end of `gps_config_set`; the fields from `agps_ref` on are written if they
were provided. -/
def GpsTemp.update (temp : GpsTemp) (config : List Byte) : List Byte :=
  let config := writeFields gpsFieldPlace temp.values config [0, 1, 2, 3, 4, 5, 6]
  writeFields gpsFieldPlace temp.values config ([12, 7, 8, 9, 10, 11, 13].filter temp.provided)

/-- `gps_config_set`, and whether it clears `gnss_start_mode_set`. -/
def gpsConfigSet (lib : FloatLib) (alloc : Bool) (config configString : List Byte) :
    SetReply × Bool :=
  match utilsStrdupForTokenization alloc configString with
  | none => (⟨.invalidParam, config, false⟩, false)
  | some copy =>
    match stageKeyed sGpsCfgKeys (gpsConfigStage lib) (strtokTokens (· == comma) copy) false
        (.ofConfig config) with
    | some (true, temp) =>
      (⟨.success, temp.update config, false⟩,
        temp.provided 7 && field config 20 4 != temp.values 7)
    | _ => (⟨.invalidParam, config, false⟩, false)

/-! ## Writing fields -/

/-- Fields of a block that lie apart. -/
structure Places {ι : Type} (fields : List ι) (place : ι → Nat × Nat) (size : Nat) : Prop where
  inside : ∀ i ∈ fields, (place i).1 + (place i).2 ≤ size
  apart : ∀ i ∈ fields, ∀ j ∈ fields, i ≠ j →
    (place i).1 + (place i).2 ≤ (place j).1 ∨ (place j).1 + (place j).2 ≤ (place i).1

/-- A field behind the one that is assigned stays. -/
theorem field_setField_of_ge {block bytes : List Byte} {offset offset' width : Nat}
    (h : offset + bytes.length ≤ offset') (hlen : offset + bytes.length ≤ block.length) :
    field (setField block offset bytes) offset' width = field block offset' width := by
  have hfront : (block.take offset ++ bytes).length = offset + bytes.length := by
    rw [List.length_append, List.length_take]
    omega
  rw [field, field, setField, List.drop_append, List.drop_of_length_le (by omega), List.nil_append,
    hfront, List.drop_drop, Nat.add_sub_of_le h]

section Places

variable {ι : Type} {fields : List ι} {place : ι → Nat × Nat} {size : Nat}

/-- The bytes of a field. -/
def fieldAt (place : ι → Nat × Nat) (block : List Byte) (i : ι) : List Byte :=
  field block (place i).1 (place i).2

/-- An assignment to one field. -/
theorem Places.setField (h : Places fields place size) {block bytes : List Byte} {i : ι}
    (hi : i ∈ fields) (hlen : block.length = size) (hbytes : bytes.length = (place i).2) :
    (setField block (place i).1 bytes).length = size ∧
      fieldAt place (setField block (place i).1 bytes) i = bytes ∧
      ∀ j ∈ fields, j ≠ i → fieldAt place (WalnutGateway.setField block (place i).1 bytes) j =
        fieldAt place block j := by
  have hinside := h.inside i hi
  refine ⟨?_, ?_, fun j hj hne => ?_⟩
  · rw [length_setField (by omega), hlen]
  · rw [fieldAt, ← hbytes, field_setField (by omega)]
  · obtain hbefore | hafter := h.apart j hj i hi hne
    · exact field_setField_of_le hbefore (by omega)
    · exact field_setField_of_ge (by omega) (by omega)

/-- Assignments to some fields. -/
theorem Places.writeFields {fields : List Nat} {place : Nat → Nat × Nat}
    (h : Places fields place size) {values : Nat → List Byte} {indices : List Nat}
    (hindices : ∀ i ∈ indices, i ∈ fields ∧ (values i).length = (place i).2) {block : List Byte}
    (hlen : block.length = size) :
    (writeFields place values block indices).length = size ∧
      ∀ j ∈ fields, fieldAt place (WalnutGateway.writeFields place values block indices) j =
        if j ∈ indices then values j else fieldAt place block j := by
  induction indices generalizing block with
  | nil => exact ⟨hlen, fun _ _ => (if_neg List.not_mem_nil).symm⟩
  | cons i indices ih =>
    obtain ⟨hi, hbytes⟩ := hindices i (List.mem_cons_self ..)
    obtain ⟨hlen', hself, hothers⟩ := h.setField hi hlen hbytes
    obtain ⟨hlen'', hrest⟩ := ih (fun k hk => hindices k (List.mem_cons_of_mem _ hk)) hlen'
    refine ⟨hlen'', fun j hj => (hrest j hj).trans ?_⟩
    by_cases hlater : j ∈ indices
    · rw [if_pos hlater, if_pos (List.mem_cons_of_mem _ hlater)]
    · rw [if_neg hlater]
      by_cases heq : j = i
      · rw [heq, hself, if_pos (List.mem_cons_self ..)]
      · rw [hothers j hj heq, if_neg]
        exact fun hmem => (List.mem_cons.mp hmem).elim heq hlater

/-- Assignments to all fields. -/
theorem Places.writeFields_all {fields : List Nat} {place : Nat → Nat × Nat}
    (h : Places fields place size) {values : Nat → List Byte}
    (hwidths : ∀ i ∈ fields, (values i).length = (place i).2) {block : List Byte}
    (hlen : block.length = size) :
    (WalnutGateway.writeFields place values block fields).length = size ∧
      ∀ j ∈ fields, fieldAt place (WalnutGateway.writeFields place values block fields) j =
        values j := by
  obtain ⟨hsize, hfields⟩ := h.writeFields (fun i hi => ⟨hi, hwidths i hi⟩) hlen
  exact ⟨hsize, fun j hj => (hfields j hj).trans (if_pos hj)⟩

end Places

end WalnutGateway
