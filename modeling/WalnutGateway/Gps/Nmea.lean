import WalnutGateway.Common.Text
import WalnutGateway.Gps.Manager

/-!
# NMEA sentences

The GNSS parser task hands complete sentences to `gps_nmea_sentence_cb`, which keeps the latest
RMC and the latest GGA in a slot each. When both slots are filled, they are joined to a record
for the GPS task, and cleared; the GPS task parses the record. Floats are exact rationals.
-/

namespace WalnutGateway

/-- `GPS_URC_SENTENCE_MAX`. -/
def gpsUrcSentenceMax : Nat := 96

/-- `GPS_URC_COMBINED_MAX`. -/
def gpsUrcCombinedMax : Nat := gpsUrcSentenceMax * 2 + 8

/-- The character `\r`. -/
def carriageReturn : Byte := 0x0D

/-- The character `\n`. -/
def newline : Byte := 0x0A

/-- The character `*` before a checksum. -/
def star : Byte := 0x2A

/-- A sentence of the GN or GP talker. -/
def nmeaTalker (line : List Byte) : Bool :=
  line.take 3 = asciiBytes "$GN" ∨ line.take 3 = asciiBytes "$GP"

/-- `nmea_line_is`, which is also the test of the callback. -/
def nmeaLineIs (type3 : String) (line : List Byte) : Bool :=
  nmeaTalker line ∧ (line.drop 3).take 4 = asciiBytes type3 ++ [comma]

/-! ## Pairing -/

/-- `s_nmea_slot_rmc` and `s_nmea_slot_gga`. -/
structure NmeaSlots where
  rmc : List Byte
  gga : List Byte
  deriving DecidableEq

/-- What the callback finds of the queue of the GPS module. -/
structure NmeaQueueEnv where
  /-- The module has its queue. -/
  ready : Bool
  /-- `queue_push` succeeds. -/
  queued : Bool

namespace NmeaSlots

/-- Two empty slots. -/
def empty : NmeaSlots := ⟨[], []⟩

/-- `gps_nmea_trim_eol`. -/
def trimEol (s : List Byte) : List Byte :=
  s.rdropWhile fun c => c == carriageReturn || c == newline

/-- What a slot keeps of a sentence. -/
def keep (sentence : List Byte) : List Byte :=
  trimEol ((cString sentence).take (gpsUrcSentenceMax - 1))

/-- `gps_nmea_push_combined_pair`: the records that get into the queue, and the slots. -/
def pushCombinedPair (env : NmeaQueueEnv) (slots : NmeaSlots) : List (List Byte) × NmeaSlots :=
  if slots.rmc = [] ∨ slots.gga = [] then ([], slots)
  else if ¬ env.ready then ([], slots)
  else
    let combined := slots.rmc ++ newline :: slots.gga
    if gpsUrcCombinedMax ≤ combined.length then ([], empty)
    else (if env.queued then [combined] else [], empty)

/-- `gps_nmea_sentence_cb`. -/
def sentenceCb (env : NmeaQueueEnv) (sentence : List Byte) (slots : NmeaSlots) :
    List (List Byte) × NmeaSlots :=
  if nmeaLineIs "RMC" (cString sentence) then
    let kept := { slots with rmc := keep sentence }
    if kept.gga ≠ [] then kept.pushCombinedPair env else ([], kept)
  else if nmeaLineIs "GGA" (cString sentence) then
    let kept := { slots with gga := keep sentence }
    if kept.rmc ≠ [] then kept.pushCombinedPair env else ([], kept)
  else ([], slots)

end NmeaSlots

/-! ## Fields -/

/-- `nmea_strip_checksum`. -/
def nmeaStripChecksum (line : List Byte) : List Byte := line.takeWhile (· != star)

/-- `nmea_split_fields`: the last field keeps what is left. -/
def nmeaSplitFields : Nat → List Byte → List (List Byte)
  | 0, _ => []
  | 1, payload => [payload]
  | maxtok + 2, payload =>
    if comma ∈ payload then
      payload.takeWhile (· != comma) ::
        nmeaSplitFields (maxtok + 1) ((payload.dropWhile (· != comma)).drop 1)
    else [payload]

/-- The fields of a line behind its type. -/
def nmeaFields (line : List Byte) : List (List Byte) :=
  nmeaSplitFields 16 (((nmeaStripChecksum line).dropWhile (· != comma)).drop 1)

/-- The lines of a record that `gps_ops_parse_gnrmc_gngga_combined` takes for its RMC and its
GGA, with their fields. -/
def nmeaRecordFields (combined : List Byte) : Option (List (List Byte) × List (List Byte)) :=
  let q := combined.map fun c => if c = carriageReturn then newline else c
  if newline ∉ q then none
  else
    let lineA := q.takeWhile (· != newline)
    let lineB := (q.dropWhile (· != newline)).dropWhile (· == newline)
    let rmc := if nmeaLineIs "RMC" lineB then some lineB
      else if nmeaLineIs "RMC" lineA then some lineA else none
    let gga := if ¬ nmeaLineIs "RMC" lineB ∧ nmeaLineIs "GGA" lineB then some lineB
      else if ¬ nmeaLineIs "RMC" lineA ∧ nmeaLineIs "GGA" lineA then some lineA else none
    match rmc, gga with
    | some rmc, some gga =>
      some (nmeaFields (rmc.takeWhile (· != newline)), nmeaFields (gga.takeWhile (· != newline)))
    | _, _ => none

/-! ## Numbers, times and coordinates -/

/-- The first character is one of the two. -/
def startsWithLetter (s : List Byte) (upper lower : Byte) : Bool :=
  s.head? == some upper || s.head? == some lower

/-- The value of some digits. -/
def digitsValue (digits : List Byte) : Nat :=
  digits.foldl (fun n c => 10 * n + (c.toNat - 0x30)) 0

/-- The minus sign, and the text behind a sign. -/
def scanSign (s : List Byte) : Bool × List Byte :=
  if s.head? = some 0x2D then (true, s.drop 1)
  else if s.head? = some 0x2B then (false, s.drop 1)
  else (false, s)

/-- `atof`, for decimal numbers. -/
def atof (s : List Byte) : ℚ :=
  let signed := scanSign (s.dropWhile isspace)
  let whole := signed.2.takeWhile isdigit
  let rest := signed.2.dropWhile isdigit
  let fraction := if rest.head? = some 0x2E then (rest.drop 1).takeWhile isdigit else []
  let behind := if rest.head? = some 0x2E then (rest.drop 1).dropWhile isdigit else rest
  let exponent :=
    if startsWithLetter behind 0x45 0x65 then scanSign (behind.drop 1) else (false, [])
  let power : ℚ := 10 ^ digitsValue (exponent.2.takeWhile isdigit)
  let mantissa : ℚ := digitsValue (whole ++ fraction) / 10 ^ fraction.length
  let magnitude := if exponent.1 then mantissa / power else mantissa * power
  if signed.1 then -magnitude else magnitude

/-- `nmea_parse_dec2`; `none` for -1. -/
def nmeaParseDec2 (s : List Byte) : Option Nat :=
  match s with
  | a :: b :: _ =>
    if isdigit a ∧ isdigit b then some ((a.toNat - 0x30) * 10 + (b.toNat - 0x30)) else none
  | _ => none

/-- `nmea_is_leap`. -/
def nmeaIsLeap (year : Nat) : Bool := (year % 4 = 0 ∧ year % 100 ≠ 0) ∨ year % 400 = 0

/-- `md` of `nmea_days_in_month`. -/
def nmeaMonthDays : List Nat := [31, 28, 31, 30, 31, 30, 31, 31, 30, 31, 30, 31]

/-- `nmea_days_in_month`. -/
def nmeaDaysInMonth (year month : Nat) : Nat :=
  if month < 1 ∨ month > 12 then 0
  else if month = 2 ∧ nmeaIsLeap year then 29
  else nmeaMonthDays.getD (month - 1) 0

/-- The year loop: the days of the first `n` years from 1970. -/
def nmeaDaysOfYears : Nat → Nat
  | 0 => 0
  | n + 1 => nmeaDaysOfYears n + if nmeaIsLeap (1970 + n) then 366 else 365

/-- `month_days_before`. -/
def nmeaMonthDaysBefore : List Nat := [0, 31, 59, 90, 120, 151, 181, 212, 243, 273, 304, 334]

/-- `nmea_rmc_time_date_to_unix` once the two digits of each field are read. -/
def nmeaTupleToUnix (year2 month day hour minute second : Nat) : UInt32 :=
  let year := year2 + if 70 ≤ year2 then 1900 else 2000
  if year < 1970 ∨ month < 1 ∨ month > 12 ∨ day < 1 ∨ day > nmeaDaysInMonth year month then 0
  else
    let days := nmeaDaysOfYears (year - 1970) + nmeaMonthDaysBefore.getD (month - 1) 0 +
      (if month > 2 ∧ nmeaIsLeap year then 1 else 0) + (day - 1)
    let ts := days * 86400 + hour * 3600 + minute * 60 + second
    if ts ≤ uint32Max then UInt32.ofNat ts else 0

/-- `nmea_rmc_time_date_to_unix`. -/
def nmeaRmcTimeDateToUnix (hhmmss ddmmyy : List Byte) : UInt32 :=
  if hhmmss = [] ∨ ddmmyy = [] then 0
  else
    match nmeaParseDec2 ddmmyy, nmeaParseDec2 (ddmmyy.drop 2), nmeaParseDec2 (ddmmyy.drop 4),
      nmeaParseDec2 hhmmss, nmeaParseDec2 (hhmmss.drop 2), nmeaParseDec2 (hhmmss.drop 4) with
    | some day, some month, some year2, some hour, some minute, some second =>
      nmeaTupleToUnix year2 month day hour minute second
    | _, _, _, _, _, _ => 0

/-- `nmea_parse_latlon`. -/
def nmeaParseLatlon (ddmm hemi : List Byte) (isLat : Bool) : Option ℚ :=
  if ddmm = [] ∨ hemi = [] then none
  else
    let v := atof ddmm
    if v < 0 then none
    else
      let ideg := (v / 100).floor
      let minutes := v - ideg * 100
      if minutes < 0 ∨ 60 ≤ minutes then none
      else
        let positive := if isLat then startsWithLetter hemi 0x4E 0x6E
          else startsWithLetter hemi 0x45 0x65
        let negative := if isLat then startsWithLetter hemi 0x53 0x73
          else startsWithLetter hemi 0x57 0x77
        if (if isLat then 90 else 180) < ideg then none
        else if ¬ positive ∧ ¬ negative then none
        else
          let deg := ideg + minutes / 60
          some (if negative then -deg else deg)

/-- `nmea_coords_from_sentence`. -/
def nmeaCoordsFromSentence (active : Bool) (latDdmm latHemi lonDdmm lonHemi : List Byte) :
    Option (ℚ × ℚ) :=
  if ¬ active then none
  else
    match nmeaParseLatlon latDdmm latHemi true, nmeaParseLatlon lonDdmm lonHemi false with
    | some lat, some lon => if gpsValidateCoordinates lat lon then some (lat, lon) else none
    | _, _ => none

/-- `GPS_NMEA_RMC_GGA_MAX_DIST_M`. -/
def gpsNmeaRmcGgaMaxDistM : ℚ := 200

/-- `nmea_resolve_latlon`, with `utils_calculate_gps_distance` left open. -/
def nmeaResolveLatlon (distance : ℚ → ℚ → ℚ → ℚ → ℚ) (rmc gga : Option (ℚ × ℚ)) :
    Option (ℚ × ℚ) :=
  match rmc, gga with
  | some r, some g => if gpsNmeaRmcGgaMaxDistM < distance r.1 r.2 g.1 g.2 then none else some g
  | none, some g => some g
  | some r, none => some r
  | none, none => none

/-- `nmea_parse_gga_msl_altitude`. -/
def nmeaParseGgaMslAltitude (g : List (List Byte)) : Option ℚ :=
  let unit := g.getD 9 []
  if g.length < 9 ∨ g.getD 8 [] = [] then none
  else if unit ≠ [] ∧ ¬ startsWithLetter unit 0x4D 0x6D then none
  else
    let m := atof (g.getD 8 [])
    if m < -450 ∨ 10000 < m then none else some m

/-- `gps_ops_parse_gnrmc_gngga_combined` once the lines are split. -/
def nmeaParseFields (distance : ℚ → ℚ → ℚ → ℚ → ℚ) (r g : List (List Byte)) :
    Option GpsPacket :=
  if r.length < 9 ∨ g.length < 9 then none
  else
    let rmcOk := (r.getD 1 []).head? == some 0x41
    let qual := atol (g.getD 5 [])
    let fixIndicated := rmcOk || decide (0 < qual)
    let resolved := nmeaResolveLatlon distance
      (nmeaCoordsFromSentence rmcOk (r.getD 2 []) (r.getD 3 []) (r.getD 4 []) (r.getD 5 []))
      (nmeaCoordsFromSentence (0 < qual) (g.getD 1 []) (g.getD 2 []) (g.getD 3 []) (g.getD 4 []))
    if resolved = none ∧ fixIndicated then none
    else
      let cog := atof (r.getD 7 [])
      let hdop := atof (g.getD 7 [])
      some {
        fixValidReal := fixIndicated
        fixValidCalculated := false
        latitudeDeg := (resolved.getD (0, 0)).1
        longitudeDeg := (resolved.getD (0, 0)).2
        altitudeM := (nmeaParseGgaMslAltitude g).getD 0
        speedKnots := if r.getD 6 [] ≠ [] then atof (r.getD 6 []) else 0
        courseDeg := if r.getD 7 [] ≠ [] ∧ 0 ≤ cog ∧ cog ≤ 360 then cog else 0
        satsInUse := if g.getD 6 [] ≠ [] then UInt8.ofInt (atol (g.getD 6 [])) else 0
        hdopX100 := if g.getD 7 [] ≠ [] ∧ 0 < hdop ∧ hdop < 100 then
          UInt16.ofNat (hdop * 100).floor.toNat else 0
        utcTime := nmeaRmcTimeDateToUnix (r.getD 0 []) (r.getD 8 []) }

/-- `gps_ops_parse_gnrmc_gngga_combined`. -/
def gpsOpsParseGnrmcGnggaCombined (distance : ℚ → ℚ → ℚ → ℚ → ℚ) (combined : List Byte) :
    Option GpsPacket :=
  (nmeaRecordFields combined).bind fun fields => nmeaParseFields distance fields.1 fields.2

end WalnutGateway
