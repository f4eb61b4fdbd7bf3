import WalnutGateway.Core.BigEndian
import WalnutGateway.Gps.Nmea
import Mathlib.Tactic.Linarith
import Mathlib.Tactic.NormNum

/-!
# What a packet says of its sample

`gps_ops_build_position_packet` for the current sample, read back field by field. The position,
the course, the dilution and the time of every sample that the parser accepts fit their fields;
the altitude does below 3276.8 m and the speed below 256 km/h. A sample without coordinates
reports no satellites.
-/

namespace WalnutGateway

/-! ## Fixed point -/

theorem abs_truncToInt_sub_lt (x : ℚ) : |(truncToInt x : ℚ) - x| < 1 := by
  rw [abs_lt]
  unfold truncToInt
  split
  · constructor <;> linarith [Int.floor_le x, Int.lt_floor_add_one x]
  · constructor <;> linarith [Int.le_ceil x, Int.ceil_lt_add_one x]

theorem le_truncToInt {x : ℚ} {k : Int} (h : (k : ℚ) ≤ x) : k ≤ truncToInt x := by
  unfold truncToInt
  split
  · exact Int.le_floor.mpr h
  · exact_mod_cast h.trans (Int.le_ceil x)

theorem truncToInt_lt {x : ℚ} {k : Int} (hk : 0 < k) (h : x < k) : truncToInt x < k := by
  unfold truncToInt
  split
  · exact Int.floor_lt.mpr h
  · rename_i hneg
    have hceil : ⌈x⌉ ≤ 0 := Int.ceil_le.mpr (by exact_mod_cast (not_le.mp hneg).le)
    omega

theorem truncToInt_of_nonneg {x : ℚ} (h : 0 ≤ x) : truncToInt x = ⌊x⌋ := if_pos h

/-- A fraction that was cut is less than one unit of its scale off. -/
theorem abs_truncToInt_div_sub_lt {scale : ℚ} (hscale : 0 < scale) (x : ℚ) :
    |(truncToInt (x * scale) : ℚ) / scale - x| < 1 / scale := by
  have hcut := abs_truncToInt_sub_lt (x * scale)
  have hsame : (truncToInt (x * scale) : ℚ) / scale - x =
      ((truncToInt (x * scale) : ℚ) - x * scale) / scale := by
    rw [sub_div, mul_div_cancel_right₀ x hscale.ne']
  rw [hsame, abs_div, abs_of_pos hscale]
  exact div_lt_div_of_pos_right hcut hscale

/-- A signed field holds what fits it. -/
theorem beInt_truncToInt {width : Nat} {x : ℚ} (bound : Int) (hbound : 0 < bound)
    (hwidth : 2 * bound ≤ 256 ^ width) (hlow : (-bound : Int) ≤ x) (hhigh : x < bound) :
    beInt (beBytes width (truncToInt x)) = truncToInt x := by
  have hle := le_truncToInt hlow
  have hlt := truncToInt_lt hbound hhigh
  exact beInt_beBytes (by omega) (by omega)

/-- An unsigned field holds what fits it. -/
theorem beNat_truncToInt {width : Nat} {x : ℚ} (bound : Nat) (hbound : 0 < bound)
    (hwidth : bound ≤ 256 ^ width) (hlow : 0 ≤ x) (hhigh : x < bound) :
    (beNat (beBytes width (truncToInt x)) : Int) = truncToInt x := by
  have hle : (0 : Int) ≤ truncToInt x := le_truncToInt (by exact_mod_cast hlow)
  have hlt : truncToInt x < (bound : Int) :=
    truncToInt_lt (by exact_mod_cast hbound) (by exact_mod_cast hhigh)
  rw [beNat_beBytes, Int.emod_eq_of_lt hle]
  have hcast : (bound : Int) ≤ 256 ^ width := by exact_mod_cast hwidth
  omega

/-! ## What the parser accepts -/

/-- The ranges that `gps_ops_parse_gnrmc_gngga_combined` keeps to. -/
structure GpsPacket.Parsed (p : GpsPacket) : Prop where
  coordinates : (p.latitudeDeg = 0 ∧ p.longitudeDeg = 0) ∨
    gpsValidateCoordinates p.latitudeDeg p.longitudeDeg = true
  course : 0 ≤ p.courseDeg ∧ p.courseDeg ≤ 360
  altitude : -450 ≤ p.altitudeM ∧ p.altitudeM ≤ 10000
  hdop : p.hdopX100.toNat < 10000

theorem nmeaCoordsFromSentence_valid {active : Bool} {latDdmm latHemi lonDdmm lonHemi : List Byte}
    {c : ℚ × ℚ} (h : nmeaCoordsFromSentence active latDdmm latHemi lonDdmm lonHemi = some c) :
    gpsValidateCoordinates c.1 c.2 = true := by
  unfold nmeaCoordsFromSentence at h
  split at h
  · cases h
  · split at h
    · split at h
      · cases h
        assumption
      · cases h
    · cases h

/-- The coordinates of a record are those of one of its sentences. -/
theorem nmeaResolveLatlon_eq {distance : ℚ → ℚ → ℚ → ℚ → ℚ} {rmc gga : Option (ℚ × ℚ)} {c : ℚ × ℚ}
    (h : nmeaResolveLatlon distance rmc gga = some c) : rmc = some c ∨ gga = some c := by
  unfold nmeaResolveLatlon at h
  split at h
  · split at h
    · cases h
    · exact Or.inr h
  · exact Or.inr h
  · exact Or.inl h
  · cases h

theorem nmeaParseGgaMslAltitude_range {g : List (List Byte)} {m : ℚ}
    (h : nmeaParseGgaMslAltitude g = some m) : -450 ≤ m ∧ m ≤ 10000 := by
  unfold nmeaParseGgaMslAltitude at h
  dsimp only at h
  split at h
  · cases h
  · split at h
    · cases h
    · split at h
      · cases h
      · rename_i hrange
        cases h
        rw [not_or, not_lt, not_lt] at hrange
        exact hrange

theorem nmeaParseFields_parsed {distance : ℚ → ℚ → ℚ → ℚ → ℚ} {r g : List (List Byte)}
    {p : GpsPacket} (h : nmeaParseFields distance r g = some p) : p.Parsed := by
  unfold nmeaParseFields at h
  split at h
  · cases h
  · dsimp only at h
    split at h
    · cases h
    · cases h
      constructor
      · dsimp only
        cases hresolved : nmeaResolveLatlon distance _ _ with
        | none => exact Or.inl ⟨rfl, rfl⟩
        | some c =>
          right
          rcases nmeaResolveLatlon_eq hresolved with hc | hc <;>
            exact nmeaCoordsFromSentence_valid hc
      · dsimp only
        split
        · rename_i hcog
          exact hcog.2
        · norm_num
      · dsimp only
        cases haltitude : nmeaParseGgaMslAltitude g with
        | none => norm_num
        | some m => exact nmeaParseGgaMslAltitude_range haltitude
      · dsimp only
        split
        · rename_i hhdop
          have hsmall : atof (g.getD 7 []) * 100 < (10000 : Int) := by
            push_cast
            linarith [hhdop.2.2]
          have hfloor : (atof (g.getD 7 []) * 100).floor < 10000 := Int.floor_lt.mpr hsmall
          rw [UInt16.toNat_ofNat']
          omega
        · decide

/-! ## The packet -/

/-- The bytes of a packet from an offset. -/
def packetField (packet : List Byte) (offset width : Nat) : List Byte :=
  (packet.drop offset).take width

/-- The speed of a sample in km/h. -/
def GpsPacket.speedKmh (p : GpsPacket) : ℚ := p.speedKnots * gpsKmhToKnots

/-- The packet reports the sample in its fields. -/
structure Reports (packet : List Byte) (p : GpsPacket) : Prop where
  length : packet.length = gpsPacketTotalSize
  utcTime : beNat (packetField packet 6 4) = p.utcTime.toNat
  latitude : |(beInt (packetField packet 10 4) : ℚ) / gpsLatLonFixedScale - p.latitudeDeg| <
    1 / gpsLatLonFixedScale
  longitude : |(beInt (packetField packet 14 4) : ℚ) / gpsLatLonFixedScale - p.longitudeDeg| <
    1 / gpsLatLonFixedScale
  speed : 0 < p.speedKnots → p.speedKmh < 256 →
    (beNat (packetField packet 18 1) : ℚ) ≤ p.speedKmh ∧
      p.speedKmh < beNat (packetField packet 18 1) + 1
  course : |(beNat (packetField packet 19 2) : ℚ) / 100 - p.courseDeg| < 1 / 100
  altitude : p.altitudeM < 32768 / 10 →
    |(beInt (packetField packet 21 2) : ℚ) / 10 - p.altitudeM| < 1 / 10
  noSatellites : p.latitudeDeg = 0 ∧ p.longitudeDeg = 0 → beNat (packetField packet 23 1) = 0
  fewSatellites : ¬ (p.latitudeDeg = 0 ∧ p.longitudeDeg = 0) →
    p.satsInUse < gpsLastValidMinSats →
    beNat (packetField packet 23 1) = gpsLastValidMinSats.toNat
  hdop : beNat (packetField packet 24 1) = p.hdopX100.toNat / 100
  check : packetField packet 52 1 = [(packetField packet 3 49).foldl (· ^^^ ·) 0]

/-- A field is the next word of the packet, and the rest stands behind it. -/
theorem packetField_next {packet word rest : List Byte} {offset width : Nat}
    (h : packet.drop offset = word ++ rest) (hwidth : word.length = width) :
    packetField packet offset width = word ∧ packet.drop (offset + width) = rest := by
  subst hwidth
  rw [packetField, ← List.drop_drop, h, List.take_left, List.drop_left]
  exact ⟨rfl, rfl⟩

/-- The fields of a packet, before they are read. -/
theorem gpsPacketCreate_fields (env : GpsPacketEnv) (p : GpsPacket) :
    ∃ packet, gpsPacketCreate moduleMessageInlineSize env p = some packet ∧
      packet.length = gpsPacketTotalSize ∧
      packetField packet 6 4 = beBytes 4 p.utcTime.toNat ∧
      packetField packet 10 4 = beBytes 4 (truncToInt (p.latitudeDeg * gpsLatLonFixedScale)) ∧
      packetField packet 14 4 = beBytes 4 (truncToInt (p.longitudeDeg * gpsLatLonFixedScale)) ∧
      packetField packet 18 1 = [intByte (truncToInt p.speedKmh)] ∧
      packetField packet 19 2 = writeFixedPointBe p.courseDeg 100 2 ∧
      packetField packet 21 2 = writeFixedPointBe p.altitudeM 10 2 ∧
      packetField packet 23 1 =
        [if p.latitudeDeg ≠ 0 ∨ p.longitudeDeg ≠ 0 then p.satsInUse else 0] ∧
      packetField packet 24 1 = [intByte (p.hdopX100.toNat / 100)] ∧
      packetField packet 52 1 = [(packetField packet 3 49).foldl (· ^^^ ·) 0] := by
  have hcreate : gpsPacketCreate moduleMessageInlineSize env p =
      some ([0x57, 0x45, 0x49] ++ gpsPacketBody env p ++
        [(gpsPacketBody env p).foldl (· ^^^ ·) 0] ++ [0x77, 0x65]) := if_neg (by decide)
  generalize hcheck : (gpsPacketBody env p).foldl (· ^^^ ·) 0 = check at hcreate
  refine ⟨_, hcreate, ?_⟩
  generalize hpacket : [0x57, 0x45, 0x49] ++ gpsPacketBody env p ++ [check] ++ [0x77, 0x65] = packet
  have hbody : packet.drop 3 = gpsPacketBody env p ++ ([check] ++ [0x77, 0x65]) := by
    rw [← hpacket, List.append_assoc, List.append_assoc]
    exact List.drop_left' rfl
  have hcovered := packetField_next hbody (length_gpsPacketBody env p)
  have hfields := hbody
  unfold gpsPacketBody at hfields
  simp only [List.append_assoc] at hfields
  have hstatus : packetField packet 3 3 = _ ∧ _ := packetField_next hfields rfl
  have hutc : packetField packet 6 4 = _ ∧ _ := packetField_next hstatus.2 (length_beBytes 4 _)
  have hlat : packetField packet 10 4 = _ ∧ _ := packetField_next hutc.2 (length_beBytes 4 _)
  have hlon : packetField packet 14 4 = _ ∧ _ := packetField_next hlat.2 (length_beBytes 4 _)
  have hspeed : packetField packet 18 1 = _ ∧ _ := packetField_next hlon.2 rfl
  have hcourse : packetField packet 19 2 = _ ∧ _ :=
    packetField_next hspeed.2 (length_beBytes 2 _)
  have haltitude : packetField packet 21 2 = _ ∧ _ :=
    packetField_next hcourse.2 (length_beBytes 2 _)
  have hsats : packetField packet 23 1 = [_] ∧ _ := packetField_next haltitude.2 rfl
  have hhdop : packetField packet 24 1 = [_] ∧ _ := packetField_next hsats.2 rfl
  refine ⟨?_, hutc.1, hlat.1, hlon.1, hspeed.1, hcourse.1, haltitude.1, hsats.1, hhdop.1, ?_⟩
  · rw [← hpacket]
    simp only [List.length_append, length_gpsPacketBody]
    rfl
  · rw [hcovered.1, hcheck]
    exact (packetField_next hcovered.2 rfl).1

theorem beNat_singleton (b : Byte) : beNat [b] = b.toNat := by
  simp [beNat]

/-- Coordinates that the parser gives are in range. -/
theorem GpsPacket.Parsed.coordinates_range {p : GpsPacket} (h : p.Parsed) :
    (-90 ≤ p.latitudeDeg ∧ p.latitudeDeg ≤ 90) ∧ -180 ≤ p.longitudeDeg ∧ p.longitudeDeg ≤ 180 := by
  rcases h.coordinates with ⟨hlat, hlon⟩ | hvalid
  · rw [hlat, hlon]
    norm_num
  · unfold gpsValidateCoordinates at hvalid
    split at hvalid
    · cases hvalid
    · rename_i hrange
      simp only [not_or, not_lt] at hrange
      exact ⟨⟨hrange.1, hrange.2.1⟩, hrange.2.2⟩

/-- What a packet for the current sample is made of, whatever else the module holds. -/
theorem sentRecord_current (env : GpsEnv) (g : Gps) :
    ∃ speed, (g.preparePosition env .current).sentRecord .current =
        { g.currentGpsData with
          satsInUse :=
            if g.currentGpsData.satsInUse < gpsLastValidMinSats ∧
              g.currentGpsData.fixValidCalculated then gpsLastValidMinSats
            else g.lastValidGpsData.satsInUse
          speedKnots := speed } ∧
      (0 < g.currentGpsData.speedKnots → speed = g.currentGpsData.speedKnots) := by
  obtain ⟨speed, hspeed, hkept⟩ := Gps.backfillSpeedFromMotion_frame env
    { g with currentGpsData := { g.currentGpsData with
      satsInUse :=
        if g.currentGpsData.satsInUse < gpsLastValidMinSats ∧ g.currentGpsData.fixValidCalculated
        then gpsLastValidMinSats else g.lastValidGpsData.satsInUse } }
  exact ⟨speed, congrArg Gps.currentGpsData hspeed, hkept⟩

/-- Coordinates that count are not both zero. -/
theorem validateCoordinates_of_parsed {p : GpsPacket} (h : p.Parsed)
    (hne : ¬ (p.latitudeDeg = 0 ∧ p.longitudeDeg = 0)) :
    gpsValidateCoordinates p.latitudeDeg p.longitudeDeg = true :=
  h.coordinates.resolve_left hne

section Fields

variable {packet : List Byte}

theorem Reports.speed_of_field {speed : ℚ} (hpos : 0 < speed)
    (hsmall : speed < 256) (h : packetField packet 18 1 = [intByte (truncToInt speed)]) :
    (beNat (packetField packet 18 1) : ℚ) ≤ speed ∧
      speed < beNat (packetField packet 18 1) + 1 := by
  have hlow : (0 : Int) ≤ ⌊speed⌋ := Int.floor_nonneg.mpr hpos.le
  have hhigh : ⌊speed⌋ < 256 := Int.floor_lt.mpr (by exact_mod_cast hsmall)
  have hbyte := toNat_intByte (truncToInt speed)
  rw [truncToInt_of_nonneg hpos.le, Int.emod_eq_of_lt hlow hhigh] at hbyte
  have hvalue : ((beNat (packetField packet 18 1) : Int) : ℚ) = (⌊speed⌋ : Int) := by
    rw [h, beNat_singleton, truncToInt_of_nonneg hpos.le, hbyte]
  rw [Int.cast_natCast] at hvalue
  rw [hvalue]
  exact ⟨Int.floor_le speed, Int.lt_floor_add_one speed⟩

theorem Reports.coordinate_of_field {offset : Nat} {deg : ℚ} (hlow : -180 ≤ deg) (hhigh : deg ≤ 180)
    (h : packetField packet offset 4 = beBytes 4 (truncToInt (deg * gpsLatLonFixedScale))) :
    |(beInt (packetField packet offset 4) : ℚ) / gpsLatLonFixedScale - deg| <
      1 / gpsLatLonFixedScale := by
  have hread : beInt (packetField packet offset 4) = truncToInt (deg * gpsLatLonFixedScale) := by
    rw [h]
    refine beInt_truncToInt 324000001 (by norm_num) (by norm_num) ?_ ?_ <;>
      unfold gpsLatLonFixedScale <;> push_cast <;> linarith
  rw [hread]
  exact abs_truncToInt_div_sub_lt (by unfold gpsLatLonFixedScale; norm_num) deg

theorem Reports.course_of_field {course : ℚ} (hlow : 0 ≤ course) (hhigh : course ≤ 360)
    (h : packetField packet 19 2 = writeFixedPointBe course 100 2) :
    |(beNat (packetField packet 19 2) : ℚ) / 100 - course| < 1 / 100 := by
  have hread : (beNat (packetField packet 19 2) : Int) = truncToInt (course * 100) := by
    rw [h]
    refine beNat_truncToInt 36001 (by norm_num) (by norm_num) ?_ ?_ <;> push_cast <;> linarith
  have hcast : (beNat (packetField packet 19 2) : ℚ) = truncToInt (course * 100) := by
    exact_mod_cast hread
  rw [hcast]
  exact abs_truncToInt_div_sub_lt (by norm_num) course

theorem Reports.altitude_of_field {altitude : ℚ} (hlow : -450 ≤ altitude)
    (hhigh : altitude < 32768 / 10)
    (h : packetField packet 21 2 = writeFixedPointBe altitude 10 2) :
    |(beInt (packetField packet 21 2) : ℚ) / 10 - altitude| < 1 / 10 := by
  have hread : beInt (packetField packet 21 2) = truncToInt (altitude * 10) := by
    rw [h]
    refine beInt_truncToInt 32768 (by norm_num) (by norm_num) ?_ ?_ <;> push_cast <;> linarith
  rw [hread]
  exact abs_truncToInt_div_sub_lt (by norm_num) altitude

end Fields

/-- The packet for a sample that was parsed, after any time source was applied, reports that
sample, whatever the last valid record and the rest of the module hold. -/
theorem current_packet_reports {distance : ℚ → ℚ → ℚ → ℚ → ℚ} {combined : List Byte}
    {sample : GpsPacket} (h : gpsOpsParseGnrmcGnggaCombined distance combined = some sample)
    (utc : UInt32) (env : GpsEnv) {g : Gps}
    (hcurrent : g.currentGpsData = gpsOpsUpdateFixValidCalculated { sample with utcTime := utc }) :
    ∃ packet, (g.buildPositionPacket env .current).1 = some packet ∧
      Reports packet { sample with utcTime := utc } := by
  obtain ⟨fields, -, hfields⟩ := Option.bind_eq_some_iff.mp h
  have hparsed := nmeaParseFields_parsed hfields
  obtain ⟨⟨hsouth, hnorth⟩, hwest, heast⟩ := hparsed.coordinates_range
  obtain ⟨speed, hrecord, hspeed⟩ := sentRecord_current env g
  obtain ⟨packet, hpacket, hlength, hutc, hlat, hlon, hkmh, hcourse, haltitude, hsats, hhdop,
    hcheck⟩ := gpsPacketCreate_fields { env.packet with
      ignStatus := (g.preparePosition env .current).ignStatus
      chargeStatus := (g.preparePosition env .current).chargeStatus
      simStatus := env.sim
      motStatus := (g.preparePosition env .current).motStatus
      packetCounter := (g.preparePosition env .current).packetCounter + 1 }
    ((g.preparePosition env .current).sentRecord .current)
  refine ⟨packet, hpacket, ?_⟩
  rw [hrecord, hcurrent] at hutc hlat hlon hkmh hcourse haltitude hsats hhdop
  rw [hcurrent] at hspeed
  have hcount : packetField packet 23 1 = [if sample.latitudeDeg ≠ 0 ∨ sample.longitudeDeg ≠ 0 then
      (if sample.satsInUse < gpsLastValidMinSats ∧
        gpsValidateCoordinates sample.latitudeDeg sample.longitudeDeg = true
      then gpsLastValidMinSats else g.lastValidGpsData.satsInUse) else 0] := hsats
  have hdilution : packetField packet 24 1 = [intByte (sample.hdopX100.toNat / 100)] := hhdop
  have hutcLt : utc.toNat < 256 ^ 4 := utc.toNat_lt
  exact {
    length := hlength
    utcTime := by
      rw [hutc]
      exact beNat_beBytes_of_lt hutcLt
    latitude := Reports.coordinate_of_field (by linarith) (by linarith) hlat
    longitude := Reports.coordinate_of_field hwest heast hlon
    speed := by
      intro hpos hsmall
      have hkept : speed = sample.speedKnots := hspeed hpos
      rw [GpsPacket.speedKmh, hkept] at hkmh
      refine Reports.speed_of_field (mul_pos hpos ?_) hsmall hkmh
      unfold gpsKmhToKnots
      norm_num
    course := Reports.course_of_field hparsed.course.1 hparsed.course.2 hcourse
    altitude := fun hsmall => Reports.altitude_of_field hparsed.altitude.1 hsmall haltitude
    noSatellites := by
      rintro ⟨hlat0, hlon0⟩
      rw [hcount, beNat_singleton, if_neg (not_or.mpr ⟨not_not.mpr hlat0, not_not.mpr hlon0⟩)]
      rfl
    fewSatellites := by
      intro hne hfew
      have hvalid := validateCoordinates_of_parsed hparsed hne
      rw [hcount, beNat_singleton, if_pos (not_and_or.mp hne), if_pos ⟨hfew, hvalid⟩]
    hdop := by
      have hbyte := toNat_intByte ((sample.hdopX100.toNat : Int) / 100)
      have hlt := hparsed.hdop
      rw [hdilution, beNat_singleton]
      dsimp only
      omega
    check := hcheck }

/-! ## Two records -/

/-- A receiver without a fix. -/
def searchingRecord : List Byte :=
  asciiBytes "$GNRMC,120000.00,V,,,,,,,010125,,,N*53" ++ newline ::
    asciiBytes "$GNGGA,120000.00,,,,,0,00,99.99,,,,,,*70"

/-- A fast aircraft. -/
def aloftRecord : List Byte :=
  asciiBytes "$GNRMC,120000.00,A,3412.5,N,07712.34,E,140.0,0.0,010125,,,A*7C" ++ newline ::
    asciiBytes "$GNGGA,120000.00,3412.5,N,07712.34,E,1,09,1.2,5359.0,M,,M,,*55"

/-- The parser on a record whose two positions agree. -/
def recordSample (record : List Byte) : Option GpsPacket :=
  gpsOpsParseGnrmcGnggaCombined (fun _ _ _ _ => 0) record

/-- A module that holds this sample and no last valid record. -/
def holding (sample : GpsPacket) : Gps :=
  { Gps.zeroed gpsConfigGetDefaults with currentGpsData := gpsOpsUpdateFixValidCalculated sample }

/-- Nothing happens around the module. -/
def stillEnv : GpsEnv where
  distance := fun _ _ _ _ => 0
  sim := true
  parsed := none
  rtcUtc := none
  uptime := 5
  sendQueue := none
  packet := ⟨0, 0, 0, 0, 0, 0, 0, false, false, false, false, 0⟩

/-- The record of the receiver without a fix is reported. -/
theorem current_packet_reports_searching :
    ∃ sample packet, recordSample searchingRecord = some sample ∧
      ((holding sample).buildPositionPacket stillEnv .current).1 = some packet ∧
      Reports packet sample := by
  have hsome : (recordSample searchingRecord).isSome = true := by decide +kernel
  obtain ⟨sample, hsample⟩ := Option.isSome_iff_exists.mp hsome
  obtain ⟨packet, hpacket⟩ := current_packet_reports hsample sample.utcTime stillEnv
    (g := holding sample) rfl
  exact ⟨sample, packet, hsample, hpacket⟩

/-- The speed, the altitude and the satellites of the packet for a record, beside the satellites
of its sample. -/
def reported (record : List Byte) : Option (Nat × Int × Nat × Nat) :=
  (recordSample record).bind fun sample =>
    ((holding sample).buildPositionPacket stillEnv .current).1.map fun packet =>
      (beNat (packetField packet 18 1), beInt (packetField packet 21 2),
        beNat (packetField packet 23 1), sample.satsInUse.toNat)

/-- Without a fix no satellites are reported, not the least number for a position. In the other
record the speed of 259 km/h and the altitude of 5359 m wrap, and its nine satellites are those of
the last valid record. -/
theorem current_packet_without_fix :
    (¬ ∀ (distance : ℚ → ℚ → ℚ → ℚ → ℚ) (combined : List Byte) (sample : GpsPacket) (env : GpsEnv)
      (g : Gps) (packet : List Byte),
      gpsOpsParseGnrmcGnggaCombined distance combined = some sample →
      g.currentGpsData = gpsOpsUpdateFixValidCalculated sample →
      (g.buildPositionPacket env .current).1 = some packet →
      beNat (packetField packet 23 1) = max sample.satsInUse.toNat gpsLastValidMinSats.toNat) ∧
    reported aloftRecord = some (3, -11946, 0, 9) := by
  constructor
  · intro hall
    have hreported : reported searchingRecord = some (0, 0, 0, 0) := by decide +kernel
    obtain ⟨sample, hsample, hbuilt⟩ := Option.bind_eq_some_iff.mp hreported
    obtain ⟨packet, hpacket, hvalues⟩ := Option.map_eq_some_iff.mp hbuilt
    simp only [Prod.mk.injEq] at hvalues
    have hcount :=
      hall _ searchingRecord sample stillEnv (holding sample) packet hsample rfl hpacket
    rw [hvalues.2.2.1, hvalues.2.2.2] at hcount
    exact absurd hcount (by decide)
  · decide +kernel

end WalnutGateway
