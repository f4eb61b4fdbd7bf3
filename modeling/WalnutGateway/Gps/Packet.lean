import WalnutGateway.Common.Types
import Mathlib.Data.Rat.Floor

/-!
# The GPS position packet

`gps_packet_create` builds 55 bytes: the frame marker, type 0x49, 49 bytes from
the length field to the reserved bytes, their exclusive or, and the end marker.
Positions and speeds are exact rationals here; the conversion to fixed point
cuts towards zero as in C.
-/

namespace WalnutGateway

/-- `GpsPacket`. -/
structure GpsPacket where
  fixValidReal : Bool
  fixValidCalculated : Bool
  latitudeDeg : ℚ
  longitudeDeg : ℚ
  altitudeM : ℚ
  speedKnots : ℚ
  courseDeg : ℚ
  satsInUse : UInt8
  hdopX100 : UInt16
  utcTime : UInt32

/-- What a packet reports besides the sample: the states and latches of other
modules and the packet counter. -/
structure GpsPacketEnv where
  networkState : Byte
  tcpState : Byte
  /-- Signal strength, MCC, MNC, LAC and cell, zero when the snapshot is not valid. -/
  signalStrength : Int
  mcc : Int
  mnc : Int
  lac : Int
  cellId : Int
  ignStatus : Bool
  chargeStatus : Bool
  simStatus : Bool
  motStatus : Bool
  packetCounter : UInt32

/-- `GPS_PACKET_TOTAL_SIZE`. -/
def gpsPacketTotalSize : Nat := 55

/-- `GPS_LAT_LON_FIXED_SCALE`. -/
def gpsLatLonFixedScale : ℚ := 1800000

/-- `GPS_KMH_TO_KNOTS`. -/
def gpsKmhToKnots : ℚ := 1852 / 1000

/-- `GPS_PH_INPUT_WIRE_MV` and `GPS_PH_EXTERNAL_MV`. -/
def gpsPhMillivolts : Int := 12000

/-- `GPS_PH_BATTERY_PCT`. -/
def gpsPhBatteryPct : Int := 100

/-- Conversion of a float to an integer: towards zero. -/
def truncToInt (x : ℚ) : Int := if 0 ≤ x then ⌊x⌋ else ⌈x⌉

/-- `write_fixed_point_be`. -/
def writeFixedPointBe (value : ℚ) (scale : Nat) (bytes : Nat) : List Byte :=
  beBytes bytes (truncToInt (value * scale))

/-- `GPS_GW_STATUS2_ON` or `GPS_GW_STATUS2_OFF`. -/
def gpsStatusByte (on : Bool) : Byte := if on then 1 else 0

/-- The packet from its length field to the reserved bytes. -/
def gpsPacketBody (env : GpsPacketEnv) (gps : GpsPacket) : List Byte :=
  [0x00, 0x31, gpsStatusByte gps.fixValidCalculated] ++
  beBytes 4 gps.utcTime.toNat ++
  beBytes 4 (truncToInt (gps.latitudeDeg * gpsLatLonFixedScale)) ++
  beBytes 4 (truncToInt (gps.longitudeDeg * gpsLatLonFixedScale)) ++
  [intByte (truncToInt (gps.speedKnots * gpsKmhToKnots))] ++
  writeFixedPointBe gps.courseDeg 100 2 ++
  writeFixedPointBe gps.altitudeM 10 2 ++
  [if gps.latitudeDeg ≠ 0 ∨ gps.longitudeDeg ≠ 0 then gps.satsInUse else 0,
    intByte (gps.hdopX100.toNat / 100), env.networkState, env.tcpState,
    gpsStatusByte gps.fixValidReal, intByte env.signalStrength] ++
  beBytes 2 env.mcc ++ [intByte env.mnc] ++ beBytes 2 env.lac ++ beBytes 4 env.cellId ++
  beBytes 2 gpsPhMillivolts ++
  [0x00, gpsStatusByte env.ignStatus, gpsStatusByte env.chargeStatus,
    gpsStatusByte env.simStatus] ++
  beBytes 2 gpsPhMillivolts ++ beBytes 2 gpsPhBatteryPct ++
  leBytes 2 env.packetCounter.toNat ++
  [0x00, gpsStatusByte env.motStatus]

/-- `gps_packet_create` into a buffer of `bufferSize` bytes; the counter in
`env` is the one already increased. `none` where 0 is returned. -/
def gpsPacketCreate (bufferSize : Nat) (env : GpsPacketEnv) (gps : GpsPacket) :
    Option (List Byte) :=
  if bufferSize < gpsPacketTotalSize then none
  else
    let body := gpsPacketBody env gps
    some ([0x57, 0x45, 0x49] ++ body ++ [body.foldl (· ^^^ ·) 0] ++ [0x77, 0x65])

/-- `gps_ops_merge_tcp_append`: the message with `append` behind the packet, if
both stay below the inline size. -/
def gpsOpsMergeTcpAppend (packet append : List Byte) : List Byte :=
  if packet.length = 0 ∨ append.length = 0 then packet
  else if packet.length + append.length < moduleMessageInlineSize then packet ++ append
  else packet

theorem length_gpsPacketBody (env : GpsPacketEnv) (gps : GpsPacket) :
    (gpsPacketBody env gps).length = 49 := by
  unfold gpsPacketBody writeFixedPointBe
  simp only [List.length_append]
  simp only [length_beBytes, length_leBytes, List.length_cons, List.length_nil]

/-- A packet has its fixed size and starts with the marker and its type. -/
theorem gpsPacketCreate_eq_some {bufferSize : Nat} {env : GpsPacketEnv} {gps : GpsPacket}
    {packet : List Byte} (h : gpsPacketCreate bufferSize env gps = some packet) :
    packet.length = gpsPacketTotalSize ∧ packet.take 3 = [0x57, 0x45, 0x49] := by
  unfold gpsPacketCreate at h
  split at h
  · contradiction
  · cases h
    refine ⟨?_, rfl⟩
    simp [length_gpsPacketBody, gpsPacketTotalSize]

/-- Data behind the packet leaves its start as it is, and the whole in range. -/
theorem gpsOpsMergeTcpAppend_spec {packet : List Byte} (append : List Byte)
    (h : packet.length ≤ moduleMessageInlineSize) :
    (gpsOpsMergeTcpAppend packet append).length ≤ moduleMessageInlineSize ∧
      ∃ rest, gpsOpsMergeTcpAppend packet append = packet ++ rest := by
  unfold gpsOpsMergeTcpAppend
  split
  · exact ⟨h, [], (List.append_nil _).symm⟩
  · split
    · exact ⟨by rw [List.length_append]; omega, append, rfl⟩
    · exact ⟨h, [], (List.append_nil _).symm⟩

end WalnutGateway
