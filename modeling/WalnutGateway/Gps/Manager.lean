import WalnutGateway.Core.Machine
import WalnutGateway.Gps.Packet

/-!
# The GPS task

One pass of `gps_task_entry`: poll the SIM, take the next sample, handle an edge of the fix,
decide whether to send, pick what to send, build the packet, push it to the TCP module and
clear the trigger. Other tasks set the ignition, motion and charge latches between any two
of these steps. Floats are exact rationals, so they are never NaN or infinite; the distance
between two positions is left open.
-/

namespace WalnutGateway

/-- `GpsTimeSource`. -/
inductive GpsTimeSource
  | auto
  | gps
  | gsm
  deriving DecidableEq

/-- `GpsConfig`, what the task reads of it. -/
structure GpsConfig where
  ignOnIntervalSec : Int
  ignOffIntervalSec : Int
  angleThresholdDeg : ℚ
  distanceThresholdM : ℚ
  enableAngleTrigger : Bool
  enableDistanceTrigger : Bool
  sendLastValidOnIgnOffNoMovement : Bool
  sendLastValidOnNoFix : Bool
  timeSource : GpsTimeSource
  speedFilterKmh : ℚ

/-- `gps_config_get_defaults`. -/
def gpsConfigGetDefaults : GpsConfig where
  ignOnIntervalSec := 10
  ignOffIntervalSec := 30
  angleThresholdDeg := 20
  distanceThresholdM := 50
  enableAngleTrigger := true
  enableDistanceTrigger := true
  sendLastValidOnIgnOffNoMovement := false
  sendLastValidOnNoFix := true
  timeSource := .auto
  speedFilterKmh := 5

/-- `GPS_TRIGGER_*`; `none` before the first. -/
inductive GpsTrigger
  | none
  | ignInterval
  | angle
  | distance
  | simRemoved
  | chargeConnected
  | chargeDisconnected
  | simInserted
  | ignOn
  | ignOff
  | gpsFix
  deriving DecidableEq

/-- `GpsPacketBuildKind`. -/
inductive GpsPacketBuildKind
  | current
  | lastValidMerged
  deriving DecidableEq

/-- `GpsFixTransition`. -/
inductive GpsFixTransition
  | none
  | connected
  | disconnected
  deriving DecidableEq

/-- A zeroed `GpsPacket`. -/
def GpsPacket.zero : GpsPacket := ⟨false, false, 0, 0, 0, 0, 0, 0, 0, 0⟩

/-- Where the task is in its pass. -/
inductive GpsPc
  | pollSim
  | refresh
  | fixTransition
  | shouldSend
  | pickKind
  | build (kind : GpsPacketBuildKind)
  | push (packet : List Byte)
  | clear
  deriving DecidableEq

/-- `g_gps`, the statics of the module, and the task's place in its pass. -/
structure Gps where
  config : GpsConfig
  ignStatus : Bool
  motStatus : Bool
  chargeStatus : Bool
  triggerReason : GpsTrigger
  currentGpsData : GpsPacket
  lastValidGpsData : GpsPacket
  shouldTrigger : Bool
  lastPacketSendUptimeSec : UInt32
  packetsDropped : UInt32
  gnssNmeaOutputStarted : Bool
  /-- `prev` of `gps_set_charge_status`. -/
  prevCharge : Bool
  /-- `prev` of `gps_set_sim_status`. -/
  prevSim : Bool
  hadFix : Bool
  implausibleSpeedStreak : UInt32
  parseFailStreak : UInt32
  parseFailResetSent : Bool
  gpsPowerForcedOff : Bool
  packetCounter : UInt32
  pc : GpsPc

/-- What a step of the task finds around it. -/
structure GpsEnv where
  /-- `utils_calculate_gps_distance`. -/
  distance : ℚ → ℚ → ℚ → ℚ → ℚ
  /-- `weware_sim_get_sim_status`. -/
  sim : Bool
  /-- What `gps_ops_query_and_parse_from_urc_queue` makes of the newest record, if it does. -/
  parsed : Option GpsPacket
  /-- The clock of the modem as Unix time, if it can be read. -/
  rtcUtc : Option UInt32
  /-- `utils_get_uptime_seconds`. -/
  uptime : UInt32
  /-- Whether the send queue exists, and the result of `queue_push`. -/
  sendQueue : Option Result
  /-- The states of the other modules that a packet reports. -/
  packet : GpsPacketEnv

/-- What the task does to others. -/
inductive GpsOutput
  /-- A row in the TCP send queue. -/
  | enqueued (packet : List Byte)
  /-- `wm_sdk_system_reboot`. -/
  | systemReboot
  deriving DecidableEq

/-- What happens: a step of the task, or a call of another one. -/
inductive GpsEvent
  | task (env : GpsEnv)
  | setIgnitionStatus (on : Bool)
  | setMotionStatus (on : Bool)
  | setChargeStatus (connected : Bool)
  | setConfig (config : GpsConfig)
  /-- `gps_ops_set_power_enabled`, and whether the receiver can be switched off. -/
  | setPowerEnabled (on ok : Bool)

namespace Gps

/-! ## Trigger latches -/

/-- `gps_latch_send_trigger`. -/
def latchSendTrigger (reason : GpsTrigger) (g : Gps) : Gps :=
  { g with shouldTrigger := true, triggerReason := reason }

/-- `gps_set_ignition_status`. -/
def setIgnitionStatus (on : Bool) (g : Gps) : Gps :=
  if g.ignStatus = on then g
  else { g with ignStatus := on }.latchSendTrigger (if on then .ignOn else .ignOff)

/-- `gps_set_motion_status`; the stored position it may write is not read while running. -/
def setMotionStatus (on : Bool) (g : Gps) : Gps :=
  if g.motStatus = on then g else { g with motStatus := on }

/-- `gps_set_charge_status`. -/
def setChargeStatus (connected : Bool) (g : Gps) : Gps :=
  if g.prevCharge = connected then g
  else { g with prevCharge := connected, chargeStatus := connected }.latchSendTrigger
    (if connected then .chargeConnected else .chargeDisconnected)

/-- `gps_set_sim_status`. -/
def setSimStatus (available : Bool) (g : Gps) : Gps :=
  if g.prevSim = available then g
  else { g with prevSim := available }.latchSendTrigger
    (if available then .simInserted else .simRemoved)

/-- `gps_ops_set_power_enabled`. -/
def setPowerEnabled (on ok : Bool) (g : Gps) : Gps :=
  if on then
    if ¬ g.gpsPowerForcedOff then g
    else { g with
      gpsPowerForcedOff := false
      gnssNmeaOutputStarted := false
      parseFailStreak := 0
      parseFailResetSent := false }
  else if g.gpsPowerForcedOff then g
  else if ¬ ok then g
  else { g with
    gpsPowerForcedOff := true
    gnssNmeaOutputStarted := false
    currentGpsData := .zero }

end Gps

/-! ## The sample -/

/-- `GPS_TIME_VALID_MIN_UTC_UNIX`. -/
def gpsTimeValidMinUtcUnix : UInt32 := 1577836800

/-- `GPS_IMPLAUSIBLE_SPEED_KMH_MAX`. -/
def gpsImplausibleSpeedKmhMax : ℚ := 500

/-- `GPS_IMPLAUSIBLE_SPEED_STREAK_ACCEPT`. -/
def gpsImplausibleSpeedStreakAccept : UInt32 := 5

/-- `GPS_IMPLAUSIBLE_SPEED_MIN_DT_SEC`. -/
def gpsImplausibleSpeedMinDtSec : UInt32 := 1

/-- `GPS_PARSE_FAIL_SOFT_RESET_COUNT`. -/
def gpsParseFailSoftResetCount : UInt32 := 60

/-- `GPS_LAST_VALID_MIN_SATS`. -/
def gpsLastValidMinSats : UInt8 := 4

/-- `GPS_DEFAULT_SPEED_FILTER_KMH`. -/
def gpsDefaultSpeedFilterKmh : ℚ := 5

/-- `gps_validate_coordinates`. -/
def gpsValidateCoordinates (lat lon : ℚ) : Bool :=
  if lat < -90 ∨ lat > 90 ∨ lon < -180 ∨ lon > 180 then false
  else if lat = 0 ∧ lon = 0 then false
  else true

/-- `gps_ops_is_valid_utc`. -/
def gpsOpsIsValidUtc (utcTime : UInt32) : Bool := gpsTimeValidMinUtcUnix ≤ utcTime

/-- A record with a time and coordinates that can be used. -/
def GpsPacket.Meaningful (p : GpsPacket) : Prop :=
  p.utcTime ≠ 0 ∧ gpsValidateCoordinates p.latitudeDeg p.longitudeDeg = true

instance (p : GpsPacket) : Decidable p.Meaningful := inferInstanceAs (Decidable (_ ∧ _))

/-- `gps_ops_get_jump_filter_reference`. -/
def Gps.jumpFilterReference (g : Gps) : Option GpsPacket :=
  if g.lastValidGpsData.Meaningful then some g.lastValidGpsData else none

/-- `gps_ops_filter_implausible_jump`: the sample to use, and the streak. -/
def gpsOpsFilterImplausibleJump (env : GpsEnv) (g : Gps) (out : GpsPacket) :
    GpsPacket × UInt32 :=
  if ¬ gpsValidateCoordinates out.latitudeDeg out.longitudeDeg then
    (out, g.implausibleSpeedStreak)
  else match g.jumpFilterReference with
  | none => (out, 0)
  | some ref =>
    if ¬ gpsOpsIsValidUtc out.utcTime ∨ ¬ gpsOpsIsValidUtc ref.utcTime then (out, 0)
    else if out.utcTime ≤ ref.utcTime then (out, 0)
    else
      let dtSec := max (out.utcTime - ref.utcTime) gpsImplausibleSpeedMinDtSec
      let distM := env.distance ref.latitudeDeg ref.longitudeDeg out.latitudeDeg out.longitudeDeg
      if distM * (36 / 10) / dtSec.toNat ≤ gpsImplausibleSpeedKmhMax then (out, 0)
      else if g.implausibleSpeedStreak + 1 < gpsImplausibleSpeedStreakAccept then
        ({ ref with utcTime := out.utcTime }, g.implausibleSpeedStreak + 1)
      else (out, 0)

/-- `gps_ops_apply_time_source_to_packet`. -/
def gpsOpsApplyTimeSourceToPacket (source : GpsTimeSource) (rtcUtc : Option UInt32)
    (p : GpsPacket) : GpsPacket :=
  let gsmUtc := rtcUtc.getD 0
  let gsmValidUtc := gpsOpsIsValidUtc gsmUtc
  let gpsValidUtc := gpsOpsIsValidUtc p.utcTime
  match source with
  | .gps => if ¬ gpsValidUtc ∧ gsmValidUtc then { p with utcTime := gsmUtc } else p
  | .gsm => if gpsValidUtc ∧ ¬ gsmValidUtc then p else { p with utcTime := gsmUtc }
  | .auto =>
    if p.fixValidReal ∧ gpsValidUtc then p
    else if gsmValidUtc then { p with utcTime := gsmUtc }
    else if gpsValidUtc then p
    else { p with utcTime := gsmUtc }

/-- `gps_ops_update_fix_valid_calculated`. -/
def gpsOpsUpdateFixValidCalculated (p : GpsPacket) : GpsPacket :=
  { p with fixValidCalculated := gpsValidateCoordinates p.latitudeDeg p.longitudeDeg }

namespace Gps

/-- `gps_ops_query_and_parse` and what `gps_ops_refresh_current_sample` does with its answer. -/
def queryAndParse (env : GpsEnv) (g : Gps) : List GpsOutput × Gps :=
  match env.parsed with
  | some out =>
    let filtered := gpsOpsFilterImplausibleJump env g out
    ([], { g with
      currentGpsData := filtered.1
      implausibleSpeedStreak := filtered.2
      gnssNmeaOutputStarted := true
      parseFailStreak := 0
      parseFailResetSent := false })
  | none =>
    let cleared := { g with gnssNmeaOutputStarted := false, currentGpsData := .zero }
    if g.gpsPowerForcedOff ∨ g.parseFailResetSent then ([], cleared)
    else if gpsParseFailSoftResetCount ≤ g.parseFailStreak + 1 then
      ([.systemReboot],
        { cleared with parseFailStreak := g.parseFailStreak + 1, parseFailResetSent := true })
    else ([], { cleared with parseFailStreak := g.parseFailStreak + 1 })

/-- `gps_ops_refresh_current_sample`. -/
def refreshCurrentSample (env : GpsEnv) (g : Gps) : List GpsOutput × Gps :=
  let (outputs, queried) := g.queryAndParse env
  (outputs, { queried with
    currentGpsData := gpsOpsUpdateFixValidCalculated
      (gpsOpsApplyTimeSourceToPacket g.config.timeSource env.rtcUtc queried.currentGpsData) })

/-- `gps_ops_process_fix_transition`; `had_fix` follows the sample in every case. -/
def processFixTransition (g : Gps) : GpsFixTransition :=
  if ¬ g.hadFix ∧ g.currentGpsData.fixValidReal then .connected
  else if g.hadFix ∧ ¬ g.currentGpsData.fixValidReal then .disconnected
  else .none

/-- `update_last_valid_gps_data` with the current sample. -/
def updateLastValidGpsData (g : Gps) : Gps :=
  { g with lastValidGpsData := { g.currentGpsData with speedKnots := 0 } }

/-- `gps_ops_handle_fix_transition`, without the stored position. -/
def handleFixTransition (ev : GpsFixTransition) (g : Gps) : Gps :=
  match ev with
  | .connected => (g.latchSendTrigger .gpsFix).updateLastValidGpsData
  | _ => g

/-! ## Whether to send -/

/-- `gps_uptime_elapsed_since_last_send`. -/
def uptimeElapsedSinceLastSend (now : UInt32) (g : Gps) : UInt32 :=
  if g.lastPacketSendUptimeSec = 0 then now else now - g.lastPacketSendUptimeSec

/-- An interval of the configuration as `UINT32`, at least one second. -/
def intervalSec (configured : Int) : UInt32 :=
  if UInt32.ofInt configured = 0 then 1 else UInt32.ofInt configured

/-- `gps_check_ign_trigger`. -/
def checkIgnTrigger (now : UInt32) (g : Gps) : Bool :=
  intervalSec (if g.motStatus then g.config.ignOnIntervalSec else g.config.ignOffIntervalSec) ≤
    g.uptimeElapsedSinceLastSend now

/-- A course between 0 and 360 degrees. -/
def normalizeCourse (course : ℚ) : ℚ := course - 360 * ⌊course / 360⌋

/-- `utils_calculate_angle_change`. -/
def calculateAngleChange (course1 course2 : ℚ) : ℚ :=
  let diff := |normalizeCourse course2 - normalizeCourse course1|
  if diff > 180 then 360 - diff else diff

/-- `gps_check_angle_trigger`. -/
def checkAngleTrigger (g : Gps) : Bool :=
  g.config.enableAngleTrigger ∧ g.currentGpsData.fixValidCalculated ∧ g.motStatus ∧
    g.lastValidGpsData.utcTime ≠ 0 ∧ g.config.angleThresholdDeg ≤
      calculateAngleChange g.lastValidGpsData.courseDeg g.currentGpsData.courseDeg

/-- The distance of the current sample from the last valid one. -/
def distanceFromLastValid (distance : ℚ → ℚ → ℚ → ℚ → ℚ) (g : Gps) : ℚ :=
  distance g.lastValidGpsData.latitudeDeg g.lastValidGpsData.longitudeDeg
    g.currentGpsData.latitudeDeg g.currentGpsData.longitudeDeg

/-- `gps_check_distance_trigger`. -/
def checkDistanceTrigger (env : GpsEnv) (g : Gps) : Bool :=
  g.config.enableDistanceTrigger ∧ g.currentGpsData.fixValidCalculated ∧
    ¬ (¬ g.motStatus ∧ g.config.sendLastValidOnIgnOffNoMovement) ∧
    g.lastValidGpsData.utcTime ≠ 0 ∧
    g.config.distanceThresholdM ≤ g.distanceFromLastValid env.distance ∧
    intervalSec g.config.ignOnIntervalSec ≤ g.uptimeElapsedSinceLastSend env.uptime

/-- `gps_triggers_compute_decider`: the reason to send, if any. -/
def computeDecider (env : GpsEnv) (g : Gps) : Option GpsTrigger :=
  if g.checkIgnTrigger env.uptime then some .ignInterval
  else if g.checkAngleTrigger then some .angle
  else if g.checkDistanceTrigger env then some .distance
  else none

/-- `gps_triggers_should_send`. -/
def shouldSend (env : GpsEnv) (g : Gps) : Bool × Gps :=
  if g.shouldTrigger then (true, g)
  else match g.computeDecider env with
  | some reason => (true, { g with triggerReason := reason })
  | none => (false, g)

/-! ## What to send -/

/-- `gps_ops_calc_speed_kmh_from_last_sent`. -/
def calcSpeedKmhFromLastSent (distance : ℚ → ℚ → ℚ → ℚ → ℚ) (uptime : UInt32) (g : Gps) : ℚ :=
  if ¬ g.currentGpsData.fixValidCalculated ∨ g.lastValidGpsData.utcTime = 0 ∨
    g.lastPacketSendUptimeSec = 0 then 0
  else if ¬ gpsValidateCoordinates g.lastValidGpsData.latitudeDeg
    g.lastValidGpsData.longitudeDeg then 0
  else
    let dt := if g.lastPacketSendUptimeSec ≤ uptime then uptime - g.lastPacketSendUptimeSec else 0
    let dtSec := if dt = 0 then gpsImplausibleSpeedMinDtSec else dt
    g.distanceFromLastValid distance * (36 / 10) / dtSec.toNat

/-- `gps_ops_speed_backfill_min_kmh`. -/
def speedBackfillMinKmh (g : Gps) : ℚ :=
  if g.config.speedFilterKmh > 0 then g.config.speedFilterKmh else gpsDefaultSpeedFilterKmh

/-- `gps_ops_backfill_speed_from_motion` of the current sample. -/
def backfillSpeedFromMotion (env : GpsEnv) (g : Gps) : Gps :=
  if g.currentGpsData.speedKnots > 0 ∨ ¬ g.currentGpsData.fixValidCalculated then g
  else
    let speedKmh := g.calcSpeedKmhFromLastSent env.distance env.uptime
    if speedKmh ≤ 0 ∨ speedKmh < g.speedBackfillMinKmh then g
    else { g with currentGpsData := { g.currentGpsData with
      speedKnots := speedKmh / gpsKmhToKnots } }

/-- Only the speed of the sample is filled in, and only if there is none. -/
theorem backfillSpeedFromMotion_frame (env : GpsEnv) (g : Gps) :
    ∃ speed, g.backfillSpeedFromMotion env =
        { g with currentGpsData := { g.currentGpsData with speedKnots := speed } } ∧
      (0 < g.currentGpsData.speedKnots → speed = g.currentGpsData.speedKnots) := by
  unfold backfillSpeedFromMotion
  split
  · exact ⟨_, rfl, fun _ => rfl⟩
  · rename_i hstill
    dsimp only
    split
    · exact ⟨_, rfl, fun _ => rfl⟩
    · exact ⟨_, rfl, fun hpos => absurd (Or.inl hpos) hstill⟩

/-- `gps_ops_speed_filter_send_last_valid`. -/
def speedFilterSendLastValid (env : GpsEnv) (g : Gps) : Bool :=
  let speedKmh := g.calcSpeedKmhFromLastSent env.distance env.uptime
  0 < g.config.speedFilterKmh ∧ 0 < speedKmh ∧ speedKmh < g.speedBackfillMinKmh

/-- `gps_ops_pick_send_kind`. -/
def pickSendKind (env : GpsEnv) (g : Gps) : GpsPacketBuildKind :=
  if (¬ g.chargeStatus ∧ g.currentGpsData.fixValidCalculated) ∨ g.triggerReason = .distance then
    .current
  else if (g.config.sendLastValidOnNoFix ∧ ¬ g.currentGpsData.fixValidCalculated) ∨
    (g.config.sendLastValidOnIgnOffNoMovement ∧ ¬ g.motStatus) then .lastValidMerged
  else if g.speedFilterSendLastValid env then .lastValidMerged
  else .current

/-! ## The packet -/

/-- The record of `gps_ops_build_position_packet`, updated for the packet. -/
def preparePosition (env : GpsEnv) (kind : GpsPacketBuildKind) (g : Gps) : Gps :=
  match kind with
  | .current =>
    { g with currentGpsData := { g.currentGpsData with
      satsInUse :=
        if g.currentGpsData.satsInUse < gpsLastValidMinSats ∧ g.currentGpsData.fixValidCalculated
        then gpsLastValidMinSats else g.lastValidGpsData.satsInUse } }.backfillSpeedFromMotion env
  | .lastValidMerged =>
    { g with lastValidGpsData := { g.lastValidGpsData with
      fixValidReal := g.currentGpsData.fixValidReal
      speedKnots := 0
      satsInUse :=
        if g.lastValidGpsData.satsInUse < gpsLastValidMinSats ∧
          g.lastValidGpsData.fixValidCalculated
        then gpsLastValidMinSats else g.lastValidGpsData.satsInUse
      utcTime := g.currentGpsData.utcTime } }

/-- The record that is sent. -/
def sentRecord (kind : GpsPacketBuildKind) (g : Gps) : GpsPacket :=
  match kind with
  | .current => g.currentGpsData
  | .lastValidMerged => g.lastValidGpsData

/-- `gps_ops_build_position_packet` into a message buffer. -/
def buildPositionPacket (env : GpsEnv) (kind : GpsPacketBuildKind) (g : Gps) :
    Option (List Byte) × Gps :=
  let prepared := g.preparePosition env kind
  let counted := { prepared with packetCounter := prepared.packetCounter + 1 }
  (gpsPacketCreate moduleMessageInlineSize
    { env.packet with
      ignStatus := counted.ignStatus
      chargeStatus := counted.chargeStatus
      simStatus := env.sim
      motStatus := counted.motStatus
      packetCounter := counted.packetCounter }
    (counted.sentRecord kind), counted)

/-- `gps_ops_build_send_packet`. -/
def buildSendPacket (env : GpsEnv) (kind : GpsPacketBuildKind) (g : Gps) :
    Option (List Byte) × Gps :=
  let (packet, built) := g.buildPositionPacket env kind
  (packet,
    if packet.any (·.length = gpsPacketTotalSize) ∧ kind = .current then
      built.updateLastValidGpsData
    else built)

/-- `gps_ops_push_tcp_position_message`. -/
def pushTcpPositionMessage (env : GpsEnv) (packet : List Byte) (g : Gps) :
    List GpsOutput × Gps :=
  if packet.length = 0 ∨ packet.length > moduleMessageInlineSize then ([], g)
  else if env.sendQueue = some .success then
    ([.enqueued packet], { g with lastPacketSendUptimeSec := env.uptime })
  else ([], { g with packetsDropped := g.packetsDropped + 1 })

end Gps

/-! ## The pass -/

/-- One step of the loop of `gps_task_entry`. The payload to append is always empty
(`gps_ops_pop_gps_msg_queue_latch_append`). -/
def gpsTaskEntry (env : GpsEnv) (g : Gps) : List GpsOutput × Gps :=
  match g.pc with
  | .pollSim => ([], { g.setSimStatus env.sim with pc := .refresh })
  | .refresh =>
    let (outputs, next) := g.refreshCurrentSample env
    (outputs, { next with pc := .fixTransition })
  | .fixTransition =>
    ([], { g.handleFixTransition g.processFixTransition with
      hadFix := g.currentGpsData.fixValidReal
      pc := .shouldSend })
  | .shouldSend =>
    let (send, next) := g.shouldSend env
    ([], { next with pc := if send then .pickKind else .pollSim })
  | .pickKind => ([], { g with pc := .build (g.pickSendKind env) })
  | .build kind =>
    match g.buildSendPacket env kind with
    | (none, next) => ([], { next with pc := .pollSim })
    | (some packet, next) => ([], { next with pc := .push packet })
  | .push packet =>
    let (outputs, next) := g.pushTcpPositionMessage env (gpsOpsMergeTcpAppend packet [])
    (outputs, { next with pc := .clear })
  | .clear => ([], { g with shouldTrigger := false, pc := .pollSim })

namespace Gps

/-- `g_gps` and the statics before the module is first used. -/
def zeroed (config : GpsConfig) : Gps where
  config := config
  ignStatus := false
  motStatus := false
  chargeStatus := false
  triggerReason := .none
  currentGpsData := .zero
  lastValidGpsData := .zero
  shouldTrigger := false
  lastPacketSendUptimeSec := 0
  packetsDropped := 0
  gnssNmeaOutputStarted := false
  prevCharge := false
  prevSim := false
  hadFix := false
  implausibleSpeedStreak := 0
  parseFailStreak := 0
  parseFailResetSent := false
  gpsPowerForcedOff := false
  packetCounter := 0
  pc := .pollSim

/-- `gps_ops_set_runtime_defaults`: the statics of the setters stay as they are. -/
def setRuntimeDefaults (config : GpsConfig) (g : Gps) : Gps :=
  { zeroed config with
    prevCharge := g.prevCharge
    prevSim := g.prevSim
    hadFix := g.hadFix
    packetCounter := g.packetCounter }

/-- `gps_manager_init` up to the start of the task; `restored` is the position that
`gps_storage_handle_post_boot` takes from flash, if it does. -/
def gpsManagerInit (config : GpsConfig) (restored : Option GpsPacket) (g : Gps) : Gps :=
  let defaults := g.setRuntimeDefaults config
  { defaults with
    lastValidGpsData := restored.getD defaults.lastValidGpsData
    ignStatus := true
    motStatus := true
    chargeStatus := false }

end Gps

/-- The task and the calls of other tasks, in any order. -/
def gpsMachine : Machine Gps GpsEvent (List GpsOutput) where
  step g e :=
    match e with
    | .task env => gpsTaskEntry env g
    | .setIgnitionStatus on => ([], g.setIgnitionStatus on)
    | .setMotionStatus on => ([], g.setMotionStatus on)
    | .setChargeStatus connected => ([], g.setChargeStatus connected)
    | .setConfig config => ([], { g with config := config })
    | .setPowerEnabled on ok => ([], g.setPowerEnabled on ok)

end WalnutGateway
