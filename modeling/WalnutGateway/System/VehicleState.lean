import WalnutGateway.Gps.Manager

/-!
# Ignition, motion and charge

The main task evaluates ignition and motion (`vehicle_state.c`) and polls the supply
(`system_manager_adc_poll`). The GPS module keeps its own copy of the three states, which it
is told of on every change. It starts with a copy of its own making, after the changes of the
first poll have been reported.
-/

namespace WalnutGateway

/-- `SystemIgnSource`. -/
inductive SystemIgnSource
  | wire
  | soft
  deriving DecidableEq

/-- `SystemMotionSource`. -/
inductive SystemMotionSource
  | ign
  | soft
  deriving DecidableEq

/-- `SystemSoftMotionMethod`. -/
inductive SystemSoftMotionMethod
  | gnssSpeed
  | accel
  | gpsDist
  | trip
  | any
  deriving DecidableEq

/-- `SystemConfig`, what the evaluation reads of it. -/
structure SystemConfig where
  ignSource : SystemIgnSource
  wireOnV : ℚ
  wireOffV : ℚ
  softLoV : ℚ
  softHiV : ℚ
  debouncePolls : UInt8
  motionSource : SystemMotionSource
  softMotionMethod : SystemSoftMotionMethod
  motSpdKmh : ℚ
  motDistM : ℚ
  motStopDebounceSec : UInt32
  motSpdCalc : Bool
  motSpdEn : Bool
  motDistEn : Bool
  accelEn : Bool

/-- `system_config_get_defaults`. -/
def systemConfigGetDefaults : SystemConfig where
  ignSource := .wire
  wireOnV := 5
  wireOffV := 49 / 10
  softLoV := 127 / 10
  softHiV := 15
  debouncePolls := 5
  motionSource := .ign
  softMotionMethod := .any
  motSpdKmh := 5
  motDistM := 200
  motStopDebounceSec := 5
  motSpdCalc := false
  motSpdEn := false
  motDistEn := true
  accelEn := false

/-- `PowerInfo`. -/
structure PowerInfo where
  externalVoltage : ℚ
  inputWireVoltage : ℚ
  batteryPercentage : UInt8
  chargeConnected : Bool
  ignitionOn : Bool
  motionOn : Bool
  adcPollCount : UInt8
  postBootIgnitionReady : Bool
  lastUpdateTimestamp : UInt32

/-- `g_power_info`, the statics of the two files, and the GPS module. -/
structure Vehicle where
  power : PowerInfo
  ignDebounceCount : UInt8
  motionRawOn : Bool
  motionStopSinceUptime : UInt32
  anchorLat : ℚ
  anchorLon : ℚ
  anchorValid : Bool
  prevIgn : Bool
  prevMot : Bool
  prevChargeConnected : Bool
  adcPollLastTicks : UInt32
  gps : Gps

/-- What an iteration of the main loop finds around it. -/
structure LoopEnv where
  /-- `SDK_GET_TICKS`. -/
  ticks : UInt32
  /-- `utils_get_uptime_seconds`. -/
  uptime : UInt32
  config : SystemConfig
  /-- The readings in millivolts, where the ADC gives them. -/
  ignitionMv : Option UInt16
  externalMv : Option UInt16
  vbatMv : Option UInt16
  /-- `utils_calculate_gps_distance`. -/
  distance : ℚ → ℚ → ℚ → ℚ → ℚ

/-! ## Evaluation -/

/-- `soft_ign_base_voltage`. -/
def softIgnBaseVoltage (pi : PowerInfo) : ℚ :=
  pi.externalVoltage /
    (if pi.externalVoltage > 40 then 42 / 10 else if pi.externalVoltage > 20 then 21 / 10 else 1)

/-- `eval_ignition_wire`. -/
def evalIgnitionWire (cfg : SystemConfig) (pi : PowerInfo) : Bool :=
  if cfg.wireOnV ≤ pi.inputWireVoltage then true
  else if pi.inputWireVoltage ≤ cfg.wireOffV then false
  else pi.ignitionOn

/-- `eval_ignition_soft`. -/
def evalIgnitionSoft (cfg : SystemConfig) (pi : PowerInfo) : Bool :=
  cfg.softLoV < softIgnBaseVoltage pi ∧ softIgnBaseVoltage pi ≤ cfg.softHiV

/-- The ignition before the debounce. -/
def evalIgnition (cfg : SystemConfig) (pi : PowerInfo) : Bool :=
  match cfg.ignSource with
  | .wire => evalIgnitionWire cfg pi
  | .soft => evalIgnitionSoft cfg pi

/-- `eval_soft_gnss_speed`. -/
def evalSoftGnssSpeed (env : LoopEnv) (gps : Gps) : Bool :=
  gps.currentGpsData.fixValidCalculated ∧ env.config.motSpdKmh ≤
    if env.config.motSpdCalc then gps.calcSpeedKmhFromLastSent env.distance env.uptime
    else gps.currentGpsData.speedKnots * gpsKmhToKnots

/-- `eval_soft_gps_dist`. -/
def evalSoftGpsDist (env : LoopEnv) (v : Vehicle) : Bool :=
  v.gps.currentGpsData.fixValidCalculated ∧ v.anchorValid ∧ env.config.motDistM ≤
    env.distance v.anchorLat v.anchorLon
      v.gps.currentGpsData.latitudeDeg v.gps.currentGpsData.longitudeDeg

/-- `eval_soft_accel`. -/
def evalSoftAccel : Bool := false

/-- `eval_soft_motion_raw`. -/
def evalSoftMotionRaw (env : LoopEnv) (v : Vehicle) : Bool :=
  match env.config.softMotionMethod with
  | .gnssSpeed => evalSoftGnssSpeed env v.gps
  | .gpsDist => evalSoftGpsDist env v
  | .accel => evalSoftAccel
  | .trip => evalSoftAccel && evalSoftGpsDist env v
  | .any =>
    (env.config.motSpdEn && evalSoftGnssSpeed env v.gps) ||
      (env.config.motDistEn && evalSoftGpsDist env v) || (env.config.accelEn && evalSoftAccel)

/-- `eval_motion_raw`. -/
def evalMotionRaw (env : LoopEnv) (ignitionOn : Bool) (v : Vehicle) : Bool :=
  match env.config.motionSource with
  | .ign => ignitionOn
  | .soft => evalSoftMotionRaw env v

namespace Vehicle

/-- `apply_motion_stop_debounce`: the motion after it, and `s_motion_stop_since_uptime`. -/
def applyMotionStopDebounce (env : LoopEnv) (rawOn : Bool) (v : Vehicle) : Bool × UInt32 :=
  if rawOn then (true, 0)
  else
    let since := if v.motionStopSinceUptime = 0 then env.uptime else v.motionStopSinceUptime
    if since ≤ env.uptime ∧ env.uptime - since < env.config.motStopDebounceSec then
      (v.motionRawOn, since)
    else (false, since)

/-- `sync_motion_anchor`. -/
def syncMotionAnchor (motionOn : Bool) (v : Vehicle) : Vehicle :=
  if motionOn then { v with anchorValid := false }
  else if ¬ v.anchorValid ∧ v.gps.currentGpsData.fixValidCalculated then
    { v with
      anchorLat := v.gps.currentGpsData.latitudeDeg
      anchorLon := v.gps.currentGpsData.longitudeDeg
      anchorValid := true }
  else v

/-- The debounce counter after another poll. -/
def debounced (cfg : SystemConfig) (rawIgn : Bool) (v : Vehicle) : UInt8 :=
  if rawIgn then
    if v.ignDebounceCount < cfg.debouncePolls then v.ignDebounceCount + 1 else v.ignDebounceCount
  else 0

/-- `poll_ignition` after a poll of the ADC. -/
def pollIgnition (cfg : SystemConfig) (v : Vehicle) : Vehicle :=
  let rawIgn := evalIgnition cfg v.power
  let count := v.debounced cfg rawIgn
  let polls := if v.power.adcPollCount < 255 then v.power.adcPollCount + 1 else v.power.adcPollCount
  { v with
    ignDebounceCount := count
    power := { v.power with
      ignitionOn := rawIgn && cfg.debouncePolls ≤ count
      adcPollCount := polls
      postBootIgnitionReady := cfg.debouncePolls < polls } }

/-- `poll_motion`. -/
def pollMotion (env : LoopEnv) (v : Vehicle) : Vehicle :=
  let held := v.applyMotionStopDebounce env (evalMotionRaw env v.power.ignitionOn v)
  { v with
    power := { v.power with motionOn := held.1 }
    motionRawOn := held.1
    motionStopSinceUptime := held.2 }.syncMotionAnchor held.1

/-- `emit_state_events`, without the broadcasts. -/
def emitStateEvents (v : Vehicle) : Vehicle :=
  let told := if v.power.ignitionOn = v.prevIgn then v.gps
    else v.gps.setIgnitionStatus v.power.ignitionOn
  { v with
    prevIgn := v.power.ignitionOn
    prevMot := v.power.motionOn
    gps := if v.power.motionOn = v.prevMot then told else told.setMotionStatus v.power.motionOn }

/-- `vehicle_state_poll`. -/
def vehicleStatePoll (env : LoopEnv) (adcPollDone : Bool) (v : Vehicle) : Vehicle :=
  let polled := (if adcPollDone then v.pollIgnition env.config else v).pollMotion env
  { polled with power := { polled.power with lastUpdateTimestamp := env.ticks } }.emitStateEvents

/-! ## The poll of the ADC -/

/-- `adc_manager_get_voltage` and `adc_manager_get_vbat_voltage` of a manager that is ready,
as it is after `adc_manager_init`. -/
def adcVolts (mv : UInt16) : ℚ := mv.toNat / 1000

/-- `ADC_GAIN_VALUE`. -/
def adcGainValue : ℚ := 131

/-- `ADC_POLL_INTERVAL_MS`. -/
def adcPollIntervalMs : UInt32 := 2000

/-- `real_ev`. -/
def realExternalVoltage (ev : ℚ) : ℚ := if ev * adcGainValue < 3 then 0 else ev * adcGainValue

/-- The battery level reported for a supply and a battery voltage. -/
def batteryPercentage (chargeConnected : Bool) (bv : ℚ) : UInt8 :=
  if chargeConnected then 100
  else if bv ≤ 34 / 10 then 0
  else if 41 / 10 ≤ bv then 100
  else UInt8.ofNat ⌊(bv - 34 / 10) * 100 / (7 / 10)⌋.toNat

/-- The readings are written to `g_power_info`. -/
def readSupply (iv ev bv : ℚ) (v : Vehicle) : Vehicle :=
  let chargeConnected : Bool := 3 ≤ realExternalVoltage ev
  { v with power := { v.power with
    externalVoltage := realExternalVoltage ev
    inputWireVoltage := iv * adcGainValue
    chargeConnected := chargeConnected
    batteryPercentage := batteryPercentage chargeConnected bv } }

/-- The GPS module is told of an edge of the supply. -/
def emitCharge (v : Vehicle) : Vehicle :=
  { v with
    prevChargeConnected := v.power.chargeConnected
    gps := if v.power.chargeConnected = v.prevChargeConnected then v.gps
      else v.gps.setChargeStatus v.power.chargeConnected }

/-- `system_manager_adc_poll`. -/
def systemManagerAdcPoll (env : LoopEnv) (v : Vehicle) : Vehicle :=
  match env.ignitionMv, env.externalMv, env.vbatMv with
  | some iv, some ev, some bv =>
    ((v.readSupply (adcVolts iv) (adcVolts ev) (adcVolts bv)).emitCharge).vehicleStatePoll env true
  | _, _, _ => v

/-- The ADC is due for a poll. -/
def adcDue (env : LoopEnv) (v : Vehicle) : Bool :=
  adcPollIntervalMs ≤ env.ticks - v.adcPollLastTicks

/-- `system_manager_loop_iteration`, what it does to these states. -/
def systemManagerLoopIteration (env : LoopEnv) (v : Vehicle) : Vehicle :=
  if v.adcDue env then { v with adcPollLastTicks := env.ticks }.systemManagerAdcPoll env
  else v.vehicleStatePoll env false

/-! ## Boot -/

/-- Zeroed statics, after `vehicle_state_init`. -/
def zeroed (config : GpsConfig) : Vehicle where
  power := ⟨0, 0, 0, false, false, false, 0, false, 0⟩
  ignDebounceCount := 0
  motionRawOn := false
  motionStopSinceUptime := 0
  anchorLat := 0
  anchorLon := 0
  anchorValid := false
  prevIgn := false
  prevMot := false
  prevChargeConnected := false
  adcPollLastTicks := 0
  gps := .zeroed config

/-- The end of `system_manager_init`: the poll that primes the states. -/
def systemManagerInit (env : LoopEnv) (v : Vehicle) : Vehicle :=
  { v.systemManagerAdcPoll env with adcPollLastTicks := env.ticks }

/-- What the firmware boots into: the main loop starts when the GPS module is ready. -/
def boot (config : GpsConfig) (env : LoopEnv) (restored : Option GpsPacket) : Vehicle :=
  let primed := (zeroed config).systemManagerInit env
  { primed with gps := primed.gps.gpsManagerInit config restored }

end Vehicle

/-- An iteration of the main loop, a step of the GPS task, or a call into its module. -/
inductive SystemEvent
  | loopIteration (env : LoopEnv)
  | gpsTask (env : GpsEnv)
  | gpsSetConfig (config : GpsConfig)
  | gpsSetPowerEnabled (on ok : Bool)

/-- The main task and the GPS task. -/
def vehicleMachine : Machine Vehicle SystemEvent Unit where
  step v e :=
    ((), match e with
      | .loopIteration env => v.systemManagerLoopIteration env
      | .gpsTask env => { v with gps := (gpsMachine.step v.gps (.task env)).2 }
      | .gpsSetConfig config => { v with gps := (gpsMachine.step v.gps (.setConfig config)).2 }
      | .gpsSetPowerEnabled on ok =>
        { v with gps := (gpsMachine.step v.gps (.setPowerEnabled on ok)).2 })

end WalnutGateway
