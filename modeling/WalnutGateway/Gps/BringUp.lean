import Mathlib.Data.List.DropRight
import WalnutGateway.Core.OutputLog
import WalnutGateway.Network.Manager

/-!
# Bringing the receiver up

The GPS task powers the receiver and gives it five settings, one a turn and each until it is
accepted. Meanwhile a command may switch the receiver off and on, and a new configuration may
ask for another start mode; either may come while the task sleeps in the middle of its power-on.
-/

namespace WalnutGateway

/-! ## The receiver -/

/-- What `gps_ops.c` asks of the receiver. -/
inductive GnssCall
  | setPowerStatus (on : Bool)
  | enableNmeaOutput (dataGetMode : UInt32)
  | setMode (systems : UInt32)
  | setNmeaRate (hz : UInt32)
  | startMode (mode : UInt32)
  | setGnssInfoPeriod (seconds : UInt32)
  | openAgpsService
  deriving DecidableEq

/-- What comes of it: a call with its answer, or `EVENT_GPS_CONFIGURED`. -/
inductive GnssOutput
  | called (call : GnssCall) (answer : ModemResult)
  | configured
  deriving DecidableEq

/-- What the receiver is told before it counts as configured. -/
inductive GnssSetting
  | nmeaOutput
  | mode
  | nmeaRate
  | startMode
  | infoReport
  deriving DecidableEq

/-- The settings in the order in which they are made. -/
def gnssSettings : List GnssSetting := [.nmeaOutput, .mode, .nmeaRate, .startMode, .infoReport]

theorem mem_gnssSettings (k : GnssSetting) : k ∈ gnssSettings := by
  cases k <;> simp [gnssSettings]

/-- `GPS_WALNUT_NMEA_DATA_GET_MODE`. -/
def gpsWalnutNmeaDataGetMode : UInt32 := 0

/-- GPS and GLONASS, `WM_SDK_GPS_SYS_GPS` and `WM_SDK_GPS_SYS_GLO`. -/
def gnssTargetMode : UInt32 := 1 ||| 64

/-- `GPS_NMEA_RATE_DEFAULT`. -/
def gpsNmeaRateDefault : UInt32 := 1

/-- `GPS_GNSS_INFO_PERIOD_S`. -/
def gpsGnssInfoPeriodS : UInt32 := 1

/-- `GPS_POWER_STATUS_CHECK_GAP_SEC`. -/
def gpsPowerStatusCheckGapSec : UInt32 := 5

/-- `GPS_AGPS_FAIL_COOLDOWN_SEC`. -/
def gpsAgpsFailCooldownSec : UInt32 := 600

/-- `GPS_AGPS_VALIDITY_SEC`. -/
def gpsAgpsValiditySec : UInt32 := 4 * 3600

/-! ## The task -/

/-- `GpsConfig`, what the bring-up reads of it. -/
structure GnssConfig where
  startMode : UInt32
  enableAgps : Bool

/-- Where the task is: at the start of a turn, or asleep in
`gps_ops_power_on_and_configure_nmea_step`. -/
inductive GnssPc
  | top
  | powerOn
  | stabilized
  deriving DecidableEq

/-- The part of `g_gps` and of the statics that the bring-up uses. -/
structure Gnss where
  config : GnssConfig
  powerForcedOff : Bool
  pwrNmeaSetupDone : Bool
  nmeaOutputConfigured : Bool
  modeSet : Bool
  nmeaRateSet : Bool
  startModeSet : Bool
  infoReportSet : Bool
  nmeaOutputStarted : Bool
  configuredEventSent : Bool
  lastPowerStatusCheckUptime : UInt32
  cachedPowerOn : Bool
  agpsSet : Bool
  lastAgpsOpenTime : UInt32
  lastAgpsOpenAttemptTime : UInt32
  /-- `fix_valid_calculated` of the current sample. -/
  fixValidCalculated : Bool
  pc : GnssPc

/-- What a step of the task finds around it. -/
structure GnssEnv where
  /-- `utils_get_uptime_seconds`. -/
  uptime : UInt32
  answer : GnssCall → ModemResult
  /-- `wm_sdk_gps_get_power_status`, if it succeeds. -/
  powerStatus : Option Bool
  /-- `gps_post_boot_is_power_on_reset`. -/
  powerOnReset : Bool
  networkConnected : Bool
  networkStable : Bool
  /-- Whether there is a new sample, and its `fix_valid_calculated`. -/
  parsed : Option Bool

/-- `gps_ops_set_runtime_defaults`, with the configuration at that time. -/
def Gnss.setRuntimeDefaults (config : GnssConfig) : Gnss where
  config := config
  powerForcedOff := false
  pwrNmeaSetupDone := false
  nmeaOutputConfigured := false
  modeSet := false
  nmeaRateSet := false
  startModeSet := false
  infoReportSet := false
  nmeaOutputStarted := false
  configuredEventSent := false
  lastPowerStatusCheckUptime := 0
  cachedPowerOn := false
  agpsSet := false
  lastAgpsOpenTime := 0
  lastAgpsOpenAttemptTime := 0
  fixValidCalculated := false
  pc := .top

/-- The flag of a setting. -/
def Gnss.has (g : Gnss) : GnssSetting → Bool
  | .nmeaOutput => g.nmeaOutputConfigured
  | .mode => g.modeSet
  | .nmeaRate => g.nmeaRateSet
  | .startMode => g.startModeSet
  | .infoReport => g.infoReportSet

/-- `gps_ops_configure_nmea_output`. -/
def gpsOpsConfigureNmeaOutput (env : GnssEnv) (g : Gnss) : Bool × List GnssOutput × Gnss :=
  if g.nmeaOutputConfigured then (true, [], g)
  else
    let nr := env.answer (.enableNmeaOutput gpsWalnutNmeaDataGetMode)
    let os := [.called (.enableNmeaOutput gpsWalnutNmeaDataGetMode) nr]
    if nr = .success ∨ nr = .notSupported then (true, os, { g with nmeaOutputConfigured := true })
    else (false, os, g)

/-- `gps_ops_set_power_enabled`; `answer` is that of the receiver when it is switched off. -/
def gpsOpsSetPowerEnabled (on : Bool) (answer : ModemResult) (g : Gnss) :
    Result × List GnssOutput × Gnss :=
  if on then
    if ¬ g.powerForcedOff then (.success, [], g)
    else (.success, [], { g with
      powerForcedOff := false
      pwrNmeaSetupDone := false
      modeSet := false
      nmeaRateSet := false
      nmeaOutputConfigured := false
      nmeaOutputStarted := false
      startModeSet := false
      infoReportSet := false
      lastPowerStatusCheckUptime := 0
      cachedPowerOn := false })
  else if g.powerForcedOff then (.success, [], g)
  else if answer ≠ .success then (.error, [.called (.setPowerStatus false) answer], g)
  else (.success, [.called (.setPowerStatus false) answer], { g with
    powerForcedOff := true
    nmeaOutputStarted := false
    fixValidCalculated := false })

/-- The power status is to be asked for again. -/
def Gnss.powerCheckDue (g : Gnss) (uptime : UInt32) : Bool :=
  g.lastPowerStatusCheckUptime = 0 ∨
    gpsPowerStatusCheckGapSec ≤ uptime - g.lastPowerStatusCheckUptime

/-- `gps_ops_can_proceed_config`. -/
def gpsOpsCanProceedConfig (env : GnssEnv) (g : Gnss) : Bool × Gnss :=
  if g.nmeaOutputStarted then (true, g)
  else
    let g := if g.powerCheckDue env.uptime then
        { g with
          cachedPowerOn := env.powerStatus.getD false
          lastPowerStatusCheckUptime := env.uptime }
      else g
    (g.cachedPowerOn, g)

/-- The start mode that the receiver is given: hot unless the device was powered on. -/
def gnssStartMode (env : GnssEnv) (config : GnssConfig) : UInt32 :=
  if ¬ env.powerOnReset then 0
  else if config.startMode ≠ 0 ∧ config.startMode ≠ 1 ∧ config.startMode ≠ 2 then 1
  else config.startMode

/-- All settings are made. -/
def Gnss.allConfigured (g : Gnss) : Bool :=
  g.modeSet && g.nmeaRateSet && g.nmeaOutputConfigured && g.startModeSet && g.infoReportSet

/-- The one setting that a turn of `gps_ops_retry_configuration` tries. -/
def gpsOpsConfigStep (env : GnssEnv) (g : Gnss) : List GnssOutput × Gnss :=
  if ¬ g.nmeaOutputConfigured then (gpsOpsConfigureNmeaOutput env g).2
  else if ¬ g.modeSet then
    let r := env.answer (.setMode gnssTargetMode)
    ([.called (.setMode gnssTargetMode) r], if r = .success then { g with modeSet := true } else g)
  else if ¬ g.nmeaRateSet then
    let r := env.answer (.setNmeaRate gpsNmeaRateDefault)
    ([.called (.setNmeaRate gpsNmeaRateDefault) r],
      if r = .success then { g with nmeaRateSet := true } else g)
  else if ¬ g.startModeSet then
    let mode := gnssStartMode env g.config
    let r := env.answer (.startMode mode)
    ([.called (.startMode mode) r], if r = .success then { g with startModeSet := true } else g)
  else if ¬ g.infoReportSet then
    ([.called (.setGnssInfoPeriod gpsGnssInfoPeriodS)
        (env.answer (.setGnssInfoPeriod gpsGnssInfoPeriodS))],
      { g with infoReportSet := true })
  else ([], g)

/-- `gps_ops_retry_configuration`. -/
def gpsOpsRetryConfiguration (env : GnssEnv) (g : Gnss) : List GnssOutput × Gnss :=
  if g.powerForcedOff then ([], g)
  else if g.allConfigured then
    if ¬ g.configuredEventSent then ([.configured], { g with configuredEventSent := true })
    else ([], g)
  else
    let p := gpsOpsCanProceedConfig env g
    if ¬ p.1 then ([], p.2) else gpsOpsConfigStep env p.2

/-- A-GPS may be opened now. -/
def Gnss.agpsDue (env : GnssEnv) (g : Gnss) : Bool :=
  g.config.enableAgps && env.networkConnected && env.networkStable &&
    (g.modeSet && g.nmeaRateSet && g.nmeaOutputConfigured && g.startModeSet) && !g.agpsSet &&
    !(g.lastAgpsOpenAttemptTime ≠ 0 ∧
      env.uptime - g.lastAgpsOpenAttemptTime < gpsAgpsFailCooldownSec)

/-- `gps_ops_open_agps_if_needed`. -/
def gpsOpsOpenAgpsIfNeeded (env : GnssEnv) (g : Gnss) : List GnssOutput × Gnss :=
  if ¬ g.agpsDue env then ([], g)
  else
    let ret := env.answer .openAgpsService
    ([.called .openAgpsService ret],
      if ret = .success then
        { g with agpsSet := true, lastAgpsOpenTime := env.uptime, lastAgpsOpenAttemptTime := 0 }
      else if ret = .notSupported then { g with agpsSet := true }
      else { g with lastAgpsOpenAttemptTime := env.uptime })

/-- `gps_ops_agps_refresh_if_needed`. -/
def gpsOpsAgpsRefreshIfNeeded (env : GnssEnv) (g : Gnss) : Gnss :=
  if ¬ g.config.enableAgps ∨ g.agpsSet = false then g
  else if g.fixValidCalculated then g
  else if g.lastAgpsOpenTime = 0 then g
  else if env.uptime - g.lastAgpsOpenTime < gpsAgpsValiditySec then g
  else { g with agpsSet := false }

/-- `gps_ops_refresh_current_sample`, what the bring-up sees of it. -/
def gpsOpsRefreshCurrentSample (env : GnssEnv) (g : Gnss) : Gnss :=
  { g with
    nmeaOutputStarted := env.parsed.isSome
    fixValidCalculated := env.parsed.getD false }

/-- A turn of `gps_task_entry` after its power-on step. -/
def gnssTurn (env : GnssEnv) (g : Gnss) : List GnssOutput × Gnss :=
  andThen (andThen (gpsOpsRetryConfiguration env g) (gpsOpsOpenAgpsIfNeeded env)) fun g =>
    ([], { gpsOpsRefreshCurrentSample env (gpsOpsAgpsRefreshIfNeeded env g) with pc := .top })

/-- The task up to its next sleep. -/
def gnssTaskStep (env : GnssEnv) (g : Gnss) : List GnssOutput × Gnss :=
  match g.pc with
  | .top =>
    if g.powerForcedOff ∨ g.pwrNmeaSetupDone then gnssTurn env g
    else ([], { g with pc := .powerOn })
  | .powerOn =>
    let r := env.answer (.setPowerStatus true)
    andThen ([.called (.setPowerStatus true) r], g) fun g =>
      if r ≠ .success then gnssTurn env g else ([], { g with pc := .stabilized })
  | .stabilized =>
    let c := gpsOpsConfigureNmeaOutput env g
    andThen c.2 fun g => gnssTurn env (if c.1 then { g with pwrNmeaSetupDone := true } else g)

/-- What happens: a step of the task, a command, or a new configuration. -/
inductive GnssOp
  | task (env : GnssEnv)
  | setPowerEnabled (on : Bool) (answer : ModemResult)
  | setConfig (config : GnssConfig)

/-- The receiver's bring-up; the answers are what comes of each operation. -/
def gnssMachine : Machine Gnss GnssOp (List GnssOutput) where
  step g
    | .task env => gnssTaskStep env g
    | .setPowerEnabled on answer => (gpsOpsSetPowerEnabled on answer g).2
    | .setConfig config =>
      ([], { g with
        config := config
        startModeSet := g.startModeSet && config.startMode = g.config.startMode })

/-! ## What the log tells -/

/-- The setting that a call is about. -/
def GnssCall.setting : GnssCall → Option GnssSetting
  | .enableNmeaOutput _ => some .nmeaOutput
  | .setMode _ => some .mode
  | .setNmeaRate _ => some .nmeaRate
  | .startMode _ => some .startMode
  | .setGnssInfoPeriod _ => some .infoReport
  | _ => none

/-- A setting counts as made with this answer. -/
def GnssSetting.madeBy (answer : ModemResult) : GnssSetting → Bool
  | .nmeaOutput => answer ≠ .failed
  | .infoReport => true
  | _ => answer = .success

/-- The setting that an output makes. -/
def GnssOutput.made : GnssOutput → Option GnssSetting
  | .called call answer => call.setting.filter fun k => k.madeBy answer
  | .configured => none

/-- The receiver is switched off. -/
def GnssOutput.switchesOff (o : GnssOutput) : Bool := o = .called (.setPowerStatus false) .success

/-- The settings that were made since the receiver was last switched off. -/
def madeSinceOff (log : List GnssOutput) : List GnssSetting :=
  (log.rtakeWhile fun o => !o.switchesOff).filterMap GnssOutput.made

/-- The settings that come before one. -/
def GnssSetting.lower (k : GnssSetting) : List GnssSetting := gnssSettings.takeWhile (· ≠ k)

/-- The settings that are made once; the other two may be repeated, the output of sentences by a
power-on that was under way, the start mode for a new configuration. -/
def GnssSetting.once (k : GnssSetting) : Bool := k = .mode ∨ k = .nmeaRate ∨ k = .infoReport

/-- An output is as it should be after the ones before it: a setting is tried only when all lower
ones are made, and not again when it is made; the receiver counts as configured only when all
settings are made, and only once. -/
def GnssInOrder (before : List GnssOutput) : GnssOutput → Prop
  | .called call _ => ∀ k, call.setting = some k →
      (∀ lower ∈ k.lower, lower ∈ madeSinceOff before) ∧
        (k.once = true → k ∉ madeSinceOff before)
  | .configured => (∀ k, k ∈ madeSinceOff before) ∧ .configured ∉ before

/-- The state with a setting made. -/
def Gnss.make (k : GnssSetting) (g : Gnss) : Gnss :=
  match k with
  | .nmeaOutput => { g with nmeaOutputConfigured := true }
  | .mode => { g with modeSet := true }
  | .nmeaRate => { g with nmeaRateSet := true }
  | .startMode => { g with startModeSet := true }
  | .infoReport => { g with infoReportSet := true }

section Make

variable (k : GnssSetting) (g : Gnss)

@[simp] theorem make_powerForcedOff : (g.make k).powerForcedOff = g.powerForcedOff := by
  cases k <;> rfl

@[simp] theorem make_configuredEventSent :
    (g.make k).configuredEventSent = g.configuredEventSent := by
  cases k <;> rfl

@[simp] theorem make_pwrNmeaSetupDone : (g.make k).pwrNmeaSetupDone = g.pwrNmeaSetupDone := by
  cases k <;> rfl

@[simp] theorem make_cachedPowerOn : (g.make k).cachedPowerOn = g.cachedPowerOn := by
  cases k <;> rfl

@[simp] theorem make_powerCheckDue (uptime : UInt32) :
    (g.make k).powerCheckDue uptime = g.powerCheckDue uptime := by
  cases k <;> rfl

@[simp] theorem make_pc : (g.make k).pc = g.pc := by
  cases k <;> rfl

theorem make_has (j : GnssSetting) : (g.make k).has j = (j = k ∨ g.has j = true : Bool) := by
  cases k <;> cases j <;> simp [Gnss.make, Gnss.has]

end Make

theorem allConfigured_iff {g : Gnss} : g.allConfigured = true ↔ ∀ k, g.has k = true := by
  constructor
  · intro h k
    simp only [Gnss.allConfigured, Bool.and_eq_true] at h
    cases k <;> simp [Gnss.has, h]
  · intro h
    have hmode := h .mode
    have hrate := h .nmeaRate
    have houtput := h .nmeaOutput
    have hstart := h .startMode
    have hinfo := h .infoReport
    simp only [Gnss.has] at hmode hrate houtput hstart hinfo
    simp [Gnss.allConfigured, hmode, hrate, houtput, hstart, hinfo]

theorem gpsOpsConfigureNmeaOutput_cases (env : GnssEnv) (g : Gnss) :
    (g.has .nmeaOutput = true ∧ gpsOpsConfigureNmeaOutput env g = (true, [], g)) ∨
      ∃ call, call.setting = some .nmeaOutput ∧ g.has .nmeaOutput = false ∧
        gpsOpsConfigureNmeaOutput env g =
          (GnssSetting.madeBy (env.answer call) .nmeaOutput, [.called call (env.answer call)],
            if GnssSetting.madeBy (env.answer call) .nmeaOutput then g.make .nmeaOutput
            else g) := by
  unfold gpsOpsConfigureNmeaOutput
  cases hhas : g.nmeaOutputConfigured with
  | true => exact Or.inl ⟨hhas, rfl⟩
  | false =>
    refine Or.inr ⟨.enableNmeaOutput gpsWalnutNmeaDataGetMode, rfl, hhas, ?_⟩
    cases env.answer (.enableNmeaOutput gpsWalnutNmeaDataGetMode) <;>
      simp [GnssSetting.madeBy, Gnss.make]

/-- A turn tries the lowest setting that is not made. -/
theorem gpsOpsConfigStep_cases (env : GnssEnv) {g : Gnss} (h : g.allConfigured = false) :
    ∃ call k, call.setting = some k ∧ g.has k = false ∧
      (∀ lower ∈ k.lower, g.has lower = true) ∧
      gpsOpsConfigStep env g = ([.called call (env.answer call)],
        if k.madeBy (env.answer call) then g.make k else g) := by
  unfold gpsOpsConfigStep
  by_cases houtput : g.nmeaOutputConfigured = true
  · rw [if_neg (not_not.mpr houtput)]
    by_cases hmode : g.modeSet = true
    · rw [if_neg (not_not.mpr hmode)]
      by_cases hrate : g.nmeaRateSet = true
      · rw [if_neg (not_not.mpr hrate)]
        by_cases hstart : g.startModeSet = true
        · have hinfo : g.infoReportSet = false := by
            simpa [Gnss.allConfigured, houtput, hmode, hrate, hstart] using h
          rw [if_neg (not_not.mpr hstart), if_pos (by simp [hinfo])]
          refine ⟨.setGnssInfoPeriod gpsGnssInfoPeriodS, .infoReport, rfl, hinfo, ?_, ?_⟩
          · simp [GnssSetting.lower, gnssSettings, Gnss.has, houtput, hmode, hrate, hstart]
          · simp [GnssSetting.madeBy, Gnss.make]
        · rw [if_pos hstart]
          refine ⟨.startMode (gnssStartMode env g.config), .startMode, rfl,
            Bool.eq_false_of_not_eq_true hstart, ?_, ?_⟩
          · simp [GnssSetting.lower, gnssSettings, Gnss.has, houtput, hmode, hrate]
          · simp [GnssSetting.madeBy, Gnss.make]
      · rw [if_pos hrate]
        refine ⟨.setNmeaRate gpsNmeaRateDefault, .nmeaRate, rfl,
          Bool.eq_false_of_not_eq_true hrate, ?_, ?_⟩
        · simp [GnssSetting.lower, gnssSettings, Gnss.has, houtput, hmode]
        · simp [GnssSetting.madeBy, Gnss.make]
    · rw [if_pos hmode]
      refine ⟨.setMode gnssTargetMode, .mode, rfl, Bool.eq_false_of_not_eq_true hmode, ?_, ?_⟩
      · simp [GnssSetting.lower, gnssSettings, Gnss.has, houtput]
      · simp [GnssSetting.madeBy, Gnss.make]
  · rw [if_pos houtput]
    rcases gpsOpsConfigureNmeaOutput_cases env g with ⟨hhas, -⟩ | ⟨call, hcall, hhas, hstep⟩
    · exact absurd hhas houtput
    · refine ⟨call, .nmeaOutput, hcall, hhas, ?_, ?_⟩
      · simp [GnssSetting.lower, gnssSettings]
      · rw [hstep]

theorem gpsOpsCanProceedConfig_frame (env : GnssEnv) (g : Gnss) :
    ∃ on uptime, (gpsOpsCanProceedConfig env g).2 =
      { g with cachedPowerOn := on, lastPowerStatusCheckUptime := uptime } := by
  unfold gpsOpsCanProceedConfig
  split
  · exact ⟨_, _, rfl⟩
  · dsimp only
    split <;> exact ⟨_, _, rfl⟩

theorem madeSinceOff_concat (log : List GnssOutput) (o : GnssOutput) :
    madeSinceOff (log ++ [o]) =
      if o.switchesOff then [] else madeSinceOff log ++ o.made.toList := by
  rw [madeSinceOff, List.rtakeWhile_concat]
  cases h : o.switchesOff with
  | true => simp
  | false => cases hmade : o.made <;> simp [madeSinceOff, hmade]

/-! ## The invariant -/

/-- The flags say what the log tells. -/
structure GnssTold (log : List GnssOutput) (g : Gnss) : Prop where
  ordered : InOrder GnssInOrder log
  kept : g.powerForcedOff = false → ∀ k, g.has k = true → k ∈ madeSinceOff log
  once : g.powerForcedOff = false → ∀ k, k.once = true → k ∈ madeSinceOff log → g.has k = true
  off : g.powerForcedOff = true → ∀ k ∈ madeSinceOff log, k = .nmeaOutput
  unsent : g.configuredEventSent = false → .configured ∉ log

namespace GnssTold

variable {log : List GnssOutput} {g g' : Gnss}

/-- A flag may be dropped of a setting that may be repeated. -/
theorem of_has (h : GnssTold log g) (hoff : g'.powerForcedOff = g.powerForcedOff)
    (hsent : g'.configuredEventSent = g.configuredEventSent)
    (hhas : ∀ k, g'.has k = true → g.has k = true)
    (honce : ∀ k, k.once = true → g.has k = true → g'.has k = true) : GnssTold log g' where
  ordered := h.ordered
  kept hon k hk := h.kept (hoff ▸ hon) k (hhas k hk)
  once hon k hk hmade := honce k hk (h.once (hoff ▸ hon) k hk hmade)
  off hforced := h.off (hoff ▸ hforced)
  unsent hno := h.unsent (hsent ▸ hno)

/-- A setting is tried. -/
theorem tried (h : GnssTold log g) {call : GnssCall} {k : GnssSetting} (answer : ModemResult)
    (hcall : call.setting = some k) (hk : g.has k = false)
    (hlower : ∀ lower ∈ k.lower, g.has lower = true)
    (hon : g.powerForcedOff = true → k = .nmeaOutput) :
    GnssTold (log ++ [.called call answer])
      (if k.madeBy answer then g.make k else g) := by
  have hmade : madeSinceOff (log ++ [.called call answer]) =
      madeSinceOff log ++ if k.madeBy answer then [k] else [] := by
    have hswitch : (GnssOutput.called call answer).switchesOff = false := by
      cases call <;> simp_all [GnssOutput.switchesOff, GnssCall.setting]
    rw [madeSinceOff_concat, hswitch, if_neg Bool.false_ne_true]
    cases htaken : k.madeBy answer <;> simp [GnssOutput.made, hcall, htaken]
  have hgood : GnssInOrder log (.called call answer) := by
    intro j hj
    obtain rfl : k = j := Option.some.inj (hcall.symm.trans hj)
    cases hforced : g.powerForcedOff with
    | false =>
      refine ⟨fun lower hlow => h.kept hforced lower (hlower lower hlow), fun honce hmem => ?_⟩
      exact Bool.false_ne_true (hk.symm.trans (h.once hforced k honce hmem))
    | true =>
      obtain rfl := hon hforced
      simp [GnssSetting.lower, gnssSettings, GnssSetting.once]
  refine ⟨inOrder_concat.mpr ⟨h.ordered, hgood⟩, ?_, ?_, ?_, ?_⟩
  · intro hno j hj
    rw [hmade]
    cases htaken : k.madeBy answer with
    | false =>
      rw [htaken, if_neg Bool.false_ne_true] at hno hj
      exact List.mem_append_left _ (h.kept hno j hj)
    | true =>
      rw [htaken, if_pos rfl] at hno hj
      rw [make_powerForcedOff] at hno
      rw [make_has, decide_eq_true_iff] at hj
      rcases hj with rfl | hj
      · simp
      · exact List.mem_append_left _ (h.kept hno j hj)
  · intro hno j honce hj
    rw [hmade] at hj
    cases htaken : k.madeBy answer with
    | false =>
      rw [htaken, if_neg Bool.false_ne_true] at hno hj
      rw [if_neg Bool.false_ne_true]
      exact h.once hno j honce (by simpa using hj)
    | true =>
      rw [htaken, if_pos rfl] at hno hj
      rw [make_powerForcedOff] at hno
      rw [if_pos rfl, make_has, decide_eq_true_iff]
      rcases List.mem_append.mp hj with hj | hj
      · exact Or.inr (h.once hno j honce hj)
      · exact Or.inl (List.mem_singleton.mp hj)
  · intro hforced j hj
    rw [hmade] at hj
    have hforced' : g.powerForcedOff = true := by
      split at hforced
      · simpa using hforced
      · exact hforced
    rcases List.mem_append.mp hj with hj | hj
    · exact h.off hforced' j hj
    · split at hj
      · rw [List.mem_singleton.mp hj]
        exact hon hforced'
      · simp at hj
  · intro hno
    have hno' : g.configuredEventSent = false := by
      split at hno
      · simpa using hno
      · exact hno
    simpa using h.unsent hno'

/-- A call that is about no setting and does not switch the receiver off. -/
theorem called (h : GnssTold log g) {call : GnssCall} {answer : ModemResult}
    (hcall : call.setting = none)
    (hswitch : (GnssOutput.called call answer).switchesOff = false) :
    GnssTold (log ++ [.called call answer]) g := by
  have hmade : madeSinceOff (log ++ [.called call answer]) = madeSinceOff log := by
    rw [madeSinceOff_concat, hswitch, if_neg Bool.false_ne_true]
    simp [GnssOutput.made, hcall]
  have hgood : GnssInOrder log (.called call answer) := by
    intro k hk
    rw [hcall] at hk
    cases hk
  refine ⟨inOrder_concat.mpr ⟨h.ordered, hgood⟩, ?_, ?_, ?_, fun hno => ?_⟩
  · rw [hmade]
    exact h.kept
  · rw [hmade]
    exact h.once
  · rw [hmade]
    exact h.off
  · simpa using h.unsent hno

theorem configureNmeaOutput (h : GnssTold log g) (env : GnssEnv) :
    GnssTold (log ++ (gpsOpsConfigureNmeaOutput env g).2.1)
      (gpsOpsConfigureNmeaOutput env g).2.2 := by
  rcases gpsOpsConfigureNmeaOutput_cases env g with ⟨-, hstep⟩ | ⟨call, hcall, hhas, hstep⟩
  · rw [hstep, List.append_nil]
    exact h
  · rw [hstep]
    exact h.tried _ hcall hhas (by simp [GnssSetting.lower, gnssSettings]) fun _ => rfl

theorem configured (h : GnssTold log g) (hon : g.powerForcedOff = false)
    (hall : g.allConfigured = true) (hunsent : g.configuredEventSent = false) :
    GnssTold (log ++ [.configured]) { g with configuredEventSent := true } := by
  have hmade : madeSinceOff (log ++ [.configured]) = madeSinceOff log := by
    rw [madeSinceOff_concat]
    simp [GnssOutput.switchesOff, GnssOutput.made]
  have hgood : GnssInOrder log .configured :=
    ⟨fun k => h.kept hon k (allConfigured_iff.mp hall k), h.unsent hunsent⟩
  refine ⟨inOrder_concat.mpr ⟨h.ordered, hgood⟩, ?_, ?_, ?_, fun hno => ?_⟩
  · rw [hmade]
    exact h.kept
  · rw [hmade]
    exact h.once
  · rw [hmade]
    exact h.off
  · simp at hno

theorem canProceedConfig (h : GnssTold log g) (env : GnssEnv) :
    GnssTold log (gpsOpsCanProceedConfig env g).2 := by
  obtain ⟨on, uptime, hnext⟩ := gpsOpsCanProceedConfig_frame env g
  rw [hnext]
  exact h.of_has rfl rfl (fun k hk => by cases k <;> exact hk) fun k _ hk => by
    cases k <;> exact hk

theorem retryConfiguration (h : GnssTold log g) (env : GnssEnv) :
    GnssTold (log ++ (gpsOpsRetryConfiguration env g).1) (gpsOpsRetryConfiguration env g).2 := by
  unfold gpsOpsRetryConfiguration
  by_cases hon : g.powerForcedOff = true
  · rw [if_pos hon, List.append_nil]
    exact h
  rw [if_neg hon]
  by_cases hall : g.allConfigured = true
  · rw [if_pos hall]
    by_cases hsent : g.configuredEventSent = true
    · rw [if_neg (not_not.mpr hsent), List.append_nil]
      exact h
    · rw [if_pos hsent]
      exact h.configured (Bool.eq_false_of_not_eq_true hon) hall
        (Bool.eq_false_of_not_eq_true hsent)
  · rw [if_neg hall]
    dsimp only
    have hproceed := h.canProceedConfig env
    obtain ⟨power, uptime, hnext⟩ := gpsOpsCanProceedConfig_frame env g
    split
    · rw [List.append_nil]
      exact hproceed
    · have hall' : (gpsOpsCanProceedConfig env g).2.allConfigured = false := by
        rw [hnext]
        exact Bool.eq_false_of_not_eq_true hall
      obtain ⟨call, k, hcall, hk, hlower, hstep⟩ := gpsOpsConfigStep_cases env hall'
      rw [hstep]
      refine hproceed.tried _ hcall hk hlower fun hforced => ?_
      rw [hnext] at hforced
      exact absurd hforced hon

theorem openAgpsIfNeeded (h : GnssTold log g) (env : GnssEnv) :
    GnssTold (log ++ (gpsOpsOpenAgpsIfNeeded env g).1) (gpsOpsOpenAgpsIfNeeded env g).2 := by
  unfold gpsOpsOpenAgpsIfNeeded
  split
  · rw [List.append_nil]
    exact h
  · have hcalled : GnssTold (log ++ [.called .openAgpsService (env.answer .openAgpsService)]) g :=
      h.called rfl (by simp [GnssOutput.switchesOff])
    dsimp only
    split_ifs <;> exact hcalled.of_has rfl rfl (fun k hk => by cases k <;> exact hk)
      fun k _ hk => by cases k <;> exact hk

theorem turn (h : GnssTold log g) (env : GnssEnv) :
    GnssTold (log ++ (gnssTurn env g).1) (gnssTurn env g).2 := by
  unfold gnssTurn
  apply keeps_andThen (I := GnssTold)
  · exact keeps_andThen (I := GnssTold) (h.retryConfiguration env) fun log g hg =>
      hg.openAgpsIfNeeded env
  · intro log g hg
    rw [List.append_nil]
    unfold gpsOpsAgpsRefreshIfNeeded
    split_ifs <;> exact hg.of_has rfl rfl (fun k hk => by cases k <;> exact hk)
      fun k _ hk => by cases k <;> exact hk

theorem taskStep (h : GnssTold log g) (env : GnssEnv) :
    GnssTold (log ++ (gnssTaskStep env g).1) (gnssTaskStep env g).2 := by
  have hmoved {log : List GnssOutput} {g : Gnss} (hg : GnssTold log g) (pc : GnssPc) :
      GnssTold log { g with pc := pc } :=
    hg.of_has rfl rfl (fun k hk => by cases k <;> exact hk) fun k _ hk => by cases k <;> exact hk
  unfold gnssTaskStep
  cases hpc : g.pc with
  | top =>
    dsimp only
    split
    · exact h.turn env
    · rw [List.append_nil]
      exact hmoved h _
  | powerOn =>
    refine keeps_andThen (I := GnssTold) (h.called rfl ?_) fun log g hg => ?_
    · simp [GnssOutput.switchesOff]
    · split
      · exact hg.turn env
      · rw [List.append_nil]
        exact hmoved hg _
  | stabilized =>
    refine keeps_andThen (I := GnssTold) (h.configureNmeaOutput env) fun log g hg => ?_
    apply turn
    split
    · exact hg.of_has rfl rfl (fun k hk => by cases k <;> exact hk) fun k _ hk => by
        cases k <;> exact hk
    · exact hg

theorem setPowerEnabled (h : GnssTold log g) (on : Bool) (answer : ModemResult) :
    GnssTold (log ++ (gpsOpsSetPowerEnabled on answer g).2.1)
      (gpsOpsSetPowerEnabled on answer g).2.2 := by
  unfold gpsOpsSetPowerEnabled
  by_cases hforced : g.powerForcedOff = true
  · cases on with
    | false => simpa [hforced] using h
    | true =>
      simp only [hforced, if_true, not_true_eq_false, if_false, List.append_nil]
      refine ⟨h.ordered, fun _ k hk => ?_, fun _ k honce hk => ?_,
        fun hno => absurd hno Bool.false_ne_true, h.unsent⟩
      · cases k <;> exact absurd hk Bool.false_ne_true
      · rw [h.off hforced k hk] at honce
        simp [GnssSetting.once] at honce
  · cases on with
    | true => simpa [hforced] using h
    | false =>
      simp only [hforced, if_false, Bool.false_eq_true]
      by_cases hanswer : answer = .success
      · rw [if_neg (not_not.mpr hanswer), hanswer]
        have hmade : madeSinceOff (log ++ [.called (.setPowerStatus false) .success]) = [] := by
          rw [madeSinceOff_concat]
          simp [GnssOutput.switchesOff]
        have hgood : GnssInOrder log (.called (.setPowerStatus false) .success) := by
          intro k hk
          cases hk
        refine ⟨inOrder_concat.mpr ⟨h.ordered, hgood⟩, fun hno => ?_, fun hno => ?_,
          fun _ k hk => ?_, fun hno => by simpa using h.unsent hno⟩
        · simp at hno
        · simp at hno
        · simp [hmade] at hk
      · rw [if_pos hanswer]
        exact h.called rfl (by simp [GnssOutput.switchesOff, hanswer])

theorem step (h : GnssTold log g) (op : GnssOp) :
    GnssTold (log ++ (gnssMachine.step g op).1) (gnssMachine.step g op).2 := by
  cases op with
  | task env => exact h.taskStep env
  | setPowerEnabled on answer => exact h.setPowerEnabled on answer
  | setConfig config =>
    simp only [gnssMachine, List.append_nil]
    refine h.of_has rfl rfl (fun k hk => ?_) fun k honce hk => ?_
    · cases k with
      | startMode => exact (Bool.and_eq_true_iff.mp hk).1
      | _ => exact hk
    · cases k with
      | startMode => simp [GnssSetting.once] at honce
      | _ => exact hk

end GnssTold

end WalnutGateway
