import WalnutGateway.System.VehicleState

/-!
# The debounce of ignition and motion

Ignition is counted in polls of the ADC, motion is held by a clock of whole seconds that is
divided from the tick counter. Both thresholds may change between any two polls. A run keeps
beside the vehicle what the law is about: the polls in a row that found the ignition on, the
number of them the last poll asked for, and when the motion was last found on.
-/

namespace WalnutGateway

/-- A call of `vehicle_state_poll`, and what it finds. -/
structure PollCall where
  /-- Milliseconds since the call before. -/
  elapsedMs : Nat
  adcPollDone : Bool
  config : SystemConfig
  externalVoltage : ℚ
  inputWireVoltage : ℚ
  gps : Gps
  distance : ℚ → ℚ → ℚ → ℚ → ℚ

/-- The vehicle after some calls, and what the law says of them. -/
structure PollRun where
  vehicle : Vehicle
  /-- Milliseconds since the tick counter started. -/
  timeMs : Nat
  /-- The last polls of the ADC that all found the ignition on. -/
  rawOnPolls : Nat
  /-- `debounce_polls` at the last poll of the ADC. -/
  debouncePolls : UInt8
  /-- The last poll that found the motion on. -/
  motionOnAt : Option Nat

/-- `utils_get_uptime_seconds` at a time. -/
def uptimeSeconds (timeMs : Nat) : UInt32 := UInt32.ofNat timeMs / 1000

/-- Two times between which the tick counter does not wrap. -/
def SameTurn (s t : Nat) : Prop := s / 2 ^ 32 = t / 2 ^ 32

instance (s t : Nat) : Decidable (SameTurn s t) := inferInstanceAs (Decidable (_ = _))

/-- The uptime does not go back within a turn of the tick counter. -/
theorem uptimeSeconds_mono {s t : Nat} (hle : s ≤ t) (h : SameTurn s t) :
    (uptimeSeconds s).toNat ≤ (uptimeSeconds t).toNat := by
  have hsplit : ∀ n, (uptimeSeconds n).toNat = n % 2 ^ 32 / 1000 := fun n => by
    simp only [uptimeSeconds, UInt32.toNat_div, UInt32.toNat_ofNat']
    rfl
  rw [hsplit, hsplit]
  unfold SameTurn at h
  omega

theorem SameTurn.mid {s t u : Nat} (h : SameTurn s u) (hst : s ≤ t) (htu : t ≤ u) :
    SameTurn s t ∧ SameTurn t u := by
  unfold SameTurn at *
  omega

namespace PollRun

/-- A gateway that has just started. -/
def boot (config : GpsConfig) : PollRun := ⟨.zeroed config, 0, 0, 0, none⟩

/-- The time of a call. -/
def now (r : PollRun) (c : PollCall) : Nat := r.timeMs + c.elapsedMs

/-- What a call finds in the environment. -/
def env (r : PollRun) (c : PollCall) : LoopEnv where
  ticks := UInt32.ofNat (r.now c)
  uptime := uptimeSeconds (r.now c)
  config := c.config
  ignitionMv := none
  externalMv := none
  vbatMv := none
  distance := c.distance

/-- The vehicle with the readings and the position of a call. -/
def fed (r : PollRun) (c : PollCall) : Vehicle :=
  { r.vehicle with
    gps := c.gps
    power := { r.vehicle.power with
      externalVoltage := c.externalVoltage
      inputWireVoltage := c.inputWireVoltage } }

/-- The ignition before the debounce. -/
def rawIgnition (r : PollRun) (c : PollCall) : Bool := evalIgnition c.config (r.fed c).power

/-- The vehicle when the motion is evaluated. -/
def ignited (r : PollRun) (c : PollCall) : Vehicle :=
  if c.adcPollDone then (r.fed c).pollIgnition c.config else r.fed c

/-- The motion before the debounce. -/
def rawMotion (r : PollRun) (c : PollCall) : Bool :=
  evalMotionRaw (r.env c) (r.ignited c).power.ignitionOn (r.ignited c)

/-- A call of `vehicle_state_poll`. -/
def poll (r : PollRun) (c : PollCall) : PollRun where
  vehicle := (r.fed c).vehicleStatePoll (r.env c) c.adcPollDone
  timeMs := r.now c
  rawOnPolls :=
    if ¬ c.adcPollDone then r.rawOnPolls else if r.rawIgnition c then r.rawOnPolls + 1 else 0
  debouncePolls := if c.adcPollDone then c.config.debouncePolls else r.debouncePolls
  motionOnAt := if r.rawMotion c then some (r.now c) else r.motionOnAt

end PollRun

/-- The calls of a gateway, one after the other. -/
def pollMachine : Machine PollRun PollCall Unit where
  step r c := ((), r.poll c)

/-- What a call may make of the ignition and of the motion. -/
structure DebouncedCall (r : PollRun) (c : PollCall) : Prop where
  ignition_on : r.vehicle.power.ignitionOn = false →
    (r.poll c).vehicle.power.ignitionOn = true →
    c.adcPollDone = true ∧ r.rawIgnition c = true ∧
      c.config.debouncePolls.toNat ≤ (r.poll c).rawOnPolls
  /-- A call that raises `debounce_polls` asks for a longer run. -/
  ignition_off : r.vehicle.power.ignitionOn = true →
    (r.poll c).vehicle.power.ignitionOn = false →
    c.adcPollDone = true ∧ (r.rawIgnition c = false ∨ r.debouncePolls < c.config.debouncePolls)
  motion_on : r.rawMotion c = true → (r.poll c).vehicle.power.motionOn = true
  motion_rises : r.vehicle.power.motionOn = false →
    (r.poll c).vehicle.power.motionOn = true → r.rawMotion c = true
  /-- All the polls since the last that found the motion on have found it off. -/
  motion_off : r.vehicle.power.motionOn = true → (r.poll c).vehicle.power.motionOn = false →
    ∀ t ∈ (r.poll c).motionOnAt, SameTurn t (r.now c) →
      (uptimeSeconds t).toNat + c.config.motStopDebounceSec.toNat ≤
        (uptimeSeconds (r.now c)).toNat

/-! ## What a call leaves -/

namespace PollRun

variable {r : PollRun} {c : PollCall}

theorem syncMotionAnchor_power (b : Bool) (v : Vehicle) :
    (v.syncMotionAnchor b).power = v.power := by
  unfold Vehicle.syncMotionAnchor
  split
  · rfl
  · split <;> rfl

theorem syncMotionAnchor_debounce (b : Bool) (v : Vehicle) :
    (v.syncMotionAnchor b).ignDebounceCount = v.ignDebounceCount ∧
      (v.syncMotionAnchor b).motionRawOn = v.motionRawOn ∧
      (v.syncMotionAnchor b).motionStopSinceUptime = v.motionStopSinceUptime := by
  unfold Vehicle.syncMotionAnchor
  split
  · exact ⟨rfl, rfl, rfl⟩
  · split <;> exact ⟨rfl, rfl, rfl⟩

/-- The motion that a call leaves, and the start of the stop that it remembers. -/
def held (r : PollRun) (c : PollCall) : Bool × UInt32 :=
  (r.ignited c).applyMotionStopDebounce (r.env c) (r.rawMotion c)

theorem poll_ignitionOn :
    (r.poll c).vehicle.power.ignitionOn = (r.ignited c).power.ignitionOn :=
  (congrArg PowerInfo.ignitionOn (syncMotionAnchor_power _ _)).trans rfl

theorem poll_motionOn : (r.poll c).vehicle.power.motionOn = (r.held c).1 :=
  congrArg PowerInfo.motionOn (syncMotionAnchor_power _ _)

theorem poll_ignDebounceCount :
    (r.poll c).vehicle.ignDebounceCount = (r.ignited c).ignDebounceCount :=
  (syncMotionAnchor_debounce _ _).1

theorem poll_motionRawOn : (r.poll c).vehicle.motionRawOn = (r.held c).1 :=
  (syncMotionAnchor_debounce _ _).2.1

theorem poll_motionStopSinceUptime :
    (r.poll c).vehicle.motionStopSinceUptime = (r.held c).2 :=
  (syncMotionAnchor_debounce _ _).2.2

/-! ## Ignition -/

/-- A call without data of the ADC leaves the ignition. -/
theorem ignited_of_not_adc (h : ¬ c.adcPollDone = true) : r.ignited c = r.fed c := if_neg h

/-- The counter after a poll of the ADC. -/
theorem ignited_count (h : c.adcPollDone = true) :
    (r.ignited c).ignDebounceCount =
      if r.rawIgnition c then
        if r.vehicle.ignDebounceCount < c.config.debouncePolls then r.vehicle.ignDebounceCount + 1
        else r.vehicle.ignDebounceCount
      else 0 := by
  rw [ignited, if_pos h]
  rfl

/-- The ignition is on when the ADC finds it on and the counter is full. -/
theorem ignited_on (h : c.adcPollDone = true) :
    (r.ignited c).power.ignitionOn = true ↔
      r.rawIgnition c = true ∧ c.config.debouncePolls ≤ (r.ignited c).ignDebounceCount := by
  rw [ignited, if_pos h]
  refine Bool.and_eq_true_iff.trans (and_congr Iff.rfl ?_)
  exact decide_eq_true_iff

/-- The counter counts polls of the last run of them that found the ignition on. -/
structure IgnitionCounts (r : PollRun) : Prop where
  count_le : r.vehicle.ignDebounceCount.toNat ≤ r.rawOnPolls
  on_le : r.vehicle.power.ignitionOn = true → r.debouncePolls ≤ r.vehicle.ignDebounceCount

theorem IgnitionCounts.poll (h : r.IgnitionCounts) (c : PollCall) : (r.poll c).IgnitionCounts := by
  by_cases hadc : c.adcPollDone = true
  · have hrun : (r.poll c).rawOnPolls = if r.rawIgnition c then r.rawOnPolls + 1 else 0 :=
      if_neg (not_not.mpr hadc)
    constructor
    · rw [poll_ignDebounceCount, ignited_count hadc, hrun]
      have hcount := h.count_le
      split
      · split
        · rw [UInt8.toNat_add]
          exact (Nat.mod_le _ _).trans (Nat.succ_le_succ hcount)
        · omega
      · exact le_rfl
    · intro hon
      rw [poll_ignitionOn] at hon
      rw [poll_ignDebounceCount]
      have hpolls : (r.poll c).debouncePolls = c.config.debouncePolls := if_pos hadc
      rw [hpolls]
      exact ((ignited_on hadc).mp hon).2
  · have hfed := ignited_of_not_adc (r := r) hadc
    constructor
    · have hrun : (r.poll c).rawOnPolls = r.rawOnPolls := if_pos hadc
      rw [poll_ignDebounceCount, hfed, hrun]
      exact h.count_le
    · intro hon
      rw [poll_ignitionOn, hfed] at hon
      have hpolls : (r.poll c).debouncePolls = r.debouncePolls := if_neg hadc
      rw [poll_ignDebounceCount, hfed, hpolls]
      exact h.on_le hon

/-! ## Motion -/

/-- The start of a stop that is remembered lies after the last poll that found the motion on. -/
structure MotionHeld (r : PollRun) : Prop where
  raw_eq : r.vehicle.motionRawOn = r.vehicle.power.motionOn
  on_le : ∀ t ∈ r.motionOnAt, t ≤ r.timeMs
  since : r.vehicle.motionStopSinceUptime ≠ 0 →
    ∃ t ≤ r.timeMs, r.vehicle.motionStopSinceUptime = uptimeSeconds t ∧
      ∀ s ∈ r.motionOnAt, s ≤ t

/-- The debounce counts from the stop that it remembers, or else from the call. -/
def stopSince (r : PollRun) (c : PollCall) : UInt32 :=
  if r.vehicle.motionStopSinceUptime = 0 then uptimeSeconds (r.now c)
  else r.vehicle.motionStopSinceUptime

theorem ignited_motionStop : (r.ignited c).motionStopSinceUptime = r.vehicle.motionStopSinceUptime ∧
    (r.ignited c).motionRawOn = r.vehicle.motionRawOn := by
  unfold ignited
  split <;> exact ⟨rfl, rfl⟩

theorem held_of_raw (h : r.rawMotion c = true) : r.held c = (true, 0) := if_pos h

theorem held_of_not_raw (h : ¬ r.rawMotion c = true) :
    r.held c =
      if r.stopSince c ≤ uptimeSeconds (r.now c) ∧
          uptimeSeconds (r.now c) - r.stopSince c < c.config.motStopDebounceSec then
        (r.vehicle.motionRawOn, r.stopSince c)
      else (false, r.stopSince c) := by
  rw [held, Vehicle.applyMotionStopDebounce, if_neg h, ignited_motionStop.1, ignited_motionStop.2]
  rfl

theorem held_since_of_not_raw (h : ¬ r.rawMotion c = true) : (r.held c).2 = r.stopSince c := by
  rw [held_of_not_raw h]
  split <;> rfl

/-- The stop that a call counts from lies after the last poll that found the motion on. -/
theorem MotionHeld.stopSince (h : r.MotionHeld) (c : PollCall) :
    ∃ t ≤ r.now c, r.stopSince c = uptimeSeconds t ∧ ∀ s ∈ r.motionOnAt, s ≤ t := by
  unfold PollRun.stopSince
  by_cases hzero : r.vehicle.motionStopSinceUptime = 0
  · rw [if_pos hzero]
    exact ⟨r.now c, le_rfl, rfl, fun s hs => (h.on_le s hs).trans (Nat.le_add_right _ _)⟩
  · rw [if_neg hzero]
    obtain ⟨t, ht, hsince, hlast⟩ := h.since hzero
    exact ⟨t, ht.trans (Nat.le_add_right _ _), hsince, hlast⟩

theorem MotionHeld.poll (h : r.MotionHeld) (c : PollCall) : (r.poll c).MotionHeld := by
  have htime : (r.poll c).timeMs = r.now c := rfl
  by_cases hraw : r.rawMotion c = true
  · have hon : (r.poll c).motionOnAt = some (r.now c) := if_pos hraw
    refine ⟨?_, ?_, ?_⟩
    · rw [poll_motionRawOn, poll_motionOn]
    · intro t ht
      rw [hon, Option.mem_some_iff] at ht
      exact ht.symm.le
    · intro hsince
      rw [poll_motionStopSinceUptime, held_of_raw hraw] at hsince
      exact absurd rfl hsince
  · have hon : (r.poll c).motionOnAt = r.motionOnAt := if_neg hraw
    refine ⟨?_, ?_, ?_⟩
    · rw [poll_motionRawOn, poll_motionOn]
    · intro t ht
      rw [hon] at ht
      exact (h.on_le t ht).trans (Nat.le_add_right _ _)
    · intro _
      rw [poll_motionStopSinceUptime, held_since_of_not_raw hraw, hon, htime]
      exact h.stopSince c

end PollRun

/-! ## The law -/

open PollRun

theorem debouncedCall {r : PollRun} (hign : r.IgnitionCounts) (hmot : r.MotionHeld) (c : PollCall) :
    DebouncedCall r c where
  ignition_on := by
    intro hoff hon
    have hnext := hign.poll c
    rw [poll_ignitionOn] at hon
    by_cases hadc : c.adcPollDone = true
    · obtain ⟨hraw, hfull⟩ := (ignited_on hadc).mp hon
      refine ⟨hadc, hraw, le_trans ?_ hnext.count_le⟩
      rw [poll_ignDebounceCount]
      exact UInt8.le_iff_toNat_le.mp hfull
    · rw [ignited_of_not_adc hadc] at hon
      exact absurd (hon.symm.trans hoff) (by decide)
  ignition_off := by
    intro hon hoff
    rw [poll_ignitionOn] at hoff
    by_cases hadc : c.adcPollDone = true
    · refine ⟨hadc, ?_⟩
      by_contra hnot
      obtain ⟨hraw, hpolls⟩ := not_or.mp hnot
      rw [Bool.not_eq_false] at hraw
      have hcount := hign.on_le hon
      have hfull : c.config.debouncePolls ≤ (r.ignited c).ignDebounceCount := by
        rw [ignited_count hadc, if_pos hraw]
        have hle := UInt8.le_trans (UInt8.not_lt.mp hpolls) hcount
        rw [if_neg (UInt8.not_lt.mpr hle)]
        exact hle
      exact absurd (((ignited_on hadc).mpr ⟨hraw, hfull⟩).symm.trans hoff) (by decide)
    · rw [ignited_of_not_adc hadc] at hoff
      exact absurd (hon.symm.trans hoff) (by decide)
  motion_on := by
    intro hraw
    rw [poll_motionOn, held_of_raw hraw]
  motion_rises := by
    intro hoff hon
    by_contra hraw
    rw [poll_motionOn, held_of_not_raw hraw] at hon
    split at hon
    · exact absurd (hon.symm.trans (hmot.raw_eq.trans hoff)) (by decide)
    · exact Bool.noConfusion hon
  motion_off := by
    intro hon hoff t ht hturn
    rw [poll_motionOn] at hoff
    by_cases hraw : r.rawMotion c = true
    · rw [held_of_raw hraw] at hoff
      exact absurd hoff (by decide)
    · have hlast : (r.poll c).motionOnAt = r.motionOnAt := if_neg hraw
      rw [hlast] at ht
      obtain ⟨u, hu, hsince, hafter⟩ := hmot.stopSince c
      have hturns := hturn.mid (hafter t ht) hu
      have htu := uptimeSeconds_mono (hafter t ht) hturns.1
      have hunow := uptimeSeconds_mono hu hturns.2
      rw [held_of_not_raw hraw, hsince] at hoff
      split at hoff
      · exact absurd (hon.symm.trans (hmot.raw_eq.symm.trans hoff)) (by decide)
      · rename_i hpassed
        have hle : uptimeSeconds u ≤ uptimeSeconds (r.now c) := UInt32.le_iff_toNat_le.mpr hunow
        have hlong := UInt32.not_lt.mp fun hlt => hpassed ⟨hle, hlt⟩
        rw [UInt32.le_iff_toNat_le, UInt32.toNat_sub_of_le _ _ hle] at hlong
        omega

/-- Whatever the calls find, whenever they come and however the thresholds change: ignition
comes on with a full run of polls and goes off with a poll that finds it off or asks for more;
motion comes on at once and goes off when the seconds of its debounce have passed since it was
last found on. -/
theorem ignition_and_motion_debounce (config : GpsConfig) (calls : List PollCall) :
    pollMachine.Along DebouncedCall (.boot config) calls := by
  have hboot : (PollRun.boot config).IgnitionCounts ∧ (PollRun.boot config).MotionHeld :=
    ⟨⟨le_rfl, fun h => (nomatch h)⟩, ⟨rfl, fun _ h => (nomatch h), fun h => absurd rfl h⟩⟩
  refine Machine.Along.mono_of_invariant
    (P := fun _ _ => True) (I := fun r => r.IgnitionCounts ∧ r.MotionHeld)
    (fun r c h _ => ⟨h.1.poll c, h.2.poll c⟩) (fun r c h _ => debouncedCall h.1 h.2 c) hboot
    (Machine.Along.trivial _ _ _)

/-! ## Where the thresholds show -/

/-- What `system_config_validate` asks of these settings. -/
def SystemConfig.Accepted (c : SystemConfig) : Prop :=
  c.wireOffV < c.wireOnV ∧ c.softLoV < c.softHiV ∧ c.debouncePolls ≠ 0 ∧ 0 ≤ c.motSpdKmh ∧
    0 ≤ c.motDistM ∧ c.motStopDebounceSec ≠ 0

instance (c : SystemConfig) : Decidable c.Accepted := inferInstanceAs (Decidable (_ ∧ _))

/-- The defaults with other thresholds. -/
def thresholds (debouncePolls : UInt8) (motStopDebounceSec : UInt32) : SystemConfig :=
  { systemConfigGetDefaults with
    debouncePolls := debouncePolls
    motStopDebounceSec := motStopDebounceSec }

/-- A poll of the ADC that reads a voltage on the ignition wire. -/
def wirePoll (elapsedMs : Nat) (volts : ℚ) (config : SystemConfig) : PollCall :=
  ⟨elapsedMs, true, config, 12, volts, .zeroed gpsConfigGetDefaults, fun _ _ _ _ => 0⟩

/-- The gateway after some calls. -/
def afterPolls (calls : List PollCall) : PollRun :=
  (pollMachine.run (.boot gpsConfigGetDefaults) calls).2

/-- With the ignition on after two polls, a third asks for four. -/
def raisedPolls : List PollCall :=
  [wirePoll 1000 12 (thresholds 2 1), wirePoll 2000 12 (thresholds 2 1),
    wirePoll 2000 12 (thresholds 4 1)]

/-- A stop that starts at the end of a second of the uptime. -/
def stopsLate : List PollCall :=
  [wirePoll 1500 12 (thresholds 1 1), wirePoll 499 0 (thresholds 1 1),
    wirePoll 1 0 (thresholds 1 1)]

/-- A stop while the tick counter wraps. -/
def stopsAtWrap : List PollCall :=
  [wirePoll 4294964296 12 (thresholds 1 60), wirePoll 1000 0 (thresholds 1 60),
    wirePoll 2000 0 (thresholds 1 60)]

/-- The third poll finds the ignition on and turns it off. A motion last found on half a second
ago is over, with a debounce of a second; one last found on three seconds ago is over, with a
debounce of a minute. -/
theorem ignition_and_motion_debounce_thresholds :
    ((thresholds 2 1).Accepted ∧ (thresholds 4 1).Accepted ∧ (thresholds 1 1).Accepted ∧
      (thresholds 1 60).Accepted) ∧
    ((afterPolls (raisedPolls.take 2)).vehicle.power.ignitionOn = true ∧
      (afterPolls (raisedPolls.take 2)).rawIgnition (wirePoll 2000 12 (thresholds 4 1)) = true ∧
      (afterPolls raisedPolls).vehicle.power.ignitionOn = false) ∧
    ((afterPolls (stopsLate.take 2)).vehicle.power.motionOn = true ∧
      (afterPolls stopsLate).vehicle.power.motionOn = false ∧
      (afterPolls stopsLate).timeMs = 2000 ∧ (afterPolls stopsLate).motionOnAt = some 1500) ∧
    ((afterPolls (stopsAtWrap.take 2)).vehicle.power.motionOn = true ∧
      (afterPolls stopsAtWrap).vehicle.power.motionOn = false ∧
      (afterPolls stopsAtWrap).timeMs = 4294967296 ∧
      (afterPolls stopsAtWrap).motionOnAt = some 4294964296) := by
  decide +kernel

end WalnutGateway
