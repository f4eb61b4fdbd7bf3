import WalnutGateway.System.VehicleState

/-!
# The states the GPS module reports

The GPS module learns of ignition, motion and charge by their changes only. A change that
was reported before the module set up its own copy is not reported again, so the copy is
wrong until the state changes once more.
-/

namespace WalnutGateway

/-- The states the GPS module was told of, and what it was last told of the supply. -/
def Gps.latches (g : Gps) : Bool × Bool × Bool × Bool :=
  (g.ignStatus, g.motStatus, g.chargeStatus, g.prevCharge)

namespace Gps

variable (g : Gps)

theorem latches_setIgnitionStatus (on : Bool) :
    (g.setIgnitionStatus on).latches = (on, g.motStatus, g.chargeStatus, g.prevCharge) := by
  unfold setIgnitionStatus
  split
  · rename_i hsame
    rw [latches, hsame]
  · rfl

theorem latches_setMotionStatus (on : Bool) :
    (g.setMotionStatus on).latches = (g.ignStatus, on, g.chargeStatus, g.prevCharge) := by
  unfold setMotionStatus
  split
  · rename_i hsame
    rw [latches, hsame]
  · rfl

theorem latches_setChargeStatus {connected : Bool} (h : connected ≠ g.prevCharge) :
    (g.setChargeStatus connected).latches = (g.ignStatus, g.motStatus, connected, connected) := by
  unfold setChargeStatus
  rw [if_neg h.symm]
  rfl

theorem latches_setSimStatus (available : Bool) :
    (g.setSimStatus available).latches = g.latches := by
  unfold setSimStatus
  split
  · rfl
  · rfl

theorem latches_queryAndParse (env : GpsEnv) : (g.queryAndParse env).2.latches = g.latches := by
  unfold queryAndParse
  split
  · rfl
  · dsimp only
    split
    · rfl
    · split
      · rfl
      · rfl

theorem latches_shouldSend (env : GpsEnv) : (g.shouldSend env).2.latches = g.latches := by
  unfold shouldSend
  split
  · rfl
  · split
    · rfl
    · rfl

theorem latches_backfillSpeedFromMotion (env : GpsEnv) :
    (g.backfillSpeedFromMotion env).latches = g.latches := by
  unfold backfillSpeedFromMotion
  split
  · rfl
  · dsimp only
    split
    · rfl
    · rfl

theorem latches_buildSendPacket (env : GpsEnv) (kind : GpsPacketBuildKind) :
    (g.buildSendPacket env kind).2.latches = g.latches := by
  have hbuilt : (g.buildPositionPacket env kind).2.latches = g.latches := by
    cases kind with
    | current => exact latches_backfillSpeedFromMotion _ env
    | lastValidMerged => rfl
  unfold buildSendPacket
  dsimp only
  split
  · exact hbuilt
  · exact hbuilt

theorem latches_pushTcpPositionMessage (env : GpsEnv) (packet : List Byte) :
    (g.pushTcpPositionMessage env packet).2.latches = g.latches := by
  unfold pushTcpPositionMessage
  split
  · rfl
  · split
    · rfl
    · rfl

/-- The task itself leaves what it was told. -/
theorem latches_gpsTaskEntry (env : GpsEnv) : (gpsTaskEntry env g).2.latches = g.latches := by
  unfold gpsTaskEntry
  split
  · exact g.latches_setSimStatus _
  · exact g.latches_queryAndParse env
  · unfold handleFixTransition
    split
    · rfl
    · rfl
  · exact g.latches_shouldSend env
  · rfl
  · rename_i kind _
    have hbuild := g.latches_buildSendPacket env kind
    split
    · rename_i hnone
      rw [hnone] at hbuild
      exact hbuild
    · rename_i hsome
      rw [hsome] at hbuild
      exact hbuild
  · exact g.latches_pushTcpPositionMessage env _
  · rfl

theorem latches_setPowerEnabled (on ok : Bool) : (g.setPowerEnabled on ok).latches = g.latches := by
  unfold setPowerEnabled
  repeat' split
  all_goals rfl

end Gps

/-! ## Reporting an edge -/

/-- A copy that can only be wrong by being true is right after a step if it was right before
it or the value is true. -/
theorem edge_told_iff {copy value new : Bool} (h : value = true → copy = true) :
    (if new = value then copy else new) = new ↔ copy = value ∨ new = true := by
  cases copy <;> cases value <;> cases new <;> simp_all

/-- The same for a copy that can only be wrong by being false. -/
theorem edge_told_iff_of_imp {copy value new : Bool} (h : copy = true → value = true) :
    (if new = value then copy else new) = new ↔ copy = value ∨ new = false := by
  cases copy <;> cases value <;> cases new <;> simp_all

namespace Vehicle

variable {v : Vehicle}

/-- The GPS module reports what `PowerInfo` holds. -/
structure Mirrored (v : Vehicle) : Prop where
  ignition : v.gps.ignStatus = v.power.ignitionOn
  motion : v.gps.motStatus = v.power.motionOn
  charge : v.gps.chargeStatus = v.power.chargeConnected

instance (v : Vehicle) : Decidable v.Mirrored :=
  decidable_of_iff (v.gps.ignStatus = v.power.ignitionOn ∧ v.gps.motStatus = v.power.motionOn ∧
    v.gps.chargeStatus = v.power.chargeConnected) ⟨fun h => ⟨h.1, h.2.1, h.2.2⟩,
      fun h => ⟨h.1, h.2, h.3⟩⟩

/-- Every edge up to now has been noted, and a copy that is wrong is the one that the GPS
module made up. -/
structure InSync (v : Vehicle) : Prop where
  prevIgn : v.prevIgn = v.power.ignitionOn
  prevMot : v.prevMot = v.power.motionOn
  motionRaw : v.motionRawOn = v.power.motionOn
  prevCharge : v.prevChargeConnected = v.power.chargeConnected
  told : v.gps.prevCharge = v.power.chargeConnected
  ignition : v.power.ignitionOn = true → v.gps.ignStatus = true
  motion : v.power.motionOn = true → v.gps.motStatus = true
  charge : v.gps.chargeStatus = true → v.power.chargeConnected = true

/-- The ignition that a poll of the ADC finds. -/
def ignitionFound (cfg : SystemConfig) (v : Vehicle) : Bool :=
  evalIgnition cfg v.power && cfg.debouncePolls ≤ v.debounced cfg (evalIgnition cfg v.power)

/-- The supply that a poll of the ADC reads, if one is due and its readings succeed. -/
def supplyRead (env : LoopEnv) (v : Vehicle) : Option Vehicle :=
  match env.ignitionMv, env.externalMv, env.vbatMv with
  | some iv, some ev, some bv =>
    if v.adcDue env then some (v.readSupply (adcVolts iv) (adcVolts ev) (adcVolts bv)) else none
  | _, _, _ => none

/-- Where the copy of the ignition is wrong, the iteration finds the ignition on. -/
def IgnitionTold (env : LoopEnv) (v : Vehicle) : Prop :=
  v.gps.ignStatus = v.power.ignitionOn ∨
    ∃ read ∈ v.supplyRead env, read.ignitionFound env.config = true

/-- Where the copy of the motion is wrong, the iteration finds the vehicle moving. -/
def MotionTold (env : LoopEnv) (v : Vehicle) : Prop :=
  v.gps.motStatus = v.power.motionOn ∨
    (∃ read ∈ v.supplyRead env, evalMotionRaw env (read.ignitionFound env.config) v = true) ∨
    (v.adcDue env = false ∧ evalMotionRaw env v.power.ignitionOn v = true)

/-- Where the copy of the charge is wrong, the iteration finds no supply. -/
def ChargeTold (env : LoopEnv) (v : Vehicle) : Prop :=
  v.gps.chargeStatus = v.power.chargeConnected ∨
    ∃ read ∈ v.supplyRead env, read.power.externalVoltage < 3

/-! ## What an iteration does -/

theorem syncMotionAnchor_frame (motionOn : Bool) (v : Vehicle) :
    ∃ lat lon valid, v.syncMotionAnchor motionOn =
      { v with anchorLat := lat, anchorLon := lon, anchorValid := valid } := by
  unfold syncMotionAnchor
  split
  · exact ⟨_, _, _, rfl⟩
  · split
    · exact ⟨_, _, _, rfl⟩
    · exact ⟨_, _, _, rfl⟩

/-- The motion stays as it is or stops, unless it is found. -/
theorem applyMotionStopDebounce_cases (env : LoopEnv) (rawOn : Bool) (v : Vehicle) :
    (rawOn = true ∧ (v.applyMotionStopDebounce env rawOn).1 = true) ∨
    (rawOn = false ∧ ((v.applyMotionStopDebounce env rawOn).1 = v.motionRawOn ∨
      (v.applyMotionStopDebounce env rawOn).1 = false)) := by
  unfold applyMotionStopDebounce
  cases rawOn with
  | true => exact Or.inl ⟨rfl, rfl⟩
  | false =>
    refine Or.inr ⟨rfl, ?_⟩
    rw [if_neg (by simp)]
    generalize (if v.motionStopSinceUptime = 0 then env.uptime else v.motionStopSinceUptime) = since
    dsimp only
    split
    · exact Or.inl rfl
    · exact Or.inr rfl

/-- The edges are told to the GPS module. -/
theorem latches_emitStateEvents (v : Vehicle) :
    v.emitStateEvents.gps.latches =
      (if v.power.ignitionOn = v.prevIgn then v.gps.ignStatus else v.power.ignitionOn,
        if v.power.motionOn = v.prevMot then v.gps.motStatus else v.power.motionOn,
        v.gps.chargeStatus, v.gps.prevCharge) := by
  unfold emitStateEvents
  dsimp only
  have htold : (if v.power.ignitionOn = v.prevIgn then v.gps
      else v.gps.setIgnitionStatus v.power.ignitionOn).latches =
      (if v.power.ignitionOn = v.prevIgn then v.gps.ignStatus else v.power.ignitionOn,
        v.gps.motStatus, v.gps.chargeStatus, v.gps.prevCharge) := by
    split
    · rfl
    · exact v.gps.latches_setIgnitionStatus _
  generalize (if v.power.ignitionOn = v.prevIgn then v.gps
    else v.gps.setIgnitionStatus v.power.ignitionOn) = told at htold
  simp only [Gps.latches, Prod.mk.injEq] at htold
  obtain ⟨hign, hmot, hcharge, hprev⟩ := htold
  split
  · rw [Gps.latches, hign, hmot, hcharge, hprev]
  · rw [Gps.latches_setMotionStatus, hign, hcharge, hprev]

/-- What an iteration makes of the three states: the new values are noted, and an edge is
told to the GPS module. -/
structure Reported (v : Vehicle) (ign mot charge : Bool) (next : Vehicle) : Prop where
  ignitionOn : next.power.ignitionOn = ign
  motionOn : next.power.motionOn = mot
  chargeConnected : next.power.chargeConnected = charge
  prevIgn : next.prevIgn = ign
  prevMot : next.prevMot = mot
  motionRaw : next.motionRawOn = mot
  prevCharge : next.prevChargeConnected = charge
  latches : next.gps.latches =
    (if ign = v.power.ignitionOn then v.gps.ignStatus else ign,
      if mot = v.power.motionOn then v.gps.motStatus else mot,
      if charge = v.power.chargeConnected then v.gps.chargeStatus else charge, charge)

theorem pollMotion_frame (env : LoopEnv) (v : Vehicle) :
    ∃ since lat lon valid, v.pollMotion env =
      { v with
        power := { v.power with
          motionOn := (v.applyMotionStopDebounce env (evalMotionRaw env v.power.ignitionOn v)).1 }
        motionRawOn := (v.applyMotionStopDebounce env (evalMotionRaw env v.power.ignitionOn v)).1
        motionStopSinceUptime := since
        anchorLat := lat
        anchorLon := lon
        anchorValid := valid } := by
  unfold pollMotion
  dsimp only
  generalize v.applyMotionStopDebounce env (evalMotionRaw env v.power.ignitionOn v) = held
  obtain ⟨lat, lon, valid, hanchor⟩ := syncMotionAnchor_frame held.1
    { v with
      power := { v.power with motionOn := held.1 }
      motionRawOn := held.1
      motionStopSinceUptime := held.2 }
  exact ⟨held.2, lat, lon, valid, hanchor⟩

/-- A poll that finds `v` with the supply noted reports the ignition and the motion. -/
theorem reported_poll {env : LoopEnv} (done : Bool) {charge : Bool} {noted : Vehicle}
    (hign : noted.prevIgn = v.power.ignitionOn) (hmot : noted.prevMot = v.power.motionOn)
    (hcharge : noted.power.chargeConnected = charge)
    (hprevCharge : noted.prevChargeConnected = charge)
    (hlatches : noted.gps.latches = (v.gps.ignStatus, v.gps.motStatus,
      if charge = v.power.chargeConnected then v.gps.chargeStatus else charge, charge)) :
    Reported v (if done then noted.ignitionFound env.config else noted.power.ignitionOn)
      (noted.applyMotionStopDebounce env (evalMotionRaw env
        (if done then noted.ignitionFound env.config else noted.power.ignitionOn) noted)).1
      charge (noted.vehicleStatePoll env done) := by
  simp only [Gps.latches, Prod.mk.injEq] at hlatches
  obtain ⟨hignStatus, hmotStatus, hchargeStatus, hprev⟩ := hlatches
  subst hprev
  cases done with
  | true =>
    obtain ⟨since, lat, lon, valid, hpoll⟩ := pollMotion_frame env (noted.pollIgnition env.config)
    simp only [vehicleStatePoll, if_true, hpoll]
    refine ⟨rfl, rfl, hcharge, rfl, rfl, rfl, hprevCharge, ?_⟩
    rw [← hign, ← hmot, ← hignStatus, ← hmotStatus, ← hchargeStatus]
    exact latches_emitStateEvents _
  | false =>
    obtain ⟨since, lat, lon, valid, hpoll⟩ := pollMotion_frame env noted
    simp only [vehicleStatePoll, Bool.false_eq_true, if_false, hpoll]
    refine ⟨rfl, rfl, hcharge, rfl, rfl, rfl, hprevCharge, ?_⟩
    rw [← hign, ← hmot, ← hignStatus, ← hmotStatus, ← hchargeStatus]
    exact latches_emitStateEvents _

/-- A poll leaves the sample and the anchor that motion is judged by. -/
theorem evalMotionRaw_emitCharge (env : LoopEnv) (ign : Bool) (v : Vehicle) :
    evalMotionRaw env ign v.emitCharge = evalMotionRaw env ign v := by
  unfold emitCharge
  split
  · rfl
  · unfold Gps.setChargeStatus
    split
    · rfl
    · rfl

theorem latches_emitCharge {v : Vehicle} (h : v.prevChargeConnected = v.gps.prevCharge) :
    v.emitCharge.gps.latches = (v.gps.ignStatus, v.gps.motStatus,
      if v.power.chargeConnected = v.prevChargeConnected then v.gps.chargeStatus
      else v.power.chargeConnected, v.power.chargeConnected) := by
  unfold emitCharge
  dsimp only
  split
  · rename_i hsame
    rw [Gps.latches, ← h, ← hsame]
  · rename_i hedge
    rw [h] at hedge
    exact v.gps.latches_setChargeStatus hedge

/-- What an iteration can do. -/
inductive Iterated (env : LoopEnv) (v : Vehicle) : Vehicle → Prop
  /-- A poll that is due gets no readings. -/
  | unread (hdue : v.adcDue env = true) (hnone : v.supplyRead env = none) :
    Iterated env v { v with adcPollLastTicks := env.ticks }
  | polled {read next} (hread : v.supplyRead env = some read) (hdue : v.adcDue env = true)
    (hreported : Reported v (read.ignitionFound env.config)
      (v.applyMotionStopDebounce env
        (evalMotionRaw env (read.ignitionFound env.config) v)).1
      read.power.chargeConnected next) : Iterated env v next
  | between {next} (hnone : v.supplyRead env = none) (hdue : v.adcDue env = false)
    (hreported : Reported v v.power.ignitionOn
      (v.applyMotionStopDebounce env (evalMotionRaw env v.power.ignitionOn v)).1
      v.power.chargeConnected next) : Iterated env v next

theorem supplyRead_of_not_due {env : LoopEnv} (h : v.adcDue env = false) :
    v.supplyRead env = none := by
  unfold supplyRead
  split
  · rw [if_neg (by simp [h])]
  · rfl

/-- A poll that reads the supply reports all three states. -/
theorem InSync.reported_supply (h : v.InSync) (env : LoopEnv) (iv ev bv : ℚ) :
    Reported v ((v.readSupply iv ev bv).ignitionFound env.config)
      (v.applyMotionStopDebounce env
        (evalMotionRaw env ((v.readSupply iv ev bv).ignitionFound env.config) v)).1
      (v.readSupply iv ev bv).power.chargeConnected
      ((v.readSupply iv ev bv).emitCharge.vehicleStatePoll env true) := by
  have hlatches : (v.readSupply iv ev bv).emitCharge.gps.latches = _ :=
    latches_emitCharge (h.prevCharge.trans h.told.symm)
  have hnoted : (v.readSupply iv ev bv).emitCharge.gps.latches = (v.gps.ignStatus,
      v.gps.motStatus, if (v.readSupply iv ev bv).power.chargeConnected = v.power.chargeConnected
        then v.gps.chargeStatus else (v.readSupply iv ev bv).power.chargeConnected,
      (v.readSupply iv ev bv).power.chargeConnected) := by
    rw [hlatches]
    change (_, _, if _ = v.prevChargeConnected then _ else _, _) = _
    rw [h.prevCharge]
    rfl
  have hreported := @reported_poll v env true _ (v.readSupply iv ev bv).emitCharge h.prevIgn
    h.prevMot rfl rfl hnoted
  rw [evalMotionRaw_emitCharge] at hreported
  exact hreported

theorem InSync.iterated (h : v.InSync) (env : LoopEnv) :
    Iterated env v (v.systemManagerLoopIteration env) := by
  unfold systemManagerLoopIteration
  cases hdue : v.adcDue env with
  | false =>
    rw [if_neg (by simp)]
    refine .between (supplyRead_of_not_due hdue) hdue ?_
    apply reported_poll false h.prevIgn h.prevMot rfl h.prevCharge
    rw [if_pos rfl, Gps.latches, h.told]
  | true =>
    rw [if_pos rfl]
    unfold systemManagerAdcPoll
    split
    · rename_i iv ev bv hi he hb
      have hread : v.supplyRead env =
          some (v.readSupply (adcVolts iv) (adcVolts ev) (adcVolts bv)) := by
        unfold supplyRead
        simp only [hi, he, hb, hdue, if_true]
      have hsame : InSync { v with adcPollLastTicks := env.ticks } := { h with }
      have hreported := hsame.reported_supply env (adcVolts iv) (adcVolts ev) (adcVolts bv)
      exact .polled hread hdue { hreported with }
    · rename_i hnone
      refine .unread hdue ?_
      unfold supplyRead
      split
      · rename_i hi he hb
        exact absurd hb (hnone _ _ _ hi he)
      · rfl

/-! ## When the copy is right -/

theorem InSync.of_reported (h : v.InSync) {ign mot charge : Bool} {next : Vehicle}
    (hnext : Reported v ign mot charge next) : next.InSync := by
  have hlatches := hnext.latches
  simp only [Gps.latches, Prod.mk.injEq] at hlatches
  obtain ⟨hignStatus, hmotStatus, hchargeStatus, htold⟩ := hlatches
  refine ⟨?_, ?_, ?_, ?_, ?_, ?_, ?_, ?_⟩
  · rw [hnext.prevIgn, hnext.ignitionOn]
  · rw [hnext.prevMot, hnext.motionOn]
  · rw [hnext.motionRaw, hnext.motionOn]
  · rw [hnext.prevCharge, hnext.chargeConnected]
  · rw [htold, hnext.chargeConnected]
  · rw [hnext.ignitionOn, hignStatus]
    intro hon
    split
    · rename_i hsame
      exact h.ignition (hsame.symm.trans hon)
    · exact hon
  · rw [hnext.motionOn, hmotStatus]
    intro hon
    split
    · rename_i hsame
      exact h.motion (hsame.symm.trans hon)
    · exact hon
  · rw [hnext.chargeConnected, hchargeStatus]
    split
    · rename_i hsame
      rw [hsame]
      exact h.charge
    · exact id

/-- The copy is right after what was reported, if it was right before or an edge made it so. -/
theorem InSync.mirrored_iff (h : v.InSync) {ign mot charge : Bool} {next : Vehicle}
    (hnext : Reported v ign mot charge next) :
    next.Mirrored ↔ (v.gps.ignStatus = v.power.ignitionOn ∨ ign = true) ∧
      (v.gps.motStatus = v.power.motionOn ∨ mot = true) ∧
      (v.gps.chargeStatus = v.power.chargeConnected ∨ charge = false) := by
  have hlatches := hnext.latches
  simp only [Gps.latches, Prod.mk.injEq] at hlatches
  obtain ⟨hignStatus, hmotStatus, hchargeStatus, -⟩ := hlatches
  rw [← edge_told_iff h.ignition, ← edge_told_iff h.motion, ← edge_told_iff_of_imp h.charge,
    ← hignStatus, ← hmotStatus, ← hchargeStatus]
  constructor
  · rintro ⟨hign, hmot, hcharge⟩
    exact ⟨hign.trans hnext.ignitionOn, hmot.trans hnext.motionOn,
      hcharge.trans hnext.chargeConnected⟩
  · rintro ⟨hign, hmot, hcharge⟩
    exact ⟨hign.trans hnext.ignitionOn.symm, hmot.trans hnext.motionOn.symm,
      hcharge.trans hnext.chargeConnected.symm⟩

/-- Where the copy of the motion is wrong, only a motion that is found makes it right. -/
theorem InSync.motion_iff (h : v.InSync) (env : LoopEnv) (rawOn : Bool) :
    (v.gps.motStatus = v.power.motionOn ∨ (v.applyMotionStopDebounce env rawOn).1 = true) ↔
      (v.gps.motStatus = v.power.motionOn ∨ rawOn = true) := by
  apply or_congr_right'
  intro hwrong
  have hstill : v.power.motionOn = false := by
    rw [← Bool.not_eq_true]
    intro hon
    exact hwrong ((h.motion hon).trans hon.symm)
  rcases applyMotionStopDebounce_cases env rawOn v with ⟨hraw, hmot⟩ | ⟨hraw, hmot | hmot⟩
  · rw [hmot, hraw]
  · rw [hmot, hraw, h.motionRaw, hstill]
  · rw [hmot, hraw]

theorem chargeConnected_of_supplyRead {env : LoopEnv} {read : Vehicle}
    (h : v.supplyRead env = some read) :
    read.power.chargeConnected = decide (3 ≤ read.power.externalVoltage) := by
  unfold supplyRead at h
  split at h
  · split at h
    · cases h
      rfl
    · contradiction
  · contradiction

/-- After an iteration the copy is right if it was right before, or the iteration tells of an
edge. -/
theorem InSync.mirrored_iteration_iff (h : v.InSync) (env : LoopEnv) :
    (v.systemManagerLoopIteration env).Mirrored ↔
      v.IgnitionTold env ∧ v.MotionTold env ∧ v.ChargeTold env := by
  have hiterated := h.iterated env
  generalize v.systemManagerLoopIteration env = next at hiterated
  unfold IgnitionTold MotionTold ChargeTold
  cases hiterated with
  | unread hdue hnone =>
    simp only [hnone, hdue]
    constructor
    · rintro ⟨hign, hmot, hcharge⟩
      exact ⟨Or.inl hign, Or.inl hmot, Or.inl hcharge⟩
    · rintro ⟨hign, hmot, hcharge⟩
      refine ⟨?_, ?_, ?_⟩
      · simpa using hign
      · simpa using hmot
      · simpa using hcharge
  | polled hread hdue hreported =>
    rw [h.mirrored_iff hreported, h.motion_iff, chargeConnected_of_supplyRead hread]
    simp [hread, hdue]
  | between hnone hdue hreported =>
    rw [h.mirrored_iff hreported, h.motion_iff]
    have hign : v.power.ignitionOn = true → v.gps.ignStatus = v.power.ignitionOn :=
      fun hon => (h.ignition hon).trans hon.symm
    have hcharge : v.power.chargeConnected = false →
        v.gps.chargeStatus = v.power.chargeConnected := by
      intro hoff
      rw [hoff, ← Bool.not_eq_true]
      intro hcopy
      rw [h.charge hcopy] at hoff
      contradiction
    rw [or_iff_left_of_imp hign, or_iff_left_of_imp hcharge]
    simp [hnone, hdue]

theorem InSync.iteration (h : v.InSync) (env : LoopEnv) :
    (v.systemManagerLoopIteration env).InSync := by
  have hiterated := h.iterated env
  generalize v.systemManagerLoopIteration env = next at hiterated
  cases hiterated with
  | unread hdue hnone => exact { h with }
  | polled hread hdue hreported => exact h.of_reported hreported
  | between hnone hdue hreported => exact h.of_reported hreported

/-- The GPS task leaves its copy alone. -/
theorem InSync.of_latches (h : v.InSync) {gps : Gps} (hsame : gps.latches = v.gps.latches) :
    InSync { v with gps := gps } := by
  simp only [Gps.latches, Prod.mk.injEq] at hsame
  obtain ⟨hign, hmot, hcharge, htold⟩ := hsame
  exact ⟨h.prevIgn, h.prevMot, h.motionRaw, h.prevCharge, htold.trans h.told,
    fun hon => hign.trans (h.ignition hon), fun hon => hmot.trans (h.motion hon),
    fun hon => h.charge (hcharge.symm.trans hon)⟩

theorem InSync.step (h : v.InSync) (e : SystemEvent) : (vehicleMachine.step v e).2.InSync := by
  cases e with
  | loopIteration env => exact h.iteration env
  | gpsTask env => exact h.of_latches (v.gps.latches_gpsTaskEntry env)
  | gpsSetConfig config => exact h.of_latches rfl
  | gpsSetPowerEnabled on ok => exact h.of_latches (v.gps.latches_setPowerEnabled on ok)

/-- The poll that primes the states notes their edges, whatever it finds. -/
theorem inSync_boot (config : GpsConfig) (env : LoopEnv) (restored : Option GpsPacket) :
    (boot config env restored).InSync := by
  have hzeroed : (zeroed config).InSync :=
    ⟨rfl, rfl, rfl, rfl, rfl, fun h => h, fun h => h, fun h => h⟩
  have hprimed : ((zeroed config).systemManagerAdcPoll env).InSync := by
    unfold systemManagerAdcPoll
    split
    · exact hzeroed.of_reported (hzeroed.reported_supply env _ _ _)
    · exact hzeroed
  exact ⟨hprimed.prevIgn, hprimed.prevMot, hprimed.motionRaw, hprimed.prevCharge, hprimed.told,
    fun _ => rfl, fun _ => rfl, fun hon => Bool.noConfusion hon⟩

/-- After an iteration of the main loop the GPS module reports what `PowerInfo` holds. -/
def ReportsState (v : Vehicle) (e : SystemEvent) : Prop :=
  match e with
  | .loopIteration env => (v.systemManagerLoopIteration env).Mirrored
  | _ => True

/-- Each copy is right before an iteration of the main loop, or the iteration finds the
ignition on, the vehicle moving, or the supply gone. -/
def TellsState (v : Vehicle) (e : SystemEvent) : Prop :=
  match e with
  | .loopIteration env => v.IgnitionTold env ∧ v.MotionTold env ∧ v.ChargeTold env
  | _ => True

instance (v : Vehicle) : (e : SystemEvent) → Decidable (v.ReportsState e)
  | .loopIteration env => inferInstanceAs (Decidable (v.systemManagerLoopIteration env).Mirrored)
  | .gpsTask _ | .gpsSetConfig _ | .gpsSetPowerEnabled .. => isTrue True.intro

/-- The GPS module reports the state of the vehicle after every iteration of a run if and only
if its own copy is right, or made right, at every iteration. -/
theorem gps_mirror_iff (config : GpsConfig) (env : LoopEnv) (restored : Option GpsPacket)
    (es : List SystemEvent) :
    vehicleMachine.Along ReportsState (boot config env restored) es ↔
      vehicleMachine.Along TellsState (boot config env restored) es := by
  apply vehicleMachine.along_congr (I := InSync)
  · exact fun v e h _ => h.step e
  · intro v e h
    cases e with
    | loopIteration env => exact h.mirrored_iteration_iff env
    | _ => exact Iff.rfl
  · exact inSync_boot config env restored

/-- The supply connected and the ignition off, at some tick. -/
def parkedOnSupply (ticks : UInt32) : LoopEnv where
  ticks := ticks
  uptime := ticks / 1000
  config := systemConfigGetDefaults
  ignitionMv := some 0
  externalMv := some 92
  vbatMv := some 4000
  distance := fun _ _ _ _ => 0

/-- A device that boots on its supply, parked: the GPS module reports the ignition and motion
on and the charge off. -/
theorem parked_reported_moving :
    ¬ ∀ (config : GpsConfig) (env : LoopEnv) (restored : Option GpsPacket)
      (es : List SystemEvent),
      vehicleMachine.Along ReportsState (boot config env restored) es := by
  intro h
  have hrun := h gpsConfigGetDefaults (parkedOnSupply 1000) none
    [.loopIteration (parkedOnSupply 3000)]
  revert hrun
  decide +kernel

end Vehicle

end WalnutGateway
