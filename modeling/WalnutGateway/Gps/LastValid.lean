import WalnutGateway.Gps.SendTrigger

/-!
# The last valid record

`last_valid_gps_data` is meant to be the last position sent. It is written when the fix is
acquired and when a packet is built, each time before the packet is pushed and whatever the
sample is worth; a merged packet takes the time of the sample into it.
-/

namespace WalnutGateway

/-- Latitude and longitude. -/
def GpsPacket.position (p : GpsPacket) : ℚ × ℚ := (p.latitudeDeg, p.longitudeDeg)

/-- What a step is to the record. -/
inductive RecordStepKind
  /-- The fix is acquired. -/
  | acquire
  | build (kind : GpsPacketBuildKind)
  | push (answer : Option Result)
  /-- The end of a pass. -/
  | last
  | other
  deriving DecidableEq

/-- The kind of a step. -/
def recordStepKind (g : Gps) (e : GpsEvent) : RecordStepKind :=
  match e with
  | .task env =>
    match g.pc with
    | .fixTransition => if g.processFixTransition = .connected then .acquire else .other
    | .shouldSend => if (g.shouldSend env).1 then .other else .last
    | .build kind => .build kind
    | .push _ => .push env.sendQueue
    | .clear => .last
    | _ => .other
  | _ => .other

/-- The task with the positions of the pass it is in. -/
structure PositionRun where
  gps : Gps
  /-- The position of the record when the pass began. -/
  before : ℚ × ℚ
  /-- The position that the pass copied into the record, if it did. -/
  copied : Option (ℚ × ℚ)
  /-- The position of the packet that the pass built. -/
  built : ℚ × ℚ
  /-- The position of the packet that the pass put into the queue, if it did. -/
  sent : Option (ℚ × ℚ)
  /-- The queue answered a push of the pass with success. -/
  taken : Bool

/-- The task, step by step, with the positions of its passes. -/
def positionMachine : Machine PositionRun GpsEvent (List GpsOutput) where
  step r e :=
    let next := gpsMachine.step r.gps e
    (next.1,
      match recordStepKind r.gps e with
      | .acquire => { r with gps := next.2, copied := some r.gps.currentGpsData.position }
      | .build .current =>
        { r with
          gps := next.2
          copied := some r.gps.currentGpsData.position
          built := r.gps.currentGpsData.position }
      | .build .lastValidMerged =>
        { r with gps := next.2, built := r.gps.lastValidGpsData.position }
      | .push answer =>
        { r with
          gps := next.2
          sent := if enqueues next.1 then some r.built else r.sent
          taken := answer = some .success }
      | .last =>
        { r with
          gps := next.2
          before := next.2.lastValidGpsData.position
          copied := none
          sent := none
          taken := false }
      | .other => { r with gps := next.2 })

/-! ## What a step does to the record -/

/-- What a step of a kind does to the record and the queue. -/
inductive RecordStep (g : Gps) : RecordStepKind → List GpsOutput × Gps → Prop
  | acquire {next} (hposition : next.lastValidGpsData.position = g.currentGpsData.position)
    (htime : next.lastValidGpsData.utcTime = g.currentGpsData.utcTime) (hbefore : g.pc ≠ .clear)
    (hpc : next.pc = .shouldSend) : RecordStep g .acquire ([], next)
  | buildCurrent {packet next}
    (hposition : next.lastValidGpsData.position = g.currentGpsData.position)
    (htime : next.lastValidGpsData.utcTime = g.currentGpsData.utcTime) (hbefore : g.pc ≠ .clear)
    (hlength : packet.length = gpsPacketTotalSize) (hpc : next.pc = .push packet) :
    RecordStep g (.build .current) ([], next)
  | buildMerged {packet next}
    (hposition : next.lastValidGpsData.position = g.lastValidGpsData.position)
    (htime : next.lastValidGpsData.utcTime = g.currentGpsData.utcTime) (hbefore : g.pc ≠ .clear)
    (hlength : packet.length = gpsPacketTotalSize) (hpc : next.pc = .push packet) :
    RecordStep g (.build .lastValidMerged) ([], next)
  | push {packet answer outputs next} (hrecord : next.lastValidGpsData = g.lastValidGpsData)
    (hbefore : g.pc = .push packet)
    (henqueues : packet.length = gpsPacketTotalSize →
      enqueues outputs = decide (answer = some .success))
    (hpc : next.pc = .clear) : RecordStep g (.push answer) (outputs, next)
  | last {next} (hrecord : next.lastValidGpsData = g.lastValidGpsData)
    (hbefore : g.pc = .shouldSend ∨ g.pc = .clear)
    (hpc : next.pc = .pollSim) : RecordStep g .last ([], next)
  | other {outputs next} (hrecord : next.lastValidGpsData = g.lastValidGpsData)
    (hpc : next.pc = g.pc ∨
      (g.pc ≠ .clear ∧ next.pc ≠ .clear ∧ ∀ packet, next.pc ≠ .push packet)) :
    RecordStep g .other (outputs, next)

namespace Gps

variable (g : Gps)

theorem queryAndParse_lastValid (env : GpsEnv) :
    (g.queryAndParse env).2.lastValidGpsData = g.lastValidGpsData := by
  unfold queryAndParse
  split
  · rfl
  · dsimp only
    split
    · rfl
    · split
      · rfl
      · rfl

theorem shouldSend_lastValid (env : GpsEnv) :
    (g.shouldSend env).2.lastValidGpsData = g.lastValidGpsData := by
  unfold shouldSend
  split
  · rfl
  · split
    · rfl
    · rfl

theorem pushTcpPositionMessage_lastValid (env : GpsEnv) (packet : List Byte) :
    (g.pushTcpPositionMessage env packet).2.lastValidGpsData = g.lastValidGpsData := by
  unfold pushTcpPositionMessage
  split
  · rfl
  · split
    · rfl
    · rfl

/-- Only the satellites and the speed of a sample are updated for its packet. -/
theorem preparePosition_current (env : GpsEnv) :
    ∃ sats speed, g.preparePosition env .current =
      { g with currentGpsData := { g.currentGpsData with
        satsInUse := sats
        speedKnots := speed } } := by
  obtain ⟨speed, hspeed, -⟩ := backfillSpeedFromMotion_frame env
    { g with currentGpsData := { g.currentGpsData with
      satsInUse :=
        if g.currentGpsData.satsInUse < gpsLastValidMinSats ∧ g.currentGpsData.fixValidCalculated
        then gpsLastValidMinSats else g.lastValidGpsData.satsInUse } }
  exact ⟨_, speed, hspeed⟩

/-- A current packet makes the sample the record; a merged one takes its time. -/
theorem buildSendPacket_lastValid (env : GpsEnv) (kind : GpsPacketBuildKind) :
    (g.buildSendPacket env kind).2.lastValidGpsData.position =
        (g.sentRecord kind).position ∧
      (g.buildSendPacket env kind).2.lastValidGpsData.utcTime = g.currentGpsData.utcTime := by
  cases kind with
  | current =>
    obtain ⟨sats, speed, hprepared⟩ := g.preparePosition_current env
    simp only [buildSendPacket, buildPositionPacket, hprepared]
    obtain ⟨packet, hcreated, hlength⟩ := exists_gpsPacketCreate _ _
    rw [hcreated, if_pos (by simp [hlength])]
    exact ⟨rfl, rfl⟩
  | lastValidMerged =>
    simp only [buildSendPacket, reduceCtorEq, and_false, if_false]
    exact ⟨rfl, rfl⟩

end Gps

theorem recordStep_task (g : Gps) (env : GpsEnv) :
    RecordStep g (recordStepKind g (.task env)) (gpsTaskEntry env g) := by
  unfold gpsTaskEntry recordStepKind
  cases hpc : g.pc with
  | pollSim =>
    refine .other ?_ (Or.inr (by simp [hpc]))
    unfold Gps.setSimStatus
    split
    · rfl
    · rfl
  | refresh => exact .other (g.queryAndParse_lastValid env) (Or.inr (by simp [hpc]))
  | fixTransition =>
    dsimp only
    split
    · rename_i hconnected
      rw [hconnected]
      exact .acquire rfl rfl (by simp [hpc]) rfl
    · rename_i hother
      have hsame : g.handleFixTransition g.processFixTransition = g := by
        unfold Gps.handleFixTransition
        split
        · contradiction
        · rfl
      rw [hsame]
      exact .other rfl (Or.inr (by simp [hpc]))
  | shouldSend =>
    have hrecord := g.shouldSend_lastValid env
    dsimp only
    generalize g.shouldSend env = answer at hrecord
    cases hsend : answer.1 with
    | true => exact .other hrecord (Or.inr (by simp [hpc]))
    | false => exact .last hrecord (Or.inl hpc) rfl
  | pickKind => exact .other rfl (Or.inr (by simp [hpc]))
  | build kind =>
    obtain ⟨packet, next, hbuilt, hlength, -⟩ := g.exists_buildSendPacket env kind
    obtain ⟨hposition, htime⟩ := g.buildSendPacket_lastValid env kind
    rw [hbuilt] at hposition htime
    dsimp only
    rw [hbuilt]
    cases kind with
    | current => exact .buildCurrent hposition htime (by simp [hpc]) hlength rfl
    | lastValidMerged => exact .buildMerged hposition htime (by simp [hpc]) hlength rfl
  | push packet =>
    obtain ⟨-, henqueues⟩ := g.pushTcpPositionMessage_spec env packet
    have hmerged : gpsOpsMergeTcpAppend packet [] = packet := by simp [gpsOpsMergeTcpAppend]
    dsimp only
    rw [hmerged]
    exact .push (g.pushTcpPositionMessage_lastValid env packet) hpc henqueues rfl
  | clear => exact .last rfl (Or.inr hpc) rfl

theorem recordStep (g : Gps) (e : GpsEvent) :
    RecordStep g (recordStepKind g e) (gpsMachine.step g e) := by
  cases e with
  | task env => exact recordStep_task g env
  | setIgnitionStatus on =>
    change RecordStep g _ ([], g.setIgnitionStatus on)
    unfold Gps.setIgnitionStatus
    split
    · exact .other rfl (Or.inl rfl)
    · exact .other rfl (Or.inl rfl)
  | setMotionStatus on =>
    change RecordStep g _ ([], g.setMotionStatus on)
    unfold Gps.setMotionStatus
    split
    · exact .other rfl (Or.inl rfl)
    · exact .other rfl (Or.inl rfl)
  | setChargeStatus connected =>
    change RecordStep g _ ([], g.setChargeStatus connected)
    unfold Gps.setChargeStatus
    split
    · exact .other rfl (Or.inl rfl)
    · exact .other rfl (Or.inl rfl)
  | setConfig config => exact .other rfl (Or.inl rfl)
  | setPowerEnabled on ok =>
    change RecordStep g _ ([], g.setPowerEnabled on ok)
    unfold Gps.setPowerEnabled
    repeat' split
    all_goals exact .other rfl (Or.inl rfl)

/-! ## When the record stays meaningful -/

theorem GpsPacket.meaningful_congr {p q : GpsPacket} (hposition : p.position = q.position)
    (htime : p.utcTime = q.utcTime) : p.Meaningful ↔ q.Meaningful := by
  simp only [position, Prod.mk.injEq] at hposition
  rw [Meaningful, Meaningful, hposition.1, hposition.2, htime]

namespace PositionRun

/-- The task when the module has set itself up. -/
def start (config : GpsConfig) (restored : Option GpsPacket) (g : Gps) : PositionRun :=
  let gps := g.gpsManagerInit config restored
  ⟨gps, gps.lastValidGpsData.position, none, (0, 0), none, false⟩

/-- A meaningful record stays meaningful, and at the end of a pass its position is the one
the pass began with or that of the packet the pass put into the queue. -/
def KeepsRecord (r : PositionRun) (e : GpsEvent) : Prop :=
  (r.gps.lastValidGpsData.Meaningful →
    (positionMachine.step r e).2.gps.lastValidGpsData.Meaningful) ∧
  (recordStepKind r.gps e = .last →
    r.gps.lastValidGpsData.position = r.before ∨
      r.sent = some r.gps.lastValidGpsData.position)

/-- A sample that is copied over a meaningful record is meaningful, one that is merged into it
has a time, and at the end of a pass that copied another position the queue has taken the
packet. -/
def SoundSamples (r : PositionRun) (e : GpsEvent) : Prop :=
  (r.gps.lastValidGpsData.Meaningful →
    match recordStepKind r.gps e with
    | .acquire | .build .current => r.gps.currentGpsData.Meaningful
    | .build .lastValidMerged => r.gps.currentGpsData.utcTime ≠ 0
    | _ => True) ∧
  (recordStepKind r.gps e = .last → ∀ p ∈ r.copied, p = r.before ∨ r.taken = true)

instance (r : PositionRun) (e : GpsEvent) : Decidable (r.KeepsRecord e) :=
  inferInstanceAs (Decidable ((_ → _) ∧ (_ → _)))

/-- What the pass knows of the record. -/
structure Traced (r : PositionRun) : Prop where
  position : r.gps.lastValidGpsData.position = r.copied.getD r.before
  early : r.gps.pc ≠ .clear → r.sent = none ∧ r.taken = false
  sent : r.gps.pc = .clear →
    r.sent = if r.taken then some r.gps.lastValidGpsData.position else none
  built : ∀ packet, r.gps.pc = .push packet →
    packet.length = gpsPacketTotalSize ∧ r.built = r.gps.lastValidGpsData.position

variable {r : PositionRun}

theorem Traced.step (h : r.Traced) (e : GpsEvent) : (positionMachine.step r e).2.Traced := by
  have hstep := recordStep r.gps e
  simp only [positionMachine]
  generalize gpsMachine.step r.gps e = next at hstep
  generalize recordStepKind r.gps e = kind at hstep
  cases hstep with
  | acquire hposition htime hbefore hpc =>
    refine ⟨hposition, fun _ => h.early hbefore, ?_, ?_⟩
    · intro hclear
      rw [hpc] at hclear
      contradiction
    · intro packet hpush
      rw [hpc] at hpush
      contradiction
  | buildCurrent hposition htime hbefore hlength hpc =>
    refine ⟨hposition, fun _ => h.early hbefore, ?_, ?_⟩
    · intro hclear
      rw [hpc] at hclear
      contradiction
    · intro packet hpush
      cases hpc.symm.trans hpush
      exact ⟨hlength, hposition.symm⟩
  | buildMerged hposition htime hbefore hlength hpc =>
    refine ⟨hposition.trans h.position, fun _ => h.early hbefore, ?_, ?_⟩
    · intro hclear
      rw [hpc] at hclear
      contradiction
    · intro packet hpush
      cases hpc.symm.trans hpush
      exact ⟨hlength, hposition.symm⟩
  | push hrecord hbefore henqueues hpc =>
    obtain ⟨hlength, hbuilt⟩ := h.built _ hbefore
    obtain ⟨hsent, -⟩ := h.early (by simp [hbefore])
    refine ⟨?_, ?_, ?_, ?_⟩
    · rw [← h.position, ← hrecord]
    · exact fun hclear => absurd hpc hclear
    · intro _
      dsimp only
      rw [henqueues hlength, hbuilt, hrecord, hsent]
    · intro packet hpush
      rw [hpc] at hpush
      contradiction
  | last hrecord hbefore hpc =>
    refine ⟨rfl, fun _ => ⟨rfl, rfl⟩, ?_, ?_⟩
    · intro hclear
      rw [hpc] at hclear
      contradiction
    · intro packet hpush
      rw [hpc] at hpush
      contradiction
  | other hrecord hpc =>
    refine ⟨?_, ?_, ?_, ?_⟩
    · rw [← h.position, ← hrecord]
    · intro hclear
      rcases hpc with hpc | ⟨hbefore, -, -⟩
      · exact h.early fun hnow => hclear (hpc.trans hnow)
      · exact h.early hbefore
    · intro hclear
      rcases hpc with hpc | ⟨-, hpc, -⟩
      · dsimp only
        rw [hrecord]
        exact h.sent (hpc.symm.trans hclear)
      · exact absurd hclear hpc
    · intro packet hpush
      rcases hpc with hpc | ⟨-, -, hpc⟩
      · dsimp only
        rw [hrecord]
        exact h.built packet (hpc.symm.trans hpush)
      · exact absurd hpush (hpc packet)

/-- What the pass sent, at its end. -/
theorem Traced.sent_eq (h : r.Traced) :
    r.sent = if r.taken then some r.gps.lastValidGpsData.position else none := by
  by_cases hpc : r.gps.pc = .clear
  · exact h.sent hpc
  · obtain ⟨hsent, htaken⟩ := h.early hpc
    rw [hsent, htaken]
    rfl

/-- The position of the record is right at the end of a pass if and only if a position that
was copied is not new, or its packet was taken. -/
theorem Traced.position_iff (h : r.Traced) :
    (r.gps.lastValidGpsData.position = r.before ∨ r.sent = some r.gps.lastValidGpsData.position) ↔
      ∀ p ∈ r.copied, p = r.before ∨ r.taken = true := by
  rw [h.sent_eq]
  cases htaken : r.taken with
  | true => simp
  | false =>
    rw [h.position]
    cases r.copied with
    | none => simp
    | some p => simp

/-- The record stays meaningful if and only if what is written into it is. -/
theorem meaningful_step_iff (r : PositionRun) (e : GpsEvent) :
    (r.gps.lastValidGpsData.Meaningful →
      (positionMachine.step r e).2.gps.lastValidGpsData.Meaningful) ↔
    (r.gps.lastValidGpsData.Meaningful →
      match recordStepKind r.gps e with
      | .acquire | .build .current => r.gps.currentGpsData.Meaningful
      | .build .lastValidMerged => r.gps.currentGpsData.utcTime ≠ 0
      | _ => True) := by
  have hgps : (positionMachine.step r e).2.gps = (gpsMachine.step r.gps e).2 := by
    simp only [positionMachine]
    split
    all_goals rfl
  have hstep := recordStep r.gps e
  rw [hgps]
  generalize gpsMachine.step r.gps e = next at hstep
  generalize recordStepKind r.gps e = kind at hstep
  cases hstep with
  | acquire hposition htime hbefore hpc => rw [GpsPacket.meaningful_congr hposition htime]
  | buildCurrent hposition htime hbefore hlength hpc =>
    rw [GpsPacket.meaningful_congr hposition htime]
  | buildMerged hposition htime hbefore hlength hpc =>
    apply imp_congr_right
    intro hmeaningful
    dsimp only
    constructor
    · intro hnext
      rw [← htime]
      exact hnext.1
    · intro hsample
      simp only [GpsPacket.position, Prod.mk.injEq] at hposition
      refine ⟨by rwa [htime], ?_⟩
      rw [hposition.1, hposition.2]
      exact hmeaningful.2
  | push hrecord hbefore henqueues hpc => simp [hrecord]
  | last hrecord hbefore hpc => simp [hrecord]
  | other hrecord hpc => simp [hrecord]

theorem traced_start (config : GpsConfig) (restored : Option GpsPacket) (g : Gps) :
    (start config restored g).Traced := by
  refine ⟨rfl, fun _ => ⟨rfl, rfl⟩, ?_, ?_⟩
  · exact fun h => nomatch h
  · exact fun _ h => nomatch h

/-- In a run the record stays meaningful and changes its position only to that of a packet in
the queue, if and only if the samples written into it are sound. -/
theorem last_valid_kept_iff (config : GpsConfig) (restored : Option GpsPacket) (g : Gps)
    (es : List GpsEvent) :
    positionMachine.Along KeepsRecord (start config restored g) es ↔
      positionMachine.Along SoundSamples (start config restored g) es := by
  apply positionMachine.along_congr (I := Traced)
  · exact fun r e h _ => h.step e
  · intro r e h
    exact and_congr (meaningful_step_iff r e) (imp_congr_right fun _ => h.position_iff)
  · exact traced_start config restored g

/-- A receiver without a fix, and a device on charge with a stored position. -/
def withoutFix (sendQueue : Option Result) : GpsEnv where
  distance := fun _ _ _ _ => 0
  sim := false
  parsed := some .zero
  rtcUtc := none
  uptime := 10
  sendQueue := sendQueue
  packet := ⟨0, 0, 0, 0, 0, 0, 0, false, false, false, false, 0⟩

/-- A fix at a place, with its time. -/
def fixAt (lat lon : ℚ) : GpsPacket :=
  { GpsPacket.zero with
    fixValidReal := true
    latitudeDeg := lat
    longitudeDeg := lon
    utcTime := 1700000000 }

/-- A merged packet without a fix and without a clock leaves the stored record without its
time; and a full queue leaves it with a position that was never sent. -/
theorem last_valid_spoilt :
    (¬ ∀ (config : GpsConfig) (restored : Option GpsPacket) (g : Gps) (es : List GpsEvent),
      positionMachine.Along KeepsRecord (start config restored g) es) ∧
    ¬ positionMachine.Along KeepsRecord
      (start gpsConfigGetDefaults (some (fixAt 12 77)) (.zeroed gpsConfigGetDefaults))
      (List.replicate 8 (.task { withoutFix (some .outOfMemory) with
        parsed := some (fixAt 13 77) })) := by
  constructor
  · intro h
    have hmerged := h gpsConfigGetDefaults (some (fixAt 12 77)) (.zeroed gpsConfigGetDefaults)
      (List.replicate 8 (.task (withoutFix (some .success))))
    revert hmerged
    decide +kernel
  · decide +kernel

end PositionRun

end WalnutGateway
