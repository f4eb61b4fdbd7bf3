import WalnutGateway.Gps.Manager

/-!
# The send trigger

An edge of the ignition, the charge, the SIM or the fix latches a trigger, which makes the
next pass send a packet. The end of a pass that sends clears the trigger, whether the packet
was taken by the send queue or not, and whether the trigger was there when the packet was
built or not.
-/

namespace WalnutGateway

/-- What a step is to the trigger. -/
inductive GpsStepKind
  /-- An edge latches the trigger. -/
  | edge
  | build
  /-- The packet is pushed into a queue that answers so. -/
  | push (answer : Option Result)
  | clear
  | other
  deriving DecidableEq

/-- The kind of a step. -/
def gpsStepKind (g : Gps) (e : GpsEvent) : GpsStepKind :=
  match e with
  | .setIgnitionStatus on => if g.ignStatus = on then .other else .edge
  | .setChargeStatus connected => if g.prevCharge = connected then .other else .edge
  | .task env =>
    match g.pc with
    | .pollSim => if g.prevSim = env.sim then .other else .edge
    | .fixTransition => if g.processFixTransition = .connected then .edge else .other
    | .build _ => .build
    | .push _ => .push env.sendQueue
    | .clear => .clear
    | _ => .other
  | _ => .other

/-- A row was put into the send queue. -/
def enqueues (outputs : List GpsOutput) : Bool :=
  outputs.any fun output =>
    match output with
    | .enqueued _ => true
    | .systemReboot => false

/-- The task with the edges and packets of the run. -/
structure TriggerRun where
  gps : Gps
  /-- A trigger has been latched that no packet in the queue was built after. -/
  owed : Bool
  /-- A trigger has been latched since the latest packet was built. -/
  latchedSince : Bool
  /-- The latest packet that was built is in the queue. -/
  enqueued : Bool
  /-- The queue answered the latest push with success. -/
  taken : Bool

/-- The task, step by step, with its edges and packets. -/
def triggerMachine : Machine TriggerRun GpsEvent (List GpsOutput) where
  step r e :=
    let next := gpsMachine.step r.gps e
    (next.1,
      match gpsStepKind r.gps e with
      | .edge => { r with gps := next.2, owed := true, latchedSince := true }
      | .build => { r with gps := next.2, latchedSince := false, enqueued := false }
      | .push answer =>
        { r with
          gps := next.2
          owed := if enqueues next.1 then r.latchedSince else r.owed
          enqueued := enqueues next.1
          taken := answer = some .success }
      | .clear | .other => { r with gps := next.2 })

/-! ## What a step does to the trigger -/

/-- What a step of a kind does to the trigger and the queue. -/
inductive TriggerStep (g : Gps) : GpsStepKind → List GpsOutput × Gps → Prop
  | edge {next} (hset : next.shouldTrigger = true)
    (hpc : next.pc = g.pc ∨ next.pc = .refresh ∨ next.pc = .shouldSend) :
    TriggerStep g .edge ([], next)
  | build {packet next} (hset : next.shouldTrigger = g.shouldTrigger)
    (hlength : packet.length = gpsPacketTotalSize) (hpc : next.pc = .push packet) :
    TriggerStep g .build ([], next)
  | push {packet answer outputs next} (hset : next.shouldTrigger = g.shouldTrigger)
    (hbefore : g.pc = .push packet)
    (henqueues : packet.length = gpsPacketTotalSize →
      enqueues outputs = decide (answer = some .success))
    (hpc : next.pc = .clear) : TriggerStep g (.push answer) (outputs, next)
  | clear {next} (hbefore : g.pc = .clear) (hset : next.shouldTrigger = false)
    (hpc : next.pc = .pollSim) : TriggerStep g .clear ([], next)
  | other {outputs next} (hset : next.shouldTrigger = g.shouldTrigger)
    (hquiet : enqueues outputs = false)
    (hpc : next.pc = g.pc ∨ (next.pc ≠ .clear ∧ ∀ packet, next.pc ≠ .push packet)) :
    TriggerStep g .other (outputs, next)

/-- A message buffer holds a packet. -/
theorem exists_gpsPacketCreate (env : GpsPacketEnv) (gps : GpsPacket) :
    ∃ packet, gpsPacketCreate moduleMessageInlineSize env gps = some packet ∧
      packet.length = gpsPacketTotalSize := by
  have hfits : ¬ moduleMessageInlineSize < gpsPacketTotalSize := by decide
  have hcreated : gpsPacketCreate moduleMessageInlineSize env gps = some _ := if_neg hfits
  exact ⟨_, hcreated, (gpsPacketCreate_eq_some hcreated).1⟩

namespace Gps

variable (g : Gps)

theorem queryAndParse_shouldTrigger (env : GpsEnv) :
    (g.queryAndParse env).2.shouldTrigger = g.shouldTrigger ∧
      enqueues (g.queryAndParse env).1 = false := by
  unfold queryAndParse
  split
  · exact ⟨rfl, rfl⟩
  · dsimp only
    split
    · exact ⟨rfl, rfl⟩
    · split
      · exact ⟨rfl, rfl⟩
      · exact ⟨rfl, rfl⟩

theorem shouldSend_shouldTrigger (env : GpsEnv) :
    (g.shouldSend env).2.shouldTrigger = g.shouldTrigger := by
  unfold shouldSend
  split
  · rfl
  · split
    · rfl
    · rfl

/-- A message buffer holds a packet, so one is always built. -/
theorem exists_buildSendPacket (env : GpsEnv) (kind : GpsPacketBuildKind) :
    ∃ packet next, g.buildSendPacket env kind = (some packet, next) ∧
      packet.length = gpsPacketTotalSize ∧ next.shouldTrigger = g.shouldTrigger := by
  have hprepared : (g.preparePosition env kind).shouldTrigger = g.shouldTrigger := by
    cases kind with
    | current =>
      simp only [preparePosition, backfillSpeedFromMotion]
      repeat' split
      all_goals rfl
    | lastValidMerged => rfl
  unfold buildSendPacket buildPositionPacket
  dsimp only
  generalize g.preparePosition env kind = prepared at hprepared
  obtain ⟨packet, hcreated, hlength⟩ := exists_gpsPacketCreate _ _
  refine ⟨packet, _, Prod.ext hcreated rfl, hlength, ?_⟩
  split
  · exact hprepared
  · exact hprepared

theorem pushTcpPositionMessage_spec (env : GpsEnv) (packet : List Byte) :
    (g.pushTcpPositionMessage env packet).2.shouldTrigger = g.shouldTrigger ∧
      (packet.length = gpsPacketTotalSize →
        enqueues (g.pushTcpPositionMessage env packet).1 =
          decide (env.sendQueue = some .success)) := by
  unfold pushTcpPositionMessage
  split
  · rename_i hlength
    refine ⟨rfl, fun hsize => ?_⟩
    rw [hsize] at hlength
    exact absurd hlength (by decide)
  · split
    · rename_i hsuccess
      refine ⟨rfl, fun _ => ?_⟩
      rw [hsuccess]
      rfl
    · rename_i hfail
      refine ⟨rfl, fun _ => ?_⟩
      rw [decide_eq_false hfail]
      rfl

end Gps

theorem triggerStep_task (g : Gps) (env : GpsEnv) :
    TriggerStep g (gpsStepKind g (.task env)) (gpsTaskEntry env g) := by
  unfold gpsTaskEntry gpsStepKind
  cases hpc : g.pc with
  | pollSim =>
    dsimp only
    unfold Gps.setSimStatus
    split
    · exact .other rfl rfl (Or.inr (by simp))
    · exact .edge rfl (Or.inr (Or.inl rfl))
  | refresh =>
    obtain ⟨hset, hquiet⟩ := g.queryAndParse_shouldTrigger env
    exact .other hset hquiet (Or.inr (by simp))
  | fixTransition =>
    dsimp only
    split
    · rename_i hconnected
      rw [hconnected]
      exact .edge rfl (Or.inr (Or.inr rfl))
    · rename_i hother
      have hsame : g.handleFixTransition g.processFixTransition = g := by
        unfold Gps.handleFixTransition
        split
        · contradiction
        · rfl
      rw [hsame]
      exact .other rfl rfl (Or.inr (by simp))
  | shouldSend =>
    have hpc' : ∀ send : Bool, (if send then GpsPc.pickKind else .pollSim) ≠ .clear ∧
        ∀ packet, (if send then GpsPc.pickKind else .pollSim) ≠ .push packet := by
      intro send
      cases send with
      | true => simp
      | false => simp
    exact .other (g.shouldSend_shouldTrigger env) rfl (Or.inr (hpc' _))
  | pickKind => exact .other rfl rfl (Or.inr (by simp))
  | build kind =>
    obtain ⟨packet, next, hbuilt, hlength, hset⟩ := g.exists_buildSendPacket env kind
    dsimp only
    rw [hbuilt]
    exact .build hset hlength rfl
  | push packet =>
    obtain ⟨hset, henqueues⟩ := g.pushTcpPositionMessage_spec env packet
    have hmerged : gpsOpsMergeTcpAppend packet [] = packet := by simp [gpsOpsMergeTcpAppend]
    dsimp only
    rw [hmerged]
    exact .push hset hpc henqueues rfl
  | clear => exact .clear hpc rfl rfl

theorem triggerStep (g : Gps) (e : GpsEvent) :
    TriggerStep g (gpsStepKind g e) (gpsMachine.step g e) := by
  cases e with
  | task env => exact triggerStep_task g env
  | setIgnitionStatus on =>
    change TriggerStep g (if g.ignStatus = on then _ else _) ([], g.setIgnitionStatus on)
    unfold Gps.setIgnitionStatus
    split
    · exact .other rfl rfl (Or.inl rfl)
    · exact .edge rfl (Or.inl rfl)
  | setMotionStatus on =>
    change TriggerStep g _ ([], g.setMotionStatus on)
    unfold Gps.setMotionStatus
    split
    · exact .other rfl rfl (Or.inl rfl)
    · exact .other rfl rfl (Or.inl rfl)
  | setChargeStatus connected =>
    change TriggerStep g (if g.prevCharge = connected then _ else _)
      ([], g.setChargeStatus connected)
    unfold Gps.setChargeStatus
    split
    · exact .other rfl rfl (Or.inl rfl)
    · exact .edge rfl (Or.inl rfl)
  | setConfig config => exact .other rfl rfl (Or.inl rfl)
  | setPowerEnabled on ok =>
    change TriggerStep g _ ([], g.setPowerEnabled on ok)
    unfold Gps.setPowerEnabled
    repeat' split
    all_goals exact .other rfl rfl (Or.inl rfl)

/-! ## When no trigger is lost -/

namespace TriggerRun

/-- The task when the module has set itself up. -/
def start (config : GpsConfig) (restored : Option GpsPacket) (g : Gps) : TriggerRun :=
  ⟨g.gpsManagerInit config restored, false, false, false, false⟩

/-- The step clears a trigger that is set. -/
def Clears (r : TriggerRun) (e : GpsEvent) : Prop :=
  gpsStepKind r.gps e = .clear ∧ r.gps.shouldTrigger = true

/-- A trigger is cleared only when the packet of the pass was built after it and is in the
queue; and while a trigger waits for such a packet it stays set. -/
def KeepsTrigger (r : TriggerRun) (e : GpsEvent) : Prop :=
  (r.Clears e → r.enqueued = true ∧ r.latchedSince = false) ∧
    ((triggerMachine.step r e).2.owed = true →
      (triggerMachine.step r e).2.gps.shouldTrigger = true)

/-- Where a pass clears a trigger, the queue took its packet and no edge has come since the
packet was built. -/
def Undisturbed (r : TriggerRun) (e : GpsEvent) : Prop :=
  r.Clears e → r.taken = true ∧ r.latchedSince = false

instance (r : TriggerRun) (e : GpsEvent) : Decidable (r.Clears e) :=
  inferInstanceAs (Decidable (_ ∧ _))

instance (r : TriggerRun) (e : GpsEvent) : Decidable (r.KeepsTrigger e) :=
  inferInstanceAs (Decidable ((_ → _) ∧ (_ → _)))

instance (r : TriggerRun) (e : GpsEvent) : Decidable (r.Undisturbed e) :=
  inferInstanceAs (Decidable (_ → _))

/-- What the pass knows of its packet. -/
structure Accounted (r : TriggerRun) : Prop where
  kept : r.owed = true → r.gps.shouldTrigger = true
  length : ∀ packet, r.gps.pc = .push packet → packet.length = gpsPacketTotalSize
  enqueued : r.gps.pc = .clear → r.enqueued = r.taken
  paid : r.gps.pc = .clear → r.enqueued = true → r.owed = true → r.latchedSince = true
  since : r.latchedSince = true → r.owed = true

variable {r : TriggerRun}

theorem Accounted.step (h : r.Accounted) {e : GpsEvent} (hquiet : r.Undisturbed e) :
    (triggerMachine.step r e).2.Accounted := by
  have hstep := triggerStep r.gps e
  unfold Undisturbed Clears at hquiet
  simp only [triggerMachine]
  generalize gpsMachine.step r.gps e = next at hstep
  generalize gpsStepKind r.gps e = kind at hstep hquiet
  cases hstep with
  | edge hset hpc =>
    refine ⟨fun _ => hset, ?_, ?_, fun _ _ _ => rfl, fun _ => rfl⟩
    · intro packet hpush
      rcases hpc with hpc | hpc | hpc
      · exact h.length packet (hpc.symm.trans hpush)
      · rw [hpc] at hpush
        contradiction
      · rw [hpc] at hpush
        contradiction
    · intro hclear
      rcases hpc with hpc | hpc | hpc
      · exact h.enqueued (hpc.symm.trans hclear)
      · rw [hpc] at hclear
        contradiction
      · rw [hpc] at hclear
        contradiction
  | build hset hlength hpc =>
    refine ⟨fun howed => hset.trans (h.kept howed), ?_, ?_, ?_, fun hsince => nomatch hsince⟩
    · intro packet hpush
      cases hpc.symm.trans hpush
      exact hlength
    · intro hclear
      rw [hpc] at hclear
      contradiction
    · intro hclear
      rw [hpc] at hclear
      contradiction
  | push hset hbefore henqueues hpc =>
    have hanswer := henqueues (h.length _ hbefore)
    refine ⟨?_, ?_, fun _ => hanswer, ?_, ?_⟩
    · dsimp only
      split
      · exact fun hsince => hset.trans (h.kept (h.since hsince))
      · exact fun howed => hset.trans (h.kept howed)
    · intro packet hpush
      rw [hpc] at hpush
      contradiction
    · intro _ htaken
      dsimp only at htaken ⊢
      rw [if_pos htaken]
      exact id
    · intro hsince
      dsimp only
      split
      · exact hsince
      · exact h.since hsince
  | clear hbefore hset hpc =>
    have hpaid : r.owed = false := by
      rw [← Bool.not_eq_true]
      intro howed
      obtain ⟨htaken, hsince⟩ := hquiet ⟨rfl, h.kept howed⟩
      rw [h.paid hbefore ((h.enqueued hbefore).trans htaken) howed] at hsince
      contradiction
    refine ⟨?_, ?_, ?_, ?_, h.since⟩
    · intro howed
      rw [hpaid] at howed
      contradiction
    · intro packet hpush
      rw [hpc] at hpush
      contradiction
    · intro hclear
      rw [hpc] at hclear
      contradiction
    · intro hclear
      rw [hpc] at hclear
      contradiction
  | other hset hsame hpc =>
    refine ⟨fun howed => hset.trans (h.kept howed), ?_, ?_, ?_, h.since⟩
    · intro packet hpush
      rcases hpc with hpc | ⟨-, hpc⟩
      · exact h.length packet (hpc.symm.trans hpush)
      · exact absurd hpush (hpc packet)
    · intro hclear
      rcases hpc with hpc | ⟨hpc, -⟩
      · exact h.enqueued (hpc.symm.trans hclear)
      · exact absurd hclear hpc
    · intro hclear
      rcases hpc with hpc | ⟨hpc, -⟩
      · exact h.paid (hpc.symm.trans hclear)
      · exact absurd hclear hpc

theorem pc_of_clears {e : GpsEvent} (h : r.Clears e) : r.gps.pc = .clear := by
  have hstep := triggerStep r.gps e
  rw [h.1] at hstep
  generalize gpsMachine.step r.gps e = next at hstep
  cases hstep with
  | clear hbefore hset hpc => exact hbefore

/-- A step keeps the trigger if and only if nothing disturbs it. -/
theorem Accounted.keepsTrigger_iff (h : r.Accounted) (e : GpsEvent) :
    r.KeepsTrigger e ↔ r.Undisturbed e := by
  constructor
  · intro hkeeps hclears
    obtain ⟨henqueued, hsince⟩ := hkeeps.1 hclears
    exact ⟨(h.enqueued (pc_of_clears hclears)).symm.trans henqueued, hsince⟩
  · intro hquiet
    refine ⟨fun hclears => ?_, (h.step hquiet).kept⟩
    obtain ⟨htaken, hsince⟩ := hquiet hclears
    exact ⟨(h.enqueued (pc_of_clears hclears)).trans htaken, hsince⟩

theorem accounted_start (config : GpsConfig) (restored : Option GpsPacket) (g : Gps) :
    (start config restored g).Accounted := by
  refine ⟨?_, ?_, ?_, ?_, ?_⟩
  · exact fun h => nomatch h
  · exact fun _ h => nomatch h
  · exact fun h => nomatch h
  · exact fun h => nomatch h
  · exact fun h => nomatch h

/-- A run loses no trigger if and only if each pass that clears one has its packet taken by
the queue, and no edge comes between the building of that packet and the clearing. -/
theorem send_trigger_kept_iff (config : GpsConfig) (restored : Option GpsPacket) (g : Gps)
    (es : List GpsEvent) :
    triggerMachine.Along KeepsTrigger (start config restored g) es ↔
      triggerMachine.Along Undisturbed (start config restored g) es := by
  apply triggerMachine.along_congr (I := Accounted)
  · exact fun r e h hquiet => h.step hquiet
  · exact fun r e h => h.keepsTrigger_iff e
  · exact accounted_start config restored g

/-- A SIM in its slot, no record from the receiver, and a send queue that answers so. -/
def simInserted (sendQueue : Option Result) : GpsEnv where
  distance := fun _ _ _ _ => 0
  sim := true
  parsed := none
  rtcUtc := none
  uptime := 5
  sendQueue := sendQueue
  packet := ⟨0, 0, 0, 0, 0, 0, 0, false, false, false, false, 0⟩

/-- The edge of the SIM is lost to a full queue; that of the ignition, to a packet that was
built before it. -/
theorem send_trigger_lost :
    (¬ ∀ (config : GpsConfig) (restored : Option GpsPacket) (g : Gps) (es : List GpsEvent),
      triggerMachine.Along KeepsTrigger (start config restored g) es) ∧
    ¬ triggerMachine.Along KeepsTrigger
      (start gpsConfigGetDefaults none (.zeroed gpsConfigGetDefaults))
      (List.replicate 7 (.task (simInserted (some .success))) ++
        [.setIgnitionStatus false, .task (simInserted (some .success))]) := by
  constructor
  · intro h
    have hfull := h gpsConfigGetDefaults none (.zeroed gpsConfigGetDefaults)
      (List.replicate 8 (.task (simInserted (some .outOfMemory))))
    revert hfull
    decide +kernel
  · decide +kernel

end TriggerRun

end WalnutGateway
