import WalnutGateway.Network.Manager

/-!
# The overall timeout

A task that is not connected for `NETWORK_OVERALL_TIMEOUT_MS` is meant to ask for a soft
reset. The wait starts anew in `CHECK_SIM`, so as not to reset while there is no SIM; but
every bring-up passes that state, with a SIM as without one.
-/

namespace WalnutGateway

/-- The task with the time its wait for a connection began, the time of the latest thing
that moved the anchor of its timeout, and the time of its latest check. -/
structure OverallRun where
  network : Network
  since : Nat
  rearmed : Nat
  checkedAt : Nat

/-- The step is the overall check. -/
def OverallCheck (n : Network) (e : NetworkEvent) : Bool :=
  match e with
  | .task _ => n.pc = .overallTimeout
  | _ => false

/-- The step completes a pass. -/
def Completes (n : Network) (e : NetworkEvent) : Bool :=
  match e, n.pc with
  | .task _, .write .. => true
  | _, _ => false

/-- A wait begins: the flag was cleared, or the reset was asked for. -/
def beginsWait (n : Network) (e : NetworkEvent) : Bool :=
  (n.connected = true ∧ (networkMachine.step n e).2.connected = false) ∨
    .resetSoft ∈ (networkMachine.step n e).1

/-- The check is made in `CHECK_SIM`. -/
def rearms (n : Network) (e : NetworkEvent) : Bool :=
  OverallCheck n e ∧ n.connected = false ∧ n.state = .checkSim

/-- The task, step by step, with the times. -/
def overallMachine : Machine OverallRun NetworkEvent (List NetworkOutput) where
  step r e :=
    let next := networkMachine.step r.network e
    let time := r.network.time
    (next.1,
      { network := next.2
        since := if beginsWait r.network e then time else r.since
        rearmed := if beginsWait r.network e ∨ rearms r.network e then time else r.rearmed
        checkedAt := if OverallCheck r.network e then time else r.checkedAt })

namespace OverallRun

/-- The task when it starts. -/
def start (time : Nat) : OverallRun := ⟨.start time, time, time, time⟩

/-- Not connected, the wait has not lasted the timeout. -/
def InTime (r : OverallRun) : Prop :=
  r.network.connected = true ∨ r.network.time < r.since + networkOverallTimeoutMs.toNat

/-- A check after the timeout asks for the reset, which begins another wait. -/
def Escalates (r : OverallRun) (e : NetworkEvent) : Prop :=
  OverallCheck r.network e = true → (overallMachine.step r e).2.InTime

/-- A pass that completes without a connection does so before the timeout and the time the
pass took since its check. -/
def CompletesInTime (r : OverallRun) (e : NetworkEvent) : Prop :=
  Completes r.network e = true → r.network.connected = false →
    r.network.time < r.since + networkOverallTimeoutMs.toNat + (r.network.time - r.checkedAt)

/-- A check after the timeout is not made in `CHECK_SIM`, nor was any in the time before it
that the timeout lasts, as far as the tick counter tells. -/
def Unstarved (r : OverallRun) (e : NetworkEvent) : Prop :=
  OverallCheck r.network e = true → r.network.connected = false →
    r.since + networkOverallTimeoutMs.toNat ≤ r.network.time →
    r.network.state ≠ .checkSim ∧
      networkOverallTimeoutMs.toNat ≤ (r.network.time - r.rearmed) % 2 ^ 32

instance (r : OverallRun) : Decidable r.InTime := inferInstanceAs (Decidable (_ ∨ _))

instance (r : OverallRun) (e : NetworkEvent) : Decidable (r.Escalates e) :=
  inferInstanceAs (Decidable (_ → _))

instance (r : OverallRun) (e : NetworkEvent) : Decidable (r.CompletesInTime e) :=
  inferInstanceAs (Decidable (_ → _))

instance (r : OverallRun) (e : NetworkEvent) : Decidable (r.Unstarved e) :=
  inferInstanceAs (Decidable (_ → _))

/-- The anchor of the timeout is where it was moved last. -/
structure Anchored (r : OverallRun) : Prop where
  since_le : r.since ≤ r.rearmed
  rearmed_le : r.rearmed ≤ r.network.time
  anchor : r.network.connected = false → r.network.notConnectedSince = UInt32.ofNat r.rearmed

theorem anchored_start (time : Nat) : (start time).Anchored :=
  ⟨Nat.le_refl _, Nat.le_refl _, fun _ => rfl⟩

variable {r : OverallRun}

/-- The ticks passed since the anchor was moved. -/
theorem Anchored.elapsed (h : r.Anchored) (hdown : r.network.connected = false) :
    (r.network.ticks - r.network.notConnectedSince).toNat =
      (r.network.time - r.rearmed) % 2 ^ 32 := by
  have hle := h.rearmed_le
  rw [h.anchor hdown, Network.ticks, UInt32.toNat_sub, UInt32.toNat_ofNat', UInt32.toNat_ofNat']
  omega

/-- A wait begins: the anchor has to be moved. -/
theorem anchored_of_begins {e : NetworkEvent}
    (hbegins : beginsWait r.network e = true)
    (htime : (networkMachine.step r.network e).2.time = r.network.time)
    (hsince : (networkMachine.step r.network e).2.notConnectedSince = r.network.ticks) :
    (overallMachine.step r e).2.Anchored := by
  simp only [overallMachine, hbegins]
  exact ⟨Nat.le_refl _, htime.ge, fun _ => hsince⟩

/-- Neither a wait begins nor is the anchor moved while the flag is down. -/
theorem Anchored.of_kept (h : r.Anchored) {e : NetworkEvent}
    (hbegins : beginsWait r.network e = false) (hrearms : rearms r.network e = false)
    (htime : r.network.time ≤ (networkMachine.step r.network e).2.time)
    (hkept : (networkMachine.step r.network e).2.connected = false →
      r.network.connected = false ∧
      (networkMachine.step r.network e).2.notConnectedSince = r.network.notConnectedSince) :
    (overallMachine.step r e).2.Anchored := by
  simp only [overallMachine, hbegins, hrearms]
  refine ⟨h.since_le, h.rearmed_le.trans htime, fun hdown => ?_⟩
  obtain ⟨hbefore, hsince⟩ := hkept hdown
  exact hsince.trans (h.anchor hbefore)

/-- A step that keeps the flag and the anchor, and asks for nothing. -/
theorem Anchored.of_same (h : r.Anchored) {e : NetworkEvent}
    (htime : r.network.time ≤ (networkMachine.step r.network e).2.time)
    (hconnected : (networkMachine.step r.network e).2.connected = r.network.connected)
    (hsince : (networkMachine.step r.network e).2.notConnectedSince = r.network.notConnectedSince)
    (hquiet : .resetSoft ∉ (networkMachine.step r.network e).1)
    (hrearms : rearms r.network e = false) : (overallMachine.step r e).2.Anchored := by
  apply h.of_kept _ hrearms htime
  · exact fun hdown => ⟨hconnected.symm.trans hdown, hsince⟩
  · simp only [beginsWait, hconnected, hquiet]
    simp

theorem rearms_of_ne {n : Network} {e : NetworkEvent}
    (h : ∀ env, e = .task env → n.pc ≠ .overallTimeout) : rearms n e = false := by
  cases e with
  | task env => simp [rearms, OverallCheck, h env rfl]
  | _ => simp [rearms, OverallCheck]

/-! ## The check -/

/-- What the check does. -/
inductive Checked (n : Network) : Prop
  | connected (hup : n.connected = true)
    (hcheck : networkCheckOverallTimeout n = ([], { n with notConnectedSince := n.ticks }))
  | rearmed (hdown : n.connected = false) (hsim : n.state = .checkSim)
    (hcheck : networkCheckOverallTimeout n = ([], { n with notConnectedSince := n.ticks }))
  | early (hdown : n.connected = false) (hsim : n.state ≠ .checkSim)
    (hearly : (n.ticks - n.notConnectedSince).toNat < networkOverallTimeoutMs.toNat)
    (hcheck : networkCheckOverallTimeout n = ([], n))
  | asked (hdown : n.connected = false) (hsim : n.state ≠ .checkSim)
    (hlate : networkOverallTimeoutMs.toNat ≤ (n.ticks - n.notConnectedSince).toNat)
    (hcheck : networkCheckOverallTimeout n =
      ([.resetSoft], { n with notConnectedSince := n.ticks }))

theorem checked (n : Network) : Checked n := by
  by_cases hup : n.connected = true
  · exact .connected hup (if_pos hup)
  · have hdown := eq_false_of_ne_true hup
    by_cases hsim : n.state = .checkSim
    · exact .rearmed hdown hsim ((if_neg hup).trans (if_pos hsim))
    · by_cases hearly : n.ticks - n.notConnectedSince < networkOverallTimeoutMs
      · exact .early hdown hsim (UInt32.lt_iff_toNat_lt.mp hearly)
          ((if_neg hup).trans ((if_neg hsim).trans (if_pos hearly)))
      · refine .asked hdown hsim ?_
          ((if_neg hup).trans ((if_neg hsim).trans (if_neg hearly)))
        rw [UInt32.lt_iff_toNat_lt] at hearly
        exact Nat.le_of_not_lt hearly

theorem step_check {n : Network} (hpc : n.pc = .overallTimeout) (env : ModemEnv) :
    networkMachine.step n (.task env) =
      ((networkCheckOverallTimeout n).1,
        { (networkCheckOverallTimeout n).2 with pc := .handle }) := by
  change networkTaskEntry env n = _
  simp only [networkTaskEntry, hpc]

theorem Anchored.check (h : r.Anchored) (hpc : r.network.pc = .overallTimeout) (env : ModemEnv) :
    (overallMachine.step r (.task env)).2.Anchored := by
  have hstep := step_check hpc env
  rcases checked r.network with ⟨hup, hcheck⟩ | ⟨hdown, hsim, hcheck⟩ |
    ⟨hdown, hsim, hearly, hcheck⟩ | ⟨hdown, hsim, hlate, hcheck⟩
  · rw [hcheck] at hstep
    refine h.of_kept ?_ ?_ ?_ ?_
    · simp [beginsWait, hstep, hup]
    · simp [rearms, hup]
    · simp [hstep]
    · simp [hstep, hup]
  · rw [hcheck] at hstep
    have hbegins : beginsWait r.network (.task env) = false := by
      simp [beginsWait, hstep, hdown]
    have hrearms : rearms r.network (.task env) = true := by
      simp [rearms, OverallCheck, hpc, hdown, hsim]
    simp only [overallMachine, hbegins, hrearms, hstep]
    exact ⟨h.since_le.trans h.rearmed_le, Nat.le_refl _, fun _ => rfl⟩
  · rw [hcheck] at hstep
    refine h.of_same ?_ ?_ ?_ ?_ ?_
    · simp [hstep]
    · simp [hstep]
    · simp [hstep]
    · simp [hstep]
    · simp [rearms, hsim]
  · rw [hcheck] at hstep
    refine anchored_of_begins ?_ ?_ ?_
    · simp [beginsWait, hstep]
    · simp [hstep]
    · simp [hstep]

/-! ## The other steps -/

theorem quiet_restartCfun (env : ModemEnv) (n : Network) :
    .resetSoft ∉ (networkStateHandleRestartCfun env n).2.1 := by
  unfold networkStateHandleRestartCfun
  split
  · split
    · simp
    · simp
  · split
    · simp
    · split
      · simp
      · simp
  · split
    · simp
    · simp

theorem quiet_handleState (env : ModemEnv) (n : Network) :
    .resetSoft ∉ (networkHandleState env n).1 := by
  unfold networkHandleState
  cases n.state with
  | connected =>
    dsimp only
    split
    · simp
    · simp
    · simp
  | restartCfun => exact quiet_restartCfun env n
  | _ => simp

theorem Anchored.handle (h : r.Anchored) (hpc : r.network.pc = .handle) (env : ModemEnv) :
    (overallMachine.step r (.task env)).2.Anchored := by
  have hframe := networkHandleState_frame env r.network
  have hstep : networkMachine.step r.network (.task env) = networkHandleState env r.network := by
    change networkTaskEntry env r.network = _
    simp only [networkTaskEntry, hpc]
  by_cases hcleared : r.network.state.clears = true ∧ r.network.connected = true
  · apply anchored_of_begins
    · have hdown : (networkHandleState env r.network).2.connected = false := by
        rw [hframe.connected, if_pos hcleared.1]
      simp [beginsWait, hstep, hdown, hcleared.2]
    · rw [hstep, hframe.time]
    · rw [hstep, hframe.since, if_pos hcleared]
  · have hconnected : (networkHandleState env r.network).2.connected = r.network.connected := by
      rw [hframe.connected]
      split
      · rename_i hclears
        exact (eq_false_of_ne_true fun hup => hcleared ⟨hclears, hup⟩).symm
      · rfl
    refine h.of_same ?_ ?_ ?_ ?_ (rearms_of_ne (by simp [hpc]))
    · rw [hstep, hframe.time]
    · rw [hstep, hconnected]
    · rw [hstep, hframe.since, if_neg hcleared]
    · rw [hstep]
      exact quiet_handleState env r.network

theorem Anchored.step (h : r.Anchored) (e : NetworkEvent) :
    (overallMachine.step r e).2.Anchored := by
  have hstep := networkStep r.network e
  generalize hnext : networkMachine.step r.network e = next at hstep
  cases hstep with
  | waited | urc | simAvailable =>
    apply h.of_same
    · simp [hnext]
    · simp [hnext]
    · simp [hnext]
    · simp [hnext]
    · exact rearms_of_ne (by simp)
  | drained env hpc | stateChecked env hpc =>
    apply h.of_same
    · simp [hnext]
    · simp [hnext]
    · simp [hnext]
    · simp [hnext]
    · exact rearms_of_ne (by simp [hpc])
  | overallChecked env hpc => exact h.check hpc env
  | handled env hpc => exact h.handle hpc env
  | @written env next up state hpc =>
    have hrearms : rearms r.network (.task env) = false := rearms_of_ne (by simp [hpc])
    cases up with
    | true =>
      -- the flag is up after the write, so no anchor counts
      apply h.of_kept _ hrearms
      · simp [hnext]
      · simp [hnext]
      · simp [beginsWait, hnext]
    | false =>
      apply h.of_same
      · simp [hnext]
      · simp [hnext]
      · simp [hnext]
      · simp [hnext]
      · exact hrearms

/-! ## Whole runs -/

theorem check_of {n : Network} {e : NetworkEvent} (h : OverallCheck n e = true) :
    n.pc = .overallTimeout ∧ ∃ env, e = .task env := by
  cases e with
  | task env => exact ⟨by simpa [OverallCheck] using h, env, rfl⟩
  | _ => contradiction

/-- A check that does not start a wait leaves the time of the wait as it is. -/
theorem inTime_check (hpc : r.network.pc = .overallTimeout) (env : ModemEnv)
    (hdown : r.network.connected = false)
    (hcheck : .resetSoft ∉ (networkCheckOverallTimeout r.network).1) :
    (overallMachine.step r (.task env)).2.InTime ↔
      r.network.time < r.since + networkOverallTimeoutMs.toNat := by
  have hstep := step_check hpc env
  obtain ⟨anchor, hframe⟩ := networkCheckOverallTimeout_frame r.network
  have hbegins : beginsWait r.network (.task env) = false := by
    simp only [beginsWait, hstep, hdown, hcheck]
    simp
  rw [hframe] at hstep
  simp only [InTime, overallMachine, hbegins, hstep, hdown]
  simp

/-- A check escalates in time exactly where it is not starved. -/
theorem Anchored.escalates_iff (h : r.Anchored) (e : NetworkEvent) :
    r.Escalates e ↔ r.Unstarved e := by
  by_cases hcheck : OverallCheck r.network e = true
  · obtain ⟨hpc, env, rfl⟩ := check_of hcheck
    have hstep := step_check hpc env
    simp only [Escalates, Unstarved, hcheck, true_implies]
    rcases checked r.network with ⟨hup, hdone⟩ | ⟨hdown, hsim, hdone⟩ |
      ⟨hdown, hsim, hearly, hdone⟩ | ⟨hdown, hsim, hlate, hdone⟩
    · have hnext : (overallMachine.step r (.task env)).2.InTime :=
        Or.inl (by simp [overallMachine, hstep, hdone, hup])
      simp [hnext, hup]
    · rw [inTime_check hpc env hdown (by simp [hdone])]
      simp [hdown, hsim]
    · rw [inTime_check hpc env hdown (by simp [hdone])]
      rw [h.elapsed hdown] at hearly
      constructor
      · intro hin _ hlate
        exact absurd hin (Nat.not_lt.mpr hlate)
      · intro hunstarved
        by_contra hlate
        obtain ⟨-, hrearmed⟩ := hunstarved hdown (Nat.le_of_not_lt hlate)
        exact absurd hearly (Nat.not_lt.mpr hrearmed)
    · rw [h.elapsed hdown] at hlate
      have hbegins : beginsWait r.network (.task env) = true := by
        simp [beginsWait, hstep, hdone]
      have hnext : (overallMachine.step r (.task env)).2.InTime := by
        refine Or.inr ?_
        simp only [overallMachine, hbegins, hstep, hdone]
        exact Nat.lt_add_of_pos_right (by decide)
      exact ⟨fun _ _ _ => ⟨hsim, hlate⟩, fun _ => hnext⟩
  · simp [Escalates, Unstarved, hcheck]

/-- The pass is past its check. -/
def pastCheck : NetworkPc → Bool
  | .handle | .write .. => true
  | _ => false

/-- Only the check brings a pass past its check. -/
theorem pastCheck_of_step {n : Network} {e : NetworkEvent} (hcheck : OverallCheck n e = false)
    (h : pastCheck (networkMachine.step n e).2.pc = true) : pastCheck n.pc = true := by
  have hstep := networkStep n e
  generalize networkMachine.step n e = next at hstep h
  cases hstep with
  | waited ms => exact h
  | urc event => exact h
  | drained env hpc => contradiction
  | stateChecked env hpc => contradiction
  | overallChecked env hpc => simp [OverallCheck, hpc] at hcheck
  | handled env hpc =>
    rw [hpc]
    rfl
  | written env hpc =>
    rw [hpc]
    rfl
  | simAvailable => exact h

/-- Past its check, a pass without a connection has made it before the timeout. -/
structure OnTime (r : OverallRun) : Prop where
  anchored : r.Anchored
  checkedAt_le : r.checkedAt ≤ r.network.time
  prompt : pastCheck r.network.pc = true → r.network.connected = false →
    r.checkedAt < r.since + networkOverallTimeoutMs.toNat

theorem onTime_start (time : Nat) : (start time).OnTime where
  anchored := anchored_start time
  checkedAt_le := Nat.le_refl _
  prompt := by
    intro hpast
    contradiction

theorem OnTime.step (h : r.OnTime) {e : NetworkEvent} (hunstarved : r.Unstarved e) :
    (overallMachine.step r e).2.OnTime := by
  have htime := networkStep_time_le r.network e
  by_cases hcheck : OverallCheck r.network e = true
  · obtain ⟨hpc, env, rfl⟩ := check_of hcheck
    have hkept : (networkMachine.step r.network (.task env)).2.time = r.network.time := by
      obtain ⟨since, hframe⟩ := networkCheckOverallTimeout_frame r.network
      rw [step_check hpc env, hframe]
    have hin := (h.anchored.escalates_iff _).mpr hunstarved hcheck
    have hat : (overallMachine.step r (.task env)).2.checkedAt = r.network.time := if_pos hcheck
    refine ⟨h.anchored.step _, ?_, ?_⟩
    · rw [hat]
      exact htime
    · intro _ hdown
      rcases hin with hup | hbefore
      · rw [hdown] at hup
        contradiction
      · rw [hat]
        exact hkept.symm.trans_lt hbefore
  · have hat : (overallMachine.step r e).2.checkedAt = r.checkedAt := if_neg hcheck
    refine ⟨h.anchored.step _, ?_, ?_⟩
    · rw [hat]
      exact h.checkedAt_le.trans htime
    · intro hpast hdown
      have hbefore := pastCheck_of_step (eq_false_of_ne_true hcheck) hpast
      have hle := h.checkedAt_le
      rw [hat]
      by_cases hbegins : beginsWait r.network e = true
      · have hsince : (overallMachine.step r e).2.since = r.network.time := if_pos hbegins
        rw [hsince]
        exact hle.trans_lt (Nat.lt_add_of_pos_right (by decide))
      · have hsince : (overallMachine.step r e).2.since = r.since := if_neg hbegins
        rw [hsince]
        apply h.prompt hbefore
        by_contra hup
        apply hbegins
        rw [Bool.not_eq_false] at hup
        simp only [beginsWait, decide_eq_true_eq]
        exact Or.inl ⟨hup, hdown⟩

theorem OnTime.completesInTime (h : r.OnTime) (e : NetworkEvent) : r.CompletesInTime e := by
  intro hcompletes hdown
  have hpast : pastCheck r.network.pc = true := by
    unfold Completes at hcompletes
    split at hcompletes
    · rename_i hpc
      rw [hpc]
      rfl
    · contradiction
  have hprompt := h.prompt hpast hdown
  have hle := h.checkedAt_le
  omega

/-- The checks of a run escalate in time exactly where none is starved, and then no pass
completes later without a connection. -/
theorem overall_escalation (time : Nat) (es : List NetworkEvent) :
    (overallMachine.Along Escalates (start time) es ↔
      overallMachine.Along Unstarved (start time) es) ∧
    (overallMachine.Along Unstarved (start time) es →
      overallMachine.Along CompletesInTime (start time) es) := by
  constructor
  · exact overallMachine.along_congr (fun _ e h _ => Anchored.step h e)
      (fun _ e h => Anchored.escalates_iff h e) (anchored_start time)
  · intro hunstarved
    exact Machine.Along.mono_of_invariant (fun _ _ h hstep => OnTime.step h hstep)
      (fun _ e h _ => OnTime.completesInTime h e) (onTime_start time) hunstarved

/-- A modem with a SIM that finds no network to register with. -/
def searching (simReady : ModemResult) : ModemEnv where
  simStatus := true
  simReady := simReady
  getCtzu := (.success, 1)
  setCtzu := .success
  getCreg := (.success, .searching)
  getCgreg := (.success, .searching)
  getCgatt := (.success, false)
  setPdpContext := .success
  activatePdp := .success
  getIpAddress := (.success, false)
  setCfun := .success

/-- Ten minutes with a SIM that waits for its PIN, which no timeout of the state cuts short. -/
def pinAwaited : List NetworkEvent :=
  List.replicate 10 (.task (searching .failed)) ++
    .wait 600000 :: List.replicate 5 (.task (searching .failed))

/-- There the reset is asked for. -/
theorem overall_escalation_run :
    [.resetSoft] ∈ (overallMachine.run (start 0) pinAwaited).1 ∧
    overallMachine.Along Escalates (start 0) pinAwaited ∧
    overallMachine.Along CompletesInTime (start 0) pinAwaited := by
  have hunstarved : overallMachine.Along Unstarved (start 0) pinAwaited := by decide +kernel
  obtain ⟨hescalates, hcompletes⟩ := overall_escalation 0 pinAwaited
  exact ⟨by decide +kernel, hescalates.mpr hunstarved, hcompletes hunstarved⟩

/-- A pass with a modem that searches, and the time until the next one. -/
def searchingPass : List NetworkEvent :=
  List.replicate 5 (.task (searching .success)) ++ [.wait 5000]

/-- The SIM stays available. -/
def SimStays (e : NetworkEvent) : Bool :=
  match e with
  | .task env => env.simStatus
  | _ => true

/-- A modem that never registers is restarted again and again, and the reset is never asked
for. -/
theorem starved_by_restarts :
    ¬ ∀ (time : Nat) (es : List NetworkEvent), (∀ e ∈ es, SimStays e = true) →
      overallMachine.Along (fun r _ => r.network.connected = false) (start time) es →
      overallMachine.Along CompletesInTime (start time) es := by
  intro h
  have hlate := h 0 ((List.replicate 140 searchingPass).flatten) (by decide +kernel)
    (by decide +kernel)
  revert hlate
  decide +kernel

end OverallRun

end WalnutGateway
