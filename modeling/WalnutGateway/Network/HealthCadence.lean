import WalnutGateway.Network.Connected

/-!
# The health checks of a stay

The handler of `CONNECTED` waits for the connection to stabilize and then checks it at an interval.
Its clocks are statics that only a failed check clears, and 0 stands for a clock that was not
started. So a stay that a URC or a SIM event has ended leaves its clocks to the next one.
-/

namespace WalnutGateway

/-- The task with the time its stay in `CONNECTED` began, the time its clock of the interval was
set, and the time of the latest check of the stay. -/
structure StayRun where
  network : Network
  enteredAt : Nat
  anchoredAt : Nat
  checkedAt : Option Nat

/-- A stay begins. -/
def Enters (n : Network) (e : NetworkEvent) : Bool :=
  n.state ≠ .connected ∧ (networkMachine.step n e).2.state = .connected

/-- The handler of a stay runs. -/
def StayHandled (n : Network) (e : NetworkEvent) : Bool :=
  Handles .connected (fun _ _ => true) (n, e)

/-- A health check is made. -/
def HealthChecked (n : Network) (e : NetworkEvent) : Bool :=
  StayHandled n e ∧ n.healthCheckDue

/-- The clock of the interval is set. -/
def Anchors (n : Network) (e : NetworkEvent) : Bool :=
  StayHandled n e ∧ (n.connectedStartTicks = 0 ∨ n.healthCheckDue)

/-- The task, step by step, with the times. -/
def stayMachine : Machine StayRun NetworkEvent (List NetworkOutput) where
  step r e :=
    let next := networkMachine.step r.network e
    let time := r.network.time
    (next.1,
      { network := next.2
        enteredAt := if Enters r.network e then time else r.enteredAt
        anchoredAt := if Anchors r.network e then time else r.anchoredAt
        checkedAt :=
          if Enters r.network e then none
          else if HealthChecked r.network e then some time
          else r.checkedAt })

/-! ## What the clocks depend on -/

theorem stayHandled_iff {n : Network} {e : NetworkEvent} : StayHandled n e = true ↔
    ∃ env, e = .task env ∧ n.pc = .handle ∧ n.state = .connected := by
  cases e with
  | task env => simp [StayHandled, Handles]
  | _ => simp [StayHandled, Handles]

/-- Only the handler of a stay moves its clocks. -/
structure SameClocks (n next : Network) : Prop where
  start : next.connectedStartTicks = n.connectedStartTicks
  last : next.lastHealthCheckTicks = n.lastHealthCheckTicks

theorem sameClocks_setConnected (n : Network) (up : Bool) : SameClocks n (n.setConnected up) := by
  obtain ⟨connected, since, hframe⟩ := n.setConnected_frame up
  rw [hframe]
  exact ⟨rfl, rfl⟩

theorem sameClocks_handleState (env : ModemEnv) {n : Network} (h : n.state ≠ .connected) :
    SameClocks n (networkHandleState env n).2 := by
  have hclear := sameClocks_setConnected n false
  unfold networkHandleState
  cases hstate : n.state with
  | connected => exact absurd hstate h
  | init => exact ⟨hclear.start, hclear.last⟩
  | simRemove => exact ⟨hclear.start, hclear.last⟩
  | disconnected => exact ⟨hclear.start, hclear.last⟩
  | restartCfun =>
    obtain ⟨step, tick, hsnd⟩ := networkStateHandleRestartCfun_snd env n
    dsimp only
    rw [hsnd]
    exact ⟨rfl, rfl⟩
  | _ => exact ⟨rfl, rfl⟩

/-- In a stay they are what its handler makes of them. -/
theorem sameClocks_handleConnected (env : ModemEnv) {n : Network} (h : n.state = .connected) :
    SameClocks (networkStateHandleConnected env n).2 (networkHandleState env n).2 := by
  unfold networkHandleState
  rw [h]
  dsimp only
  split
  · exact ⟨rfl, rfl⟩
  · exact ⟨rfl, rfl⟩
  · exact ⟨rfl, rfl⟩

theorem sameClocks_step {n : Network} {e : NetworkEvent} (h : StayHandled n e = false) :
    SameClocks n (networkMachine.step n e).2 := by
  have hstep := networkStep n e
  generalize networkMachine.step n e = next at hstep
  cases hstep with
  | overallChecked env hpc =>
    obtain ⟨since, hframe⟩ := networkCheckOverallTimeout_frame n
    rw [hframe]
    exact ⟨rfl, rfl⟩
  | handled env hpc =>
    apply sameClocks_handleState
    intro hstate
    rw [stayHandled_iff.mpr ⟨env, rfl, hpc, hstate⟩] at h
    contradiction
  | _ => exact ⟨rfl, rfl⟩

namespace StayRun

/-- The task when it starts. -/
def start (time : Nat) : StayRun := ⟨.start time, time, time, none⟩

/-- A check comes after the stabilizing time and an interval of the stay, and an interval after the
check before it. -/
def Paced (r : StayRun) (e : NetworkEvent) : Prop :=
  HealthChecked r.network e = true →
    r.enteredAt + networkConnectedStabilizeMs.toNat ≤ r.network.time ∧
    r.enteredAt + networkHealthCheckIntervalMs.toNat ≤ r.network.time ∧
    ∀ t ∈ r.checkedAt, t + networkHealthCheckIntervalMs.toNat ≤ r.network.time

/-- A stay begins with clear clocks, and the handler does not run twice at a tick 0. -/
def Fresh (r : StayRun) (e : NetworkEvent) : Prop :=
  (Enters r.network e = true → r.network.connectedStartTicks = 0) ∧
    (StayHandled r.network e = true → r.network.ticks = 0 →
      r.network.connectedStartTicks = 0 ∨ r.anchoredAt ≠ r.network.time)

instance (r : StayRun) (e : NetworkEvent) : Decidable (r.Paced e) :=
  inferInstanceAs (Decidable (_ → _))

instance (r : StayRun) (e : NetworkEvent) : Decidable (r.Fresh e) :=
  inferInstanceAs (Decidable (_ ∧ _))

/-- A time as a tick that is never 0. -/
def tickNonzero (time : Nat) : UInt32 := if UInt32.ofNat time = 0 then 1 else UInt32.ofNat time

/-- The clock of the interval is that of its latest setting, in the stay and at its latest check or
after it. -/
structure Clocked (r : StayRun) : Prop where
  clock : r.network.lastHealthCheckTicks = tickNonzero r.anchoredAt
  entered_le : r.enteredAt ≤ r.anchoredAt
  anchored_le : r.anchoredAt ≤ r.network.time
  checked_le : ∀ t ∈ r.checkedAt, t ≤ r.anchoredAt

/-- In a stay that has started its clocks, they are its own. -/
structure OwnClocks (r : StayRun) : Prop where
  entered_le : r.enteredAt ≤ r.network.time
  checked_le : ∀ t ∈ r.checkedAt, t ≤ r.network.time
  clocked : r.network.state = .connected → r.network.connectedStartTicks ≠ 0 → r.Clocked

theorem ownClocks_start (time : Nat) : (start time).OwnClocks where
  entered_le := le_rfl
  checked_le := nofun
  clocked := nofun

variable {r : StayRun}

/-- The interval has passed on the tick counter, hence in time. -/
theorem Clocked.interval_le (h : r.Clocked) (hdue : r.network.healthCheckDue = true)
    (hzero : r.network.ticks = 0 → r.anchoredAt ≠ r.network.time) :
    r.anchoredAt + networkHealthCheckIntervalMs.toNat ≤ r.network.time := by
  have hle := h.anchored_le
  have helapsed : networkHealthCheckIntervalMs.toNat ≤
      (r.network.ticks - r.network.lastHealthCheckTicks).toNat := by
    simp only [Network.healthCheckDue, decide_eq_true_eq] at hdue
    exact UInt32.le_iff_toNat_le.mp hdue.2.2
  have hticks : r.network.ticks.toNat = r.network.time % 2 ^ 32 := UInt32.toNat_ofNat'
  have hanchor : (UInt32.ofNat r.anchoredAt).toNat = r.anchoredAt % 2 ^ 32 := UInt32.toNat_ofNat'
  rw [h.clock, tickNonzero, UInt32.toNat_sub, hticks] at helapsed
  have hconst : networkHealthCheckIntervalMs.toNat = 65000 := rfl
  rw [hconst] at helapsed ⊢
  by_cases hsentinel : UInt32.ofNat r.anchoredAt = 0
  · have hwhole : r.anchoredAt % 2 ^ 32 = 0 := by
      rw [← hanchor, hsentinel]
      rfl
    rw [if_pos hsentinel] at helapsed
    change 65000 ≤ (2 ^ 32 - 1 + r.network.time % 2 ^ 32) % 2 ^ 32 at helapsed
    by_cases htick : r.network.time % 2 ^ 32 = 0
    · -- both ticks are 0, so the times differ by a whole turn of the counter
      have hne := hzero (UInt32.toNat_inj.mp (hticks.trans htick))
      omega
    · omega
  · rw [if_neg hsentinel, hanchor] at helapsed
    omega

theorem OwnClocks.paced (h : r.OwnClocks) {e : NetworkEvent} (hfresh : r.Fresh e) : r.Paced e := by
  intro hchecked
  simp only [HealthChecked, decide_eq_true_eq] at hchecked
  obtain ⟨hhandled, hdue⟩ := hchecked
  have hstarted : r.network.connectedStartTicks ≠ 0 := by
    simp only [Network.healthCheckDue, decide_eq_true_eq] at hdue
    exact hdue.1
  obtain ⟨env, rfl, hpc, hstate⟩ := stayHandled_iff.mp hhandled
  have hclocked := h.clocked hstate hstarted
  have hinterval := hclocked.interval_le hdue
    fun htick => (hfresh.2 hhandled htick).resolve_left hstarted
  have hentered := hclocked.entered_le
  refine ⟨?_, by omega, fun t ht => ?_⟩
  · have hstabilize : networkConnectedStabilizeMs.toNat ≤ networkHealthCheckIntervalMs.toNat := by
      decide
    omega
  · have hchecked := hclocked.checked_le t ht
    omega

/-- A step outside the handler of a stay leaves the clocks alone, and a stay that begins finds them
clear. -/
theorem OwnClocks.step_other (h : r.OwnClocks) {e : NetworkEvent} (hfresh : r.Fresh e)
    (hother : StayHandled r.network e = false) : (stayMachine.step r e).2.OwnClocks := by
  have hsame := sameClocks_step hother
  have htime := networkStep_time_le r.network e
  have hanchors : Anchors r.network e = false := by simp [Anchors, hother]
  have hchecked : HealthChecked r.network e = false := by simp [HealthChecked, hother]
  by_cases henters : Enters r.network e = true
  · refine ⟨?_, ?_, ?_⟩
    · simpa only [stayMachine, henters, if_true] using htime
    · simp [stayMachine, henters]
    · intro _ hstarted
      exact absurd (hsame.start.trans (hfresh.1 henters)) hstarted
  · rw [Bool.not_eq_true] at henters
    have hnext : (stayMachine.step r e).2 =
        { r with network := (networkMachine.step r.network e).2 } := by
      simp [stayMachine, henters, hanchors, hchecked]
    rw [hnext]
    refine ⟨h.entered_le.trans htime, fun t ht => (h.checked_le t ht).trans htime, ?_⟩
    intro hstate hstarted
    have hbefore : r.network.state = .connected := by
      by_contra hne
      simp [Enters, hne] at henters
      exact henters hstate
    have hclocked := h.clocked hbefore fun hzero => hstarted (hsame.start.trans hzero)
    exact ⟨hsame.last.trans hclocked.clock, hclocked.entered_le,
      hclocked.anchored_le.trans htime, hclocked.checked_le⟩

/-- The handler starts the clocks, or sets that of the interval at a check. -/
theorem OwnClocks.step_handled (h : r.OwnClocks) {env : ModemEnv} (hpc : r.network.pc = .handle)
    (hstate : r.network.state = .connected) :
    (stayMachine.step r (.task env)).2.OwnClocks := by
  have hhandled : StayHandled r.network (.task env) = true :=
    stayHandled_iff.mpr ⟨env, rfl, hpc, hstate⟩
  have hframe := networkHandleState_frame env r.network
  have hnext : (networkMachine.step r.network (.task env)).2 =
      (networkHandleState env r.network).2 := by
    change (networkTaskEntry env r.network).2 = _
    simp only [networkTaskEntry, hpc]
  have hsame := sameClocks_handleConnected env hstate
  have henters : Enters r.network (.task env) = false := by simp [Enters, hstate]
  have hle := h.entered_le
  have hkept : (networkHandleState env r.network).2.time = r.network.time := hframe.time
  by_cases hanchors : r.network.connectedStartTicks = 0 ∨ r.network.healthCheckDue = true
  · have hset : Anchors r.network (.task env) = true := by simp [Anchors, hhandled, hanchors]
    have hchecked : ∀ t ∈ (stayMachine.step r (.task env)).2.checkedAt, t ≤ r.network.time := by
      intro t ht
      simp only [stayMachine, henters, Bool.false_eq_true, if_false] at ht
      split_ifs at ht
      · exact (Option.mem_some_iff.mp ht).ge
      · exact h.checked_le t ht
    have hanchored : (stayMachine.step r (.task env)).2.anchoredAt = r.network.time := if_pos hset
    have hentered : (stayMachine.step r (.task env)).2.enteredAt = r.enteredAt := by
      simp [stayMachine, henters]
    have hnetwork : (stayMachine.step r (.task env)).2.network =
        (networkHandleState env r.network).2 := hnext
    refine ⟨?_, ?_, ?_⟩
    · rw [hentered, hnetwork, hkept]
      exact hle
    · rw [hnetwork, hkept]
      exact hchecked
    · rw [hnetwork]
      intro _ hstarted
      refine ⟨?_, ?_, ?_, ?_⟩
      · rw [hnetwork, hanchored, hsame.last]
        rw [hsame.start] at hstarted
        unfold networkStateHandleConnected at hstarted ⊢
        split_ifs at hstarted ⊢ with hzero hdue hfails
        · rfl
        · exact absurd hanchors (not_or.mpr ⟨hzero, by simp [hdue]⟩)
        · exact absurd rfl hstarted
        · rfl
      · rw [hentered, hanchored]
        exact hle
      · rw [hanchored, hnetwork, hkept]
      · rw [hanchored]
        exact hchecked
  · obtain ⟨hstarted, hdue⟩ := not_or.mp hanchors
    rw [Bool.not_eq_true] at hdue
    have hclocks : (networkStateHandleConnected env r.network).2 = r.network := by
      rw [networkStateHandleConnected, if_neg hstarted, if_pos hdue]
    have hstep : (stayMachine.step r (.task env)).2 =
        { r with network := (networkHandleState env r.network).2 } := by
      simp [stayMachine, henters, Anchors, HealthChecked, hstarted, hdue, hnext]
    rw [hclocks] at hsame
    have hclocked := h.clocked hstate hstarted
    rw [hstep]
    exact ⟨hkept ▸ hle, hkept ▸ h.checked_le, fun _ _ => ⟨hsame.last.trans hclocked.clock,
      hclocked.entered_le, hkept ▸ hclocked.anchored_le, hclocked.checked_le⟩⟩

theorem OwnClocks.step (h : r.OwnClocks) {e : NetworkEvent} (hfresh : r.Fresh e) :
    (stayMachine.step r e).2.OwnClocks := by
  by_cases hhandled : StayHandled r.network e = true
  · obtain ⟨env, rfl, hpc, hstate⟩ := stayHandled_iff.mp hhandled
    exact h.step_handled hpc hstate
  · exact h.step_other hfresh (eq_false_of_ne_true hhandled)

/-- Where every stay begins with clear clocks, and the handler does not run twice at a tick 0,
every check keeps the pace of its stay. -/
theorem health_cadence (time : Nat) (es : List NetworkEvent)
    (h : stayMachine.Along Fresh (start time) es) : stayMachine.Along Paced (start time) es :=
  Machine.Along.mono_of_invariant (fun _ _ hown hfresh => OwnClocks.step hown hfresh)
    (fun _ _ hown hfresh => OwnClocks.paced hown hfresh) (ownClocks_start time) h

/-- A pass of the task with a modem that is well. -/
def healthyPass : List NetworkEvent := List.replicate 5 (.task allUp)

/-- The connection comes up and is checked twice. -/
def checkedTwice : List NetworkEvent :=
  List.replicate 50 (.task allUp) ++ healthyPass ++ .wait 65000 :: healthyPass ++
    .wait 65000 :: healthyPass

/-- There the checks keep the pace. -/
theorem health_cadence_run :
    (stayMachine.run (start 1000) checkedTwice).2.checkedAt = some 131000 ∧
    stayMachine.Along Paced (start 1000) checkedTwice :=
  ⟨by decide +kernel, health_cadence 1000 checkedTwice (by decide +kernel)⟩

/-- A detach ends a stay of more than an interval, and the next stay is checked in its first
pass. -/
theorem health_cadence_after_detach :
    ¬ ∀ (time : Nat) (es : List NetworkEvent), stayMachine.Along Paced (start time) es := by
  intro h
  have hrun := h 1000 (List.replicate 50 (.task allUp) ++ healthyPass ++ .wait 66000 ::
    .urc .netDisconnected :: List.replicate 55 (.task allUp) ++ healthyPass)
  exact absurd hrun (by decide +kernel)

/-- Two passes at a tick 0, and the second one makes a check. -/
example : ¬ stayMachine.Along Paced (start 0) (List.replicate 50 (.task allUp) ++ healthyPass ++
    healthyPass) := by
  decide +kernel

end StayRun

end WalnutGateway
