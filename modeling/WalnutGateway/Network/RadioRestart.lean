import WalnutGateway.Network.Connected

/-!
# The radio restart

`RESTART_CFUN` switches the radio off, waits, switches it on and waits again; a SIM that
becomes available asks for such a cycle. Every entry begins a new cycle, but the timeout of
the state leaves it wherever the cycle stands, and a write that is pending when the SIM
event comes may overrule the event.
-/

namespace WalnutGateway

/-- What ends a cycle: the radio is switched on, or it has settled after that. -/
inductive CycleEnd
  | switchedOn
  | settled
  deriving DecidableEq

/-- The radio, after what was asked of the modem. -/
def radioAfter (radio : Bool) (outputs : List NetworkOutput) : Bool :=
  outputs.foldl (fun radio output =>
    match output with
    | .setCfun on true => on
    | _ => radio) radio

/-- The task, with the radio and the SIM events. -/
structure RestartRun where
  network : Network
  /-- What the last `set_cfun` that succeeded asked for; on before the first. -/
  radio : Bool
  /-- A SIM event has come, and no cycle has ended since. -/
  owed : Bool

/-- The handler of the restart has ended a cycle. -/
def handlerEnds (ends : CycleEnd) (handled : Result × List NetworkOutput × Network) : Bool :=
  match ends with
  | .switchedOn => .setCfun true true ∈ handled.2.1
  | .settled => handled.1 = .success

/-- The step ends a cycle. -/
def endsCycle (ends : CycleEnd) (n : Network) (e : NetworkEvent) : Bool :=
  match e with
  | .task env =>
    n.pc = .handle ∧ n.state = .restartCfun ∧
      handlerEnds ends (networkStateHandleRestartCfun env n)
  | _ => false

/-- The task, step by step, with the radio and the SIM events. -/
def restartMachine (ends : CycleEnd) : Machine RestartRun NetworkEvent (List NetworkOutput) where
  step r e :=
    let next := networkMachine.step r.network e
    (next.1,
      { network := next.2
        radio := radioAfter r.radio next.1
        owed := e = .simAvailable ∨ (r.owed ∧ endsCycle ends r.network e = false) })

/-- A write that leaves `RESTART_CFUN`. -/
def NetworkPc.overrules : NetworkPc → Bool
  | .write (some .init) _ | .write (some .error) _ => true
  | _ => false

/-- The step is the timeout of `RESTART_CFUN`. -/
def restartTimesOut (n : Network) (e : NetworkEvent) : Bool :=
  match e with
  | .task _ => n.pc = .stateTimeout ∧ n.state = .restartCfun ∧ n.stateTimedOut
  | _ => false

/-! ## What a step does to the radio -/

/-- What a step does to the state, the restart and the radio. -/
inductive RadioStep (n : Network) (e : NetworkEvent) : List NetworkOutput × Network → Prop
  /-- The restart goes on, if there is one. -/
  | passing {outputs next} (hradio : ∀ radio, radioAfter radio outputs = radio)
    (hcfun : next.cfunStep = n.cfunStep)
    (hstate : n.state = .restartCfun → next.state = .restartCfun)
    (hpc : next.pc = n.pc ∨ ∀ state up, next.pc ≠ .write state up) : RadioStep n e (outputs, next)
  /-- The timeout of `RESTART_CFUN`. -/
  | timedOut {next} (htimesOut : restartTimesOut n e = true) (hcfun : next.cfunStep = .idle) :
    RadioStep n e ([], next)
  /-- The handler of another state. -/
  | elsewhere {outputs next} (hradio : ∀ radio, radioAfter radio outputs = radio)
    (hstate : n.state ≠ .restartCfun) (hcfun : next.cfunStep = n.cfunStep) :
    RadioStep n e (outputs, next)
  /-- The handler of the restart waits, or is refused. -/
  | waiting {outputs next} (hradio : ∀ radio, radioAfter radio outputs = radio)
    (hstate : next.state = .restartCfun) (hcfun : next.cfunStep = n.cfunStep)
    (hpc : next.pc = .write (some .restartCfun) false) : RadioStep n e (outputs, next)
  /-- The handler switches the radio off. -/
  | off {next} (hbefore : n.state = .restartCfun) (hstate : next.state = .restartCfun)
    (hcfun : next.cfunStep = .waitOff) (hpc : next.pc = .write (some .restartCfun) false) :
    RadioStep n e ([.setCfun false true], next)
  /-- The handler switches the radio on. -/
  | on {next} (hbefore : n.state = .restartCfun) (hends : endsCycle .switchedOn n e = true)
    (hstate : next.state = .restartCfun)
    (hcfun : next.cfunStep = .waitOn) (hpc : next.pc = .write (some .restartCfun) false) :
    RadioStep n e ([.setCfun true true], next)
  /-- The handler finds that the radio has settled. -/
  | settled {next} (hbefore : n.state = .restartCfun) (hends : endsCycle .settled n e = true)
    (hwaiting : n.cfunStep = .waitOn) (hcfun : next.cfunStep = .idle) : RadioStep n e ([], next)
  /-- A write that leaves the state, whatever it is. -/
  | overruled {next} (hpc : n.pc.overrules = true) (hcfun : next.cfunStep = n.cfunStep) :
    RadioStep n e ([], next)

/-- What the handler of the restart does. -/
inductive RestartHandled (n : Network) : Result × List NetworkOutput × Network → Prop
  | waiting {outputs} (hradio : ∀ radio, radioAfter radio outputs = radio) :
    RestartHandled n (.busy, outputs, n)
  | off (hbefore : n.cfunStep = .idle) :
    RestartHandled n
      (.busy, [.setCfun false true], { n with cfunStep := .waitOff, cfunStepTick := n.ticks })
  | on (hbefore : n.cfunStep = .waitOff) :
    RestartHandled n
      (.busy, [.setCfun true true], { n with cfunStep := .waitOn, cfunStepTick := n.ticks })
  | settled (hbefore : n.cfunStep = .waitOn) :
    RestartHandled n (.success, [], { n with cfunStep := .idle })

theorem restartHandled (env : ModemEnv) (n : Network) :
    RestartHandled n (networkStateHandleRestartCfun env n) := by
  unfold networkStateHandleRestartCfun
  cases hcfun : n.cfunStep with
  | idle =>
    dsimp only
    split
    · exact .waiting fun _ => rfl
    · exact .off hcfun
  | waitOff =>
    dsimp only
    split
    · exact .waiting fun _ => rfl
    · split
      · exact .waiting fun _ => rfl
      · exact .on hcfun
  | waitOn =>
    dsimp only
    split
    · exact .waiting fun _ => rfl
    · exact .settled hcfun

theorem radioAfter_nil (radio : Bool) : radioAfter radio [] = radio := rfl

/-- Another state asks nothing of the radio. -/
theorem radioAfter_handleState {n : Network} (hstate : n.state ≠ .restartCfun) (env : ModemEnv)
    (radio : Bool) : radioAfter radio (networkHandleState env n).1 = radio := by
  unfold networkHandleState
  cases hnow : n.state with
  | restartCfun => contradiction
  | connected =>
    dsimp only
    split
    · rfl
    · rfl
    · rfl
  | _ => rfl

theorem radioStep_handle {n : Network} (hpc : n.pc = .handle) (env : ModemEnv) :
    RadioStep n (.task env) (networkHandleState env n) := by
  by_cases hstate : n.state = .restartCfun
  · have hends : ∀ ends, endsCycle ends n (.task env) =
        handlerEnds ends (networkStateHandleRestartCfun env n) := by
      intro ends
      simp [endsCycle, hpc, hstate]
    have hhandled := restartHandled env n
    simp only [networkHandleState, hstate]
    generalize networkStateHandleRestartCfun env n = handled at hends hhandled
    cases hhandled with
    | waiting hradio => exact .waiting hradio hstate rfl rfl
    | off hbefore => exact .off hstate hstate rfl rfl
    | on hbefore => exact .on hstate (hends .switchedOn) hstate rfl rfl
    | settled hbefore => exact .settled hstate (hends .settled) hbefore rfl
  · exact .elsewhere (radioAfter_handleState hstate env) hstate
      ((networkHandleState_frame env n).cfunStep hstate)

theorem radioStep_write {n : Network} {next : Option NetworkState} {up : Bool}
    (hpc : n.pc = .write next up) (env : ModemEnv) :
    RadioStep n (.task env) ([], networkWriteState next up n) := by
  obtain ⟨state, hwritten⟩ := networkWriteState_frame n next up
  by_cases hoverrules : n.pc.overrules = true
  · exact .overruled hoverrules (by rw [hwritten])
  · apply RadioStep.passing
    · exact fun _ => rfl
    · rw [hwritten]
    · intro hstate
      cases next with
      | none =>
        cases up with
        | false => exact hstate
        | true => simpa [networkWriteState] using hstate
      | some new =>
        have hheld : (n.setState new).state = .restartCfun := by
          unfold Network.setState
          rw [hpc] at hoverrules
          cases new with
          | init | error => simp [NetworkPc.overrules] at hoverrules
          | _ => simp [hstate]
        cases up with
        | false => exact hheld
        | true => simpa [networkWriteState] using hheld
    · rw [hwritten]
      exact Or.inr (by simp)

theorem radioAfter_overallTimeout (n : Network) (radio : Bool) :
    radioAfter radio (networkCheckOverallTimeout n).1 = radio := by
  unfold networkCheckOverallTimeout
  split
  · rfl
  · split
    · rfl
    · split
      · rfl
      · rfl

/-- A URC cannot end a restart. -/
theorem networkHandleUrc_restart {n : Network} (event : UrcEvent) (h : n.state = .restartCfun) :
    (networkHandleUrc event n).state = .restartCfun := by
  cases event with
  | pdpInactive => simp [networkHandleUrc, Network.setState, h]
  | _ => simp [networkHandleUrc, h]

theorem radioStep_task (n : Network) (env : ModemEnv) :
    RadioStep n (.task env) (networkTaskEntry env n) := by
  unfold networkTaskEntry
  cases hpc : n.pc with
  | drain =>
    obtain ⟨last, tick, hnote⟩ := networkNoteState_frame n
    dsimp only
    rw [hnote]
    exact .passing (fun _ => rfl) rfl id (Or.inr (by simp))
  | stateTimeout =>
    dsimp only
    rcases networkCheckStateTimeout_cases n with hsame | ⟨hstate, hset⟩ | ⟨hstate, hlate, hset⟩
    · rw [hsame]
      exact .passing (fun _ => rfl) rfl id (Or.inr (by simp))
    · rw [hset]
      exact .passing (fun _ => rfl) (n.setState_cfunStep _) (fun h => absurd h hstate)
        (Or.inr (by simp))
    · rw [hset]
      exact .timedOut (by simp [restartTimesOut, hpc, hstate, hlate]) rfl
  | overallTimeout =>
    obtain ⟨since, hcheck⟩ := networkCheckOverallTimeout_frame n
    dsimp only
    rw [hcheck]
    exact .passing (radioAfter_overallTimeout n) rfl id (Or.inr (by simp))
  | handle => exact radioStep_handle hpc env
  | write next up => exact radioStep_write hpc env

theorem radioStep (n : Network) (e : NetworkEvent) : RadioStep n e (networkMachine.step n e) := by
  cases e with
  | wait ms => exact .passing (fun _ => rfl) rfl id (Or.inl rfl)
  | urc event =>
    change RadioStep n _ ([], if n.pc = .drain then networkHandleUrc event n else n)
    split
    · refine .passing (fun _ => rfl) ?_ ?_ ?_
      · obtain ⟨state, hframe⟩ := networkHandleUrc_frame n event
        rw [hframe]
      · exact networkHandleUrc_restart event
      · obtain ⟨state, hframe⟩ := networkHandleUrc_frame n event
        rw [hframe]
        exact Or.inl rfl
    · exact .passing (fun _ => rfl) rfl id (Or.inl rfl)
  | task env => exact radioStep_task n env
  | simAvailable =>
    exact .passing (fun _ => rfl) (n.setState_cfunStep _) (fun _ => n.setState_restart)
      (Or.inl (n.setState_pc _))

/-! ## What the restart is for -/

namespace RestartRun

/-- The task when it starts. -/
def start (time : Nat) : RestartRun := ⟨.start time, true, false⟩

/-- An entry to `RESTART_CFUN` begins a new cycle. -/
def EntersIdle (ends : CycleEnd) (r : RestartRun) (e : NetworkEvent) : Prop :=
  r.network.state ≠ .restartCfun →
    ((restartMachine ends).step r e).2.network.state = .restartCfun →
    ((restartMachine ends).step r e).2.network.cfunStep = .idle

/-- `RESTART_CFUN` is left with the radio on. -/
def LeavesOn (ends : CycleEnd) (r : RestartRun) (e : NetworkEvent) : Prop :=
  r.network.state = .restartCfun →
    ((restartMachine ends).step r e).2.network.state ≠ .restartCfun →
    ((restartMachine ends).step r e).2.radio = true

/-- Registration is only checked if a cycle has ended since the latest SIM event. -/
def RegistersRestarted (ends : CycleEnd) (r : RestartRun) (e : NetworkEvent) : Prop :=
  ((restartMachine ends).step r e).2.network.state = .checkRegistration →
    ((restartMachine ends).step r e).2.owed = false

/-- No SIM event comes while a write that leaves `RESTART_CFUN` is pending, nor one after the
radio is switched on where that ends the cycle; the timeout of `RESTART_CFUN` does not come
while the radio is off or a SIM event is unanswered. -/
def Undisturbed (ends : CycleEnd) (r : RestartRun) (e : NetworkEvent) : Prop :=
  (e = .simAvailable → r.network.pc.overrules = false ∧
    (ends = .switchedOn → r.network.cfunStep ≠ .waitOn)) ∧
  (restartTimesOut r.network e = true → r.network.cfunStep ≠ .waitOff ∧ r.owed = false)

instance (ends : CycleEnd) (r : RestartRun) (e : NetworkEvent) : Decidable (r.Undisturbed ends e) :=
  inferInstanceAs (Decidable (_ ∧ _))

instance (ends : CycleEnd) (r : RestartRun) (e : NetworkEvent) : Decidable (r.LeavesOn ends e) :=
  inferInstanceAs (Decidable (_ → _))

instance (ends : CycleEnd) (r : RestartRun) (e : NetworkEvent) :
    Decidable (r.RegistersRestarted ends e) :=
  inferInstanceAs (Decidable (_ → _))

/-- Outside `RESTART_CFUN`, or about to leave it, no cycle has begun. -/
structure Held (n : Network) : Prop where
  state : n.cfunStep ≠ .idle → n.state = .restartCfun
  pc : n.cfunStep ≠ .idle → ∀ next up, n.pc = .write next up → next = some .restartCfun

/-- The radio is off only in the middle of a cycle, and a SIM event is answered by the
restart that goes on. -/
structure Whole (ends : CycleEnd) (r : RestartRun) : Prop where
  held : Held r.network
  radio : r.radio = false → r.network.cfunStep = .waitOff
  state : r.owed = true → r.network.state = .restartCfun
  pc : r.owed = true → r.network.pc.overrules = false
  cfunStep : ends = .switchedOn → r.owed = true → r.network.cfunStep ≠ .waitOn

theorem held_start (time : Nat) : Held (.start time) :=
  ⟨fun h => absurd rfl h, fun h => absurd rfl h⟩

theorem Held.of_idle {n : Network} (h : n.cfunStep = .idle) : Held n :=
  ⟨fun hne => absurd h hne, fun hne => absurd h hne⟩

theorem Held.of_write {n : Network} (hstate : n.state = .restartCfun)
    (hpc : n.pc = .write (some .restartCfun) false) : Held n := by
  refine ⟨fun _ => hstate, fun _ next up hwrite => ?_⟩
  rw [hpc] at hwrite
  cases hwrite
  rfl

/-- A pending write that leaves the restart finds it idle. -/
theorem Held.idle_of_overrules {n : Network} (h : Held n) (hpc : n.pc.overrules = true) :
    n.cfunStep = .idle := by
  by_contra hne
  unfold NetworkPc.overrules at hpc
  split at hpc
  · rename_i hwrite
    exact absurd (h.pc hne _ _ hwrite) (by simp)
  · rename_i hwrite
    exact absurd (h.pc hne _ _ hwrite) (by simp)
  · contradiction

theorem Held.idle_of_ne {n : Network} (h : Held n) (hstate : n.state ≠ .restartCfun) :
    n.cfunStep = .idle := by
  by_contra hne
  exact hstate (h.state hne)

theorem Held.step {n : Network} (h : Held n) (e : NetworkEvent) :
    Held (networkMachine.step n e).2 := by
  have hstep := radioStep n e
  generalize networkMachine.step n e = next at hstep
  cases hstep with
  | passing hradio hcfun hstate hpc =>
    refine ⟨fun hne => ?_, fun hne state up hwrite => ?_⟩
    · rw [hcfun] at hne
      exact hstate (h.state hne)
    · rw [hcfun] at hne
      rcases hpc with hpc | hpc
      · exact h.pc hne state up (hpc.symm.trans hwrite)
      · exact absurd hwrite (hpc state up)
  | timedOut htimesOut hcfun => exact .of_idle hcfun
  | elsewhere hradio hstate hcfun => exact .of_idle (hcfun.trans (h.idle_of_ne hstate))
  | waiting hradio hstate hcfun hpc => exact .of_write hstate hpc
  | off hbefore hstate hcfun hpc => exact .of_write hstate hpc
  | on hbefore hends hstate hcfun hpc => exact .of_write hstate hpc
  | settled hbefore hends hwaiting hcfun => exact .of_idle hcfun
  | overruled hpc hcfun => exact .of_idle (hcfun.trans (h.idle_of_overrules hpc))

variable {ends : CycleEnd} {r : RestartRun}

theorem Held.entersIdle (h : Held r.network) (e : NetworkEvent) : r.EntersIdle ends e := by
  intro hout hin
  have hidle := h.idle_of_ne hout
  have hstep := radioStep r.network e
  change (networkMachine.step r.network e).2.cfunStep = .idle
  generalize networkMachine.step r.network e = next at hstep
  cases hstep with
  | passing hradio hcfun hstate hpc => exact hcfun.trans hidle
  | timedOut htimesOut hcfun => exact hcfun
  | elsewhere hradio hstate hcfun => exact hcfun.trans hidle
  | waiting hradio hstate hcfun hpc => exact hcfun.trans hidle
  | off hbefore hstate hcfun hpc => exact absurd hbefore hout
  | on hbefore hends hstate hcfun hpc => exact absurd hbefore hout
  | settled hbefore hends hwaiting hcfun => exact hcfun
  | overruled hpc hcfun => exact hcfun.trans hidle

theorem Whole.of_paid (hheld : Held r.network)
    (hradio : r.radio = false → r.network.cfunStep = .waitOff) (hpaid : r.owed = false) :
    r.Whole ends where
  held := hheld
  radio := hradio
  state := by simp [hpaid]
  pc := by simp [hpaid]
  cfunStep := by simp [hpaid]

theorem Whole.of_restarting (hstate : r.network.state = .restartCfun)
    (hpc : r.network.pc = .write (some .restartCfun) false)
    (hradio : r.radio = false → r.network.cfunStep = .waitOff)
    (hcfun : ends = .switchedOn → r.owed = true → r.network.cfunStep ≠ .waitOn) :
    r.Whole ends where
  held := .of_write hstate hpc
  radio := hradio
  state := fun _ => hstate
  pc := by
    intro _
    rw [hpc]
    rfl
  cfunStep := hcfun

theorem whole_start (ends : CycleEnd) (time : Nat) : (start time).Whole ends :=
  .of_paid (held_start time) (fun h => by contradiction) rfl

/-- While no cycle has begun the radio is on. -/
theorem Whole.on_of_idle (h : r.Whole ends) (hidle : r.network.cfunStep = .idle) :
    r.radio = true := by
  by_contra hoff
  have hwaiting := h.radio (eq_false_of_ne_true hoff)
  rw [hidle] at hwaiting
  contradiction

/-- A SIM event begins a restart, or joins the one that goes on. -/
theorem Whole.simAvailable (h : r.Whole ends) (hquiet : r.Undisturbed ends .simAvailable) :
    ((restartMachine ends).step r .simAvailable).2.Whole ends := by
  obtain ⟨hpc, hcfun⟩ := hquiet.1 rfl
  refine ⟨h.held.step _, ?_, ?_, ?_, ?_⟩
  · intro hoff
    exact (r.network.setState_cfunStep _).trans (h.radio hoff)
  · exact fun _ => r.network.setState_restart
  · intro _
    change (r.network.setState .restartCfun).pc.overrules = false
    rw [r.network.setState_pc, hpc]
  · intro hends _
    change (r.network.setState .restartCfun).cfunStep ≠ .waitOn
    rw [r.network.setState_cfunStep]
    exact hcfun hends

/-- Any other step keeps what is owed, or answers it. -/
theorem owed_of {e : NetworkEvent} (he : e ≠ .simAvailable)
    (h : ((restartMachine ends).step r e).2.owed = true) :
    r.owed = true ∧ endsCycle ends r.network e = false := by
  simp only [restartMachine, he, false_or, decide_eq_true_eq] at h
  exact h

/-- A step that leaves the restart to go on. -/
theorem Whole.passing (h : r.Whole ends) {outputs : List NetworkOutput} {next : Network}
    {owed : Bool} (hheld : Held next) (hradio : ∀ radio, radioAfter radio outputs = radio)
    (hcfun : next.cfunStep = r.network.cfunStep)
    (hstate : r.network.state = .restartCfun → next.state = .restartCfun)
    (hpc : next.pc = r.network.pc ∨ ∀ state up, next.pc ≠ .write state up)
    (howed : owed = true → r.owed = true) :
    Whole ends { network := next, radio := radioAfter r.radio outputs, owed := owed } := by
  rw [hradio]
  refine ⟨hheld, ?_, ?_, ?_, ?_⟩
  · exact fun hoff => hcfun.trans (h.radio hoff)
  · exact fun hdue => hstate (h.state (howed hdue))
  · intro hdue
    rcases hpc with hpc | hpc
    · exact (congrArg _ hpc).trans (h.pc (howed hdue))
    · unfold NetworkPc.overrules
      split
      · rename_i hwrite
        exact absurd hwrite (hpc _ _)
      · rename_i hwrite
        exact absurd hwrite (hpc _ _)
      · rfl
  · intro hends hdue
    change next.cfunStep ≠ .waitOn
    rw [hcfun]
    exact h.cfunStep hends (howed hdue)

theorem Whole.step (h : r.Whole ends) {e : NetworkEvent} (hquiet : r.Undisturbed ends e) :
    ((restartMachine ends).step r e).2.Whole ends := by
  by_cases he : e = .simAvailable
  · subst he
    exact h.simAvailable hquiet
  · have howed : ((restartMachine ends).step r e).2.owed = true →
        r.owed = true ∧ endsCycle ends r.network e = false := owed_of he
    have hheld : Held (networkMachine.step r.network e).2 := h.held.step e
    have hstep := radioStep r.network e
    change Whole ends ⟨(networkMachine.step r.network e).2,
      radioAfter r.radio (networkMachine.step r.network e).1,
      ((restartMachine ends).step r e).2.owed⟩
    generalize networkMachine.step r.network e = next at hstep hheld
    generalize ((restartMachine ends).step r e).2.owed = owed at howed
    cases hstep with
    | passing hradio hcfun hstate hpc =>
      exact h.passing hheld hradio hcfun hstate hpc fun hdue => (howed hdue).1
    | timedOut htimesOut hcfun =>
      obtain ⟨hnotOff, hpaid⟩ := hquiet.2 htimesOut
      apply Whole.of_paid hheld
      · exact fun hoff => absurd (h.radio hoff) hnotOff
      · rw [← Bool.not_eq_true]
        intro hdue
        rw [(howed hdue).1] at hpaid
        contradiction
    | elsewhere hradio hstate hcfun =>
      apply Whole.of_paid hheld
      · intro hoff
        rw [hradio, h.on_of_idle (h.held.idle_of_ne hstate)] at hoff
        contradiction
      · rw [← Bool.not_eq_true]
        exact fun hdue => hstate (h.state (howed hdue).1)
    | waiting hradio hstate hcfun hpc =>
      apply Whole.of_restarting hstate hpc
      · rw [hradio]
        exact fun hoff => hcfun.trans (h.radio hoff)
      · intro hends hdue
        rw [hcfun]
        exact h.cfunStep hends (howed hdue).1
    | off hbefore hstate hcfun hpc =>
      apply Whole.of_restarting hstate hpc
      · exact fun _ => hcfun
      · intro _ _
        rw [hcfun]
        simp
    | on hbefore hends hstate hcfun hpc =>
      apply Whole.of_restarting hstate hpc
      · intro hoff
        contradiction
      · intro hswitched hdue
        rw [hswitched, hends] at howed
        simpa using (howed hdue).2
    | settled hbefore hends hwaiting hcfun =>
      apply Whole.of_paid hheld
      · intro hoff
        have hbefore := h.radio hoff
        rw [hwaiting] at hbefore
        contradiction
      · rw [← Bool.not_eq_true]
        intro hdue
        obtain ⟨hdueBefore, hopen⟩ := howed hdue
        cases ends with
        | switchedOn => exact h.cfunStep rfl hdueBefore hwaiting
        | settled =>
          rw [hends] at hopen
          contradiction
    | overruled hpc hcfun =>
      apply Whole.of_paid hheld
      · intro hoff
        rw [radioAfter_nil, h.on_of_idle (h.held.idle_of_overrules hpc)] at hoff
        contradiction
      · rw [← Bool.not_eq_true]
        intro hdue
        rw [h.pc (howed hdue).1] at hpc
        contradiction

theorem Whole.leavesOn (h : r.Whole ends) {e : NetworkEvent} (hquiet : r.Undisturbed ends e) :
    r.LeavesOn ends e := by
  intro _ hleft
  have hnext := h.step hquiet
  by_contra hoff
  have hwaiting := hnext.radio (eq_false_of_ne_true hoff)
  apply hleft
  apply hnext.held.state
  rw [hwaiting]
  simp

theorem Whole.registersRestarted (h : r.Whole ends) {e : NetworkEvent}
    (hquiet : r.Undisturbed ends e) : r.RegistersRestarted ends e := by
  intro hregisters
  rw [← Bool.not_eq_true]
  intro hdue
  have hrestarts := (h.step hquiet).state hdue
  rw [hregisters] at hrestarts
  contradiction

/-- Every entry to `RESTART_CFUN` begins a new cycle; in a run that is not disturbed the state
is left with the radio on, and a cycle ends after a SIM event before registration is
checked. -/
theorem radio_restart (ends : CycleEnd) (time : Nat) (es : List NetworkEvent) :
    (restartMachine ends).Along (EntersIdle ends) (start time) es ∧
    ((restartMachine ends).Along (Undisturbed ends) (start time) es →
      (restartMachine ends).Along (LeavesOn ends) (start time) es ∧
      (restartMachine ends).Along (RegistersRestarted ends) (start time) es) := by
  refine ⟨?_, fun hquiet => ⟨?_, ?_⟩⟩
  · exact Machine.Along.mono_of_invariant (I := fun r => Held r.network)
      (fun _ e h _ => h.step e) (fun _ e h _ => h.entersIdle e) (held_start time)
      (Machine.Along.trivial _ _ _)
  · exact Machine.Along.mono_of_invariant (fun _ _ h hstep => Whole.step h hstep)
      (fun _ _ h hstep => Whole.leavesOn h hstep) (whole_start ends time) hquiet
  · exact Machine.Along.mono_of_invariant (fun _ _ h hstep => Whole.step h hstep)
      (fun _ _ h hstep => Whole.registersRestarted h hstep) (whole_start ends time) hquiet

/-- A modem that refuses every `set_cfun`. -/
def cfunRefused : ModemEnv := { allUp with setCfun := .failed }

/-- Passes of the task, with the time between them. -/
def passes (env : ModemEnv) (count gap : Nat) : List NetworkEvent :=
  (List.replicate count (.wait gap :: List.replicate 5 (.task env))).flatten

/-- A SIM event, the restart it asks for, and the registration after that. -/
theorem radio_restart_run :
    ((restartMachine .switchedOn).run (start 0)
      (.simAvailable :: passes allUp 10 1000)).2.network.state = .checkRegistration ∧
    (restartMachine .switchedOn).Along (LeavesOn .switchedOn) (start 0)
      (.simAvailable :: passes allUp 10 1000) ∧
    (restartMachine .switchedOn).Along (RegistersRestarted .switchedOn) (start 0)
      (.simAvailable :: passes allUp 10 1000) := by
  have hquiet : (restartMachine .switchedOn).Along (Undisturbed .switchedOn) (start 0)
      (.simAvailable :: passes allUp 10 1000) := by
    decide +kernel
  exact ⟨by decide +kernel, (radio_restart .switchedOn 0 _).2 hquiet⟩

/-- The modem switches the radio off, and refuses for a minute to switch it on again. -/
def leftOff : List NetworkEvent :=
  .simAvailable :: passes allUp 1 0 ++ passes cfunRefused 12 5000

/-- A modem whose network denies the registration. -/
def registrationDenied : ModemEnv := { allUp with getCreg := (.success, .denied) }

/-- A SIM event between the handler of `ERROR` and the write of `INIT`, and the next bring-up. -/
def eventOverruled : List NetworkEvent :=
  passes registrationDenied 5 1000 ++ List.replicate 4 (.task registrationDenied) ++
    .simAvailable :: .task allUp :: passes allUp 4 1000

/-- The timeout can leave the radio off, and a pending write can overrule the SIM event. -/
theorem restart_cut_short :
    (¬ ∃ ends, ∀ (time : Nat) (es : List NetworkEvent),
      (restartMachine ends).Along (LeavesOn ends) (start time) es) ∧
    ¬ ∃ ends, ∀ (time : Nat) (es : List NetworkEvent),
      (restartMachine ends).Along (RegistersRestarted ends) (start time) es := by
  constructor
  · rintro ⟨ends, h⟩
    have hleft := h 0 leftOff
    revert hleft
    cases ends with
    | switchedOn => decide +kernel
    | settled => decide +kernel
  · rintro ⟨ends, h⟩
    have hregisters := h 0 eventOverruled
    revert hregisters
    cases ends with
    | switchedOn => decide +kernel
    | settled => decide +kernel

end RestartRun

end WalnutGateway
