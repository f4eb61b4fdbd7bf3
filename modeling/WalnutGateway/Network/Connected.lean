import WalnutGateway.Network.Manager

/-!
# The connected flag

`connected` is asserted on every pass of the state that asks for the address, whatever the
modem answers, and stays until a handler clears it: those of the states `INIT` and
`DISCONNECTED`. A lost context and a failed health check lead to one of them, if no SIM
event comes in between.
-/

namespace WalnutGateway

/-- The step runs the handler of a state, with an answer of the kind. -/
def Handles (state : NetworkState) (answer : Network → ModemEnv → Bool)
    (x : Network × NetworkEvent) : Bool :=
  match x.2 with
  | .task env => x.1.pc = .handle ∧ x.1.state = state ∧ answer x.1 env
  | _ => false

/-- A pass that asks for the address. -/
def GetIpPass (x : Network × NetworkEvent) : Bool := Handles .getIp (fun _ _ => true) x

/-- A pass that is given one. -/
def IpObtained (x : Network × NetworkEvent) : Bool :=
  Handles .getIp (fun _ env => networkStateHandleGetIp env = .success) x

/-- A pass through `INIT`. -/
def InitPass (x : Network × NetworkEvent) : Bool := Handles .init (fun _ _ => true) x

/-- A pass whose handler clears the flag. -/
def ClearPass (x : Network × NetworkEvent) : Bool :=
  InitPass x ∨ Handles .disconnected (fun _ _ => true) x ∨ Handles .simRemove (fun _ _ => true) x

/-- The restart has switched the radio off. -/
def RadioOff (x : Network × NetworkEvent) : Bool :=
  Handles .restartCfun (fun n env => n.cfunStep = .idle ∧ env.setCfun = .success) x

/-- A due health check fails. -/
def healthFails (n : Network) (env : ModemEnv) : Bool :=
  n.healthCheckDue ∧ networkHealthCheck env ≠ .success

/-- The pass finds that the connection is no longer healthy. -/
def HealthFailed (x : Network × NetworkEvent) : Bool := Handles .connected healthFails x

/-- A URC is processed. -/
def Processed (event : UrcEvent) (x : Network × NetworkEvent) : Bool :=
  x.1.pc = .drain ∧ x.2 = .urc event

/-- What ends a connection. -/
def ConnectionLost (x : Network × NetworkEvent) : Bool :=
  InitPass x ∨ RadioOff x ∨ Processed .pdpInactive x ∨
    (Processed .netDisconnected x ∧ x.1.state = .connected) ∨ HealthFailed x

/-! ## Where the flag comes from -/

/-- The flag is set, or will be at the end of the pass. -/
def Network.Up (n : Network) : Prop := n.connected = true ∨ ∃ next, n.pc = .write next true

theorem handles_task {state : NetworkState} {n : Network} {env : ModemEnv} (hpc : n.pc = .handle) :
    Handles state (fun _ _ => true) (n, .task env) = true ↔ n.state = state := by
  simp [Handles, hpc]

theorem clearPass_task {n : Network} {env : ModemEnv} (hpc : n.pc = .handle) :
    ClearPass (n, .task env) = true ↔ n.state.clears = true := by
  simp only [ClearPass, InitPass, handles_task hpc, decide_eq_true_eq]
  cases n.state <;> simp [NetworkState.clears]

/-- Only a handler clears the flag. -/
theorem clearPass_of_ne {n : Network} {e : NetworkEvent}
    (h : ∀ env, e = .task env → n.pc ≠ .handle) : ClearPass (n, e) = false := by
  cases e with
  | task env => simp [ClearPass, InitPass, Handles, h env rfl]
  | _ => rfl

/-- A step that leaves the flag and the end of the pass alone. -/
theorem Network.Up.of_same {n next : Network} (h : next.Up)
    (hconnected : next.connected = n.connected)
    (hpc : ∀ state, next.pc = .write state true → n.pc = .write state true) : n.Up := by
  rcases h with hup | ⟨state, hwrite⟩
  · exact Or.inl (hconnected.symm.trans hup)
  · exact Or.inr ⟨state, hpc state hwrite⟩

theorem up_handle {n : Network} {env : ModemEnv} (hpc : n.pc = .handle)
    (h : (networkHandleState env n).2.Up) :
    GetIpPass (n, .task env) = true ∨ (ClearPass (n, .task env) = false ∧ n.Up) := by
  have hframe := networkHandleState_frame env n
  by_cases hip : n.state = .getIp
  · exact Or.inl ((handles_task hpc).mpr hip)
  · obtain ⟨state, hwrite⟩ := hframe.pc
    have hclears : n.state.clears = false := by
      by_contra hclears
      rw [Bool.not_eq_false] at hclears
      rcases h with hup | ⟨other, hother⟩
      · rw [hframe.connected, if_pos hclears] at hup
        contradiction
      · simp [hwrite, hip] at hother
    refine Or.inr ⟨?_, h.of_same ?_ ?_⟩
    · rw [← Bool.not_eq_true, clearPass_task hpc, hclears]
      simp
    · rw [hframe.connected, if_neg (by simp [hclears])]
    · intro other hother
      simp [hwrite, hip] at hother

theorem up_step {n : Network} {e : NetworkEvent} (h : (networkMachine.step n e).2.Up) :
    GetIpPass (n, e) = true ∨ (ClearPass (n, e) = false ∧ n.Up) := by
  have hstep := networkStep n e
  generalize networkMachine.step n e = next at hstep h
  cases hstep with
  | waited | urc | simAvailable => exact Or.inr ⟨rfl, h⟩
  | drained env hpc | stateChecked env hpc =>
    exact Or.inr ⟨clearPass_of_ne (by simp [hpc]), h.of_same rfl (by simp)⟩
  | overallChecked env hpc =>
    obtain ⟨since, hcheck⟩ := networkCheckOverallTimeout_frame n
    rw [hcheck] at h
    exact Or.inr ⟨clearPass_of_ne (by simp [hpc]), h.of_same rfl (by simp)⟩
  | handled env hpc => exact up_handle hpc h
  | @written env next up state hpc =>
    refine Or.inr ⟨clearPass_of_ne (by simp [hpc]), ?_⟩
    cases up with
    | true => exact Or.inr ⟨next, hpc⟩
    | false => exact h.of_same rfl (by simp)

/-- While the flag is set, a pass has asked for the address since the latest one that clears it. -/
theorem since_getIpPass (time : Nat) (es : List NetworkEvent)
    (h : (networkMachine.run (.start time) es).2.connected = true) :
    Since (fun x => GetIpPass x = true) (fun x => ClearPass x = false)
      (networkMachine.trace (.start time) es) := by
  have hinvariant : (networkMachine.run (.start time) es).2.Up →
      Since (fun x => GetIpPass x = true) (fun x => ClearPass x = false)
        ([] ++ networkMachine.trace (.start time) es) := by
    apply Machine.invariant_trace networkMachine (I := fun past n => n.Up →
      Since (fun x => GetIpPass x = true) (fun x => ClearPass x = false) past)
    · intro past n e hpast hup
      rcases up_step hup with hip | ⟨hkept, hbefore⟩
      · exact since_concat.mpr (Or.inl hip)
      · exact since_concat.mpr (Or.inr ⟨hkept, hpast hbefore⟩)
    · rintro (hup | ⟨next, hup⟩)
      · contradiction
      · contradiction
  exact hinvariant (Or.inl h)

/-! ## Losing the connection -/

/-- The steps of the task until its pass is over. -/
def NetworkPc.stepsLeft : NetworkPc → Nat
  | .drain => 5
  | .stateTimeout => 4
  | .overallTimeout => 3
  | .handle => 2
  | .write .. => 1

/-- The steps of the task among events. -/
def taskSteps : List NetworkEvent → Nat
  | [] => 0
  | .task _ :: es => taskSteps es + 1
  | _ :: es => taskSteps es

/-- The pass will clear the flag, or has done so. -/
structure Network.Clearing (n : Network) : Prop where
  cleared : ∀ next up, n.pc = .write next up → n.connected = false ∧ up = false
  state : (∀ next up, n.pc ≠ .write next up) → n.state = .disconnected ∨ n.state = .init

/-- The pass is over, and the flag was cleared. -/
def Network.ClearsIn (n : Network) : Nat → Prop
  | 0 => n.connected = false
  | left + 1 => n.pc.stepsLeft = left + 1 ∧ n.Clearing

theorem stateTimedOut_of_clears {n : Network} (h : n.state = .disconnected ∨ n.state = .init) :
    networkCheckStateTimeout n = n := by
  rw [networkCheckStateTimeout, if_pos]
  rcases h with hstate | hstate
  · simp [Network.stateTimedOut, hstate, networkStateTimeoutMs]
  · simp [Network.stateTimedOut, hstate, networkStateTimeoutMs]

theorem clearsIn_task {n : Network} {left : Nat} (h : n.ClearsIn (left + 1)) (env : ModemEnv) :
    (networkTaskEntry env n).2.ClearsIn left := by
  obtain ⟨hleft, hclearing⟩ := h
  cases hpc : n.pc with
  | drain =>
    have hstate := hclearing.state (by simp [hpc])
    obtain ⟨last, tick, hnote⟩ := networkNoteState_frame n
    rw [hpc] at hleft
    cases hleft
    simp only [networkTaskEntry, hpc, hnote]
    exact ⟨rfl, by simp, fun _ => hstate⟩
  | stateTimeout =>
    have hstate := hclearing.state (by simp [hpc])
    rw [hpc] at hleft
    cases hleft
    simp only [networkTaskEntry, hpc, stateTimedOut_of_clears hstate]
    exact ⟨rfl, by simp, fun _ => hstate⟩
  | overallTimeout =>
    have hstate := hclearing.state (by simp [hpc])
    obtain ⟨since, hcheck⟩ := networkCheckOverallTimeout_frame n
    rw [hpc] at hleft
    cases hleft
    simp only [networkTaskEntry, hpc, hcheck]
    exact ⟨rfl, by simp, fun _ => hstate⟩
  | handle =>
    have hstate := hclearing.state (by simp [hpc])
    have hframe := networkHandleState_frame env n
    have hclears : n.state.clears = true := by
      rcases hstate with hstate | hstate
      · rw [hstate]
        rfl
      · rw [hstate]
        rfl
    have hip : n.state ≠ .getIp := by
      intro hip
      rw [hip] at hclears
      contradiction
    obtain ⟨next, hwrite⟩ := hframe.pc
    rw [hpc] at hleft
    cases hleft
    simp only [networkTaskEntry, hpc]
    refine ⟨by rw [hwrite]; rfl, ?_, ?_⟩
    · intro other up hother
      rw [hwrite] at hother
      cases hother
      exact ⟨by rw [hframe.connected, if_pos hclears], by simp [hip]⟩
    · intro hother
      exact absurd hwrite (hother next _)
  | write next up =>
    obtain ⟨hdown, rfl⟩ := hclearing.cleared next up hpc
    rw [hpc] at hleft
    cases hleft
    simp only [networkTaskEntry, hpc, networkWriteState]
    cases next with
    | none => exact hdown
    | some state => exact (n.setState_connected state).trans hdown

theorem clearsIn_urc {n : Network} {left : Nat} (h : n.ClearsIn left) (event : UrcEvent) :
    (if n.pc = .drain then networkHandleUrc event n else n).ClearsIn left := by
  split
  · rename_i hpc
    cases left with
    | zero =>
      obtain ⟨state, hframe⟩ := networkHandleUrc_frame n event
      rw [hframe]
      exact h
    | succ left =>
      obtain ⟨hleft, hclearing⟩ := h
      have hstate := hclearing.state (by simp [hpc])
      have hfree : n.state ≠ .restartCfun := by
        rcases hstate with hstate | hstate
        · simp [hstate]
        · simp [hstate]
      have hnext : (networkHandleUrc event n).pc = .drain ∧
          ((networkHandleUrc event n).state = .disconnected ∨
            (networkHandleUrc event n).state = .init) := by
        rcases networkHandleUrc_cases event n with hsame | hset | hset
        · rw [hsame]
          exact ⟨hpc, hstate⟩
        · rw [hset]
          exact ⟨(n.setState_pc _).trans hpc, Or.inr (n.setState_of_ne _ hfree)⟩
        · rw [hset]
          exact ⟨(n.setState_pc _).trans hpc, Or.inl (n.setState_of_ne _ hfree)⟩
      rw [hpc] at hleft
      exact ⟨by rw [hnext.1]; exact hleft, by simp [hnext.1], fun _ => hnext.2⟩
  · exact h

theorem clearsIn_wait {n : Network} {left : Nat} (h : n.ClearsIn left) (ms : Nat) :
    Network.ClearsIn { n with time := n.time + ms } left := by
  cases left with
  | zero => exact h
  | succ left => exact ⟨h.1, h.2.cleared, h.2.state⟩

/-- Without a SIM event the flag is cleared when the steps left have been made. -/
theorem clearsIn_run {n : Network} {rest : List NetworkEvent}
    (hquiet : .simAvailable ∉ rest) (h : n.ClearsIn (taskSteps rest)) :
    (networkMachine.run n rest).2.connected = false := by
  induction rest generalizing n with
  | nil => exact h
  | cons e rest ih =>
    have hrest : .simAvailable ∉ rest := fun hmem => hquiet (List.mem_cons_of_mem e hmem)
    apply ih hrest
    cases e with
    | wait ms => exact clearsIn_wait h ms
    | urc event => exact clearsIn_urc h event
    | task env => exact clearsIn_task h env
    | simAvailable => exact absurd List.mem_cons_self hquiet

/-- A URC that the network is lost, processed where it counts. -/
structure Network.LosesContext (n : Network) (event : UrcEvent) : Prop where
  drain : n.pc = .drain
  lost : (event = .pdpInactive ∧ n.state ≠ .restartCfun) ∨
    (event = .netDisconnected ∧ n.state = .connected)

theorem Network.LosesContext.clearsIn {n : Network} {event : UrcEvent}
    (h : n.LosesContext event) : (networkMachine.step n (.urc event)).2.ClearsIn 5 := by
  have hset : (networkMachine.step n (.urc event)).2 = n.setState .disconnected ∧
      n.state ≠ .restartCfun := by
    rcases h.lost with ⟨rfl, hfree⟩ | ⟨rfl, hconnected⟩
    · exact ⟨if_pos h.drain, hfree⟩
    · refine ⟨(if_pos h.drain).trans (if_pos hconnected), ?_⟩
      simp [hconnected]
  have hpc := (n.setState_pc .disconnected).trans h.drain
  rw [hset.1]
  exact ⟨by rw [hpc]; rfl, by simp [h.drain], fun _ => Or.inl (n.setState_of_ne _ hset.2)⟩

/-- The pass is about to leave the connected state. -/
structure Network.Leaving (n : Network) : Prop where
  pc : n.pc = .write (some .disconnected) false
  free : n.state ≠ .restartCfun

theorem leaving_of_healthFailed {n : Network} {env : ModemEnv}
    (h : HealthFailed (n, .task env) = true) :
    (networkMachine.step n (.task env)).2.Leaving := by
  simp only [HealthFailed, Handles, healthFails, decide_eq_true_eq] at h
  obtain ⟨hpc, hstate, hdue, hfails⟩ := h
  have hstarted : n.connectedStartTicks ≠ 0 := by
    simp only [Network.healthCheckDue, decide_eq_true_eq] at hdue
    exact hdue.1
  have hhandled : networkStateHandleConnected env n =
      (.success, { n with connectedStartTicks := 0, lastHealthCheckTicks := 0 }) := by
    simp [networkStateHandleConnected, hstarted, hdue, hfails]
  change (networkTaskEntry env n).2.Leaving
  simp only [networkTaskEntry, hpc, networkHandleState, hstate, hhandled]
  exact ⟨rfl, by simp [Network.writes]⟩

theorem leaving_run {n : Network} {rest : List NetworkEvent} (hquiet : .simAvailable ∉ rest)
    (hsteps : taskSteps rest = 6) (h : n.Leaving) :
    (networkMachine.run n rest).2.connected = false := by
  induction rest generalizing n with
  | nil => contradiction
  | cons e rest ih =>
    have hrest : .simAvailable ∉ rest := fun hmem => hquiet (List.mem_cons_of_mem e hmem)
    cases e with
    | wait ms => exact ih hrest hsteps ⟨h.pc, h.free⟩
    | urc event =>
      apply ih hrest hsteps
      change (if n.pc = .drain then networkHandleUrc event n else n).Leaving
      rw [if_neg (by simp [h.pc])]
      exact h
    | task env =>
      apply clearsIn_run hrest
      have hwritten : (networkTaskEntry env n).2 =
          { n.setState .disconnected with pc := .drain } := by
        simp only [networkTaskEntry, h.pc]
        rfl
      have hleft : taskSteps rest = 5 := Nat.succ.inj hsteps
      rw [hleft]
      change (networkTaskEntry env n).2.ClearsIn 5
      rw [hwritten]
      exact ⟨rfl, by simp, fun _ => Or.inl (n.setState_of_ne _ h.free)⟩
    | simAvailable => exact absurd List.mem_cons_self hquiet

/-- While the flag is set, a pass has asked for the address since the latest one through a
state that clears it; a lost context leads to such a pass at once, and a failed health
check in the next pass, where no SIM event comes in between. -/
theorem connected_flag (time : Nat) (es : List NetworkEvent) :
    ((networkMachine.run (.start time) es).2.connected = true →
      Since (fun x => GetIpPass x = true) (fun x => ClearPass x = false)
        (networkMachine.trace (.start time) es)) ∧
    (∀ event rest, (networkMachine.run (.start time) es).2.LosesContext event →
      .simAvailable ∉ rest → taskSteps rest = 5 →
      (networkMachine.run (.start time) (es ++ .urc event :: rest)).2.connected = false) ∧
    (∀ env rest, HealthFailed ((networkMachine.run (.start time) es).2, .task env) = true →
      .simAvailable ∉ rest → taskSteps rest = 6 →
      (networkMachine.run (.start time) (es ++ .task env :: rest)).2.connected = false) := by
  refine ⟨since_getIpPass time es, ?_, ?_⟩
  · intro event rest hlost hquiet hsteps
    rw [Machine.run_append_snd]
    have hclears := hlost.clearsIn
    rw [← hsteps] at hclears
    exact clearsIn_run (n := (networkMachine.step _ (.urc event)).2) hquiet hclears
  · intro env rest hfailed hquiet hsteps
    rw [Machine.run_append_snd]
    exact leaving_run (n := (networkMachine.step _ (.task env)).2) hquiet hsteps
      (leaving_of_healthFailed hfailed)

/-- A modem that registers and attaches, but has no address. -/
def noAddress : ModemEnv where
  simStatus := true
  simReady := .success
  getCtzu := (.success, 1)
  setCtzu := .success
  getCreg := (.success, .home)
  getCgreg := (.success, .home)
  getCgatt := (.success, true)
  setPdpContext := .success
  activatePdp := .success
  getIpAddress := (.success, false)
  setCfun := .success

/-- The same modem with an address. -/
def allUp : ModemEnv := { noAddress with getIpAddress := (.success, true) }

/-- Up to the state that has lasted 65 s since it was connected, and its next handler. -/
def longConnected : List NetworkEvent :=
  List.replicate 55 (.task allUp) ++ .wait 65001 :: List.replicate 3 (.task allUp)

/-- The connection comes up; a detach ends it, and so does a failed health check. -/
theorem connected_flag_run :
    (networkMachine.run (.start 0) (List.replicate 50 (.task allUp))).2.connected = true ∧
    (networkMachine.run (.start 0) (List.replicate 50 (.task allUp) ++
      .urc .netDisconnected :: List.replicate 5 (.task allUp))).2.connected = false ∧
    (networkMachine.run (.start 0) (longConnected ++
      .task noAddress :: List.replicate 6 (.task noAddress))).2.connected = false := by
  refine ⟨by decide +kernel, ?_, ?_⟩
  · exact (connected_flag 0 (List.replicate 50 (.task allUp))).2.1 .netDisconnected
      (List.replicate 5 (.task allUp)) ⟨by decide +kernel, by decide +kernel⟩
      (by decide +kernel) (by decide +kernel)
  · exact (connected_flag 0 longConnected).2.2 noAddress (List.replicate 6 (.task noAddress))
      (by decide +kernel) (by decide +kernel) (by decide +kernel)

/-- A pass that is refused the address sets the flag all the same. -/
theorem connected_without_address :
    ¬ ∀ (time : Nat) (es : List NetworkEvent) (env : ModemEnv),
      (∃ next up, (networkMachine.run (.start time) es).2.pc = .write next up) →
      (networkMachine.run (.start time) (es ++ [.task env])).2.connected = true →
      Since (fun x => IpObtained x = true) (fun x => ConnectionLost x = false)
        (networkMachine.trace (.start time) (es ++ [.task env])) := by
  intro h
  obtain ⟨pre, x, post, htrace, hobtained, -⟩ :=
    h 0 (List.replicate 49 (.task noAddress)) noAddress
      ⟨some .getIp, true, by decide +kernel⟩ (by decide +kernel)
  have hnone : ∀ y ∈ networkMachine.trace (.start 0)
      (List.replicate 49 (.task noAddress) ++ [.task noAddress]), IpObtained y = false := by
    decide +kernel
  have hx := hnone x (by rw [htrace]; simp)
  rw [hobtained] at hx
  contradiction

end WalnutGateway
