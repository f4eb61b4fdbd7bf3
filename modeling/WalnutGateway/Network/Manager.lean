import WalnutGateway.Common.Types
import WalnutGateway.Core.Machine

/-!
# Network task

`network.c`: a task brings the data connection up, state by state, and watches it. A pass
drains the network URCs, checks the timeouts, runs the handler of the state and writes the
state that follows; an event of the SIM task may set the state between any two of these
steps. The radio snapshot and the status callback are left out.
-/

namespace WalnutGateway

/-! ## Configuration -/

/-- `WEWARE_NETWORK_CTZU_VALUE`. -/
def wewareNetworkCtzuValue : Nat := 1

/-- `NETWORK_CFUN_OFF_SETTLE_MS`. -/
def networkCfunOffSettleMs : UInt32 := 2000

/-- `NETWORK_CFUN_ON_SETTLE_MS`. -/
def networkCfunOnSettleMs : UInt32 := 3000

/-- `NETWORK_CONNECTED_STABILIZE_MS`. -/
def networkConnectedStabilizeMs : UInt32 := 10000

/-- `NETWORK_HEALTH_CHECK_INTERVAL_MS`. -/
def networkHealthCheckIntervalMs : UInt32 := 65000

/-- `NETWORK_OVERALL_TIMEOUT_MS`. -/
def networkOverallTimeoutMs : UInt32 := 600000

/-- `NetworkState`. -/
inductive NetworkState
  | init
  | checkSim
  | simInsert
  | simRemove
  | checkCtzu
  | setCtzu
  | checkRegistration
  | checkGprsRegistration
  | checkLteAttachment
  | setupPdp
  | activatePdp
  | getIp
  | connected
  | disconnected
  | error
  | restartCfun
  deriving DecidableEq, Repr

/-- `g_network_state_timeouts`; 0 for no timeout. -/
def networkStateTimeoutMs : NetworkState → UInt32
  | .checkSim => 60000
  | .checkCtzu => 60000
  | .setCtzu => 30000
  | .checkRegistration => 150000
  | .checkGprsRegistration => 60000
  | .checkLteAttachment => 60000
  | .setupPdp => 30000
  | .activatePdp => 30000
  | .getIp => 30000
  | .restartCfun => 60000
  | _ => 0

/-- `CfunStep`. -/
inductive CfunStep
  | idle
  | waitOff
  | waitOn
  deriving DecidableEq, Repr

/-- `urcEvent_e`, as far as `network_handle_urc` tells it apart. -/
inductive UrcEvent
  | pdpActive
  | pdpInactive
  | netActive
  | netDisconnected
  | other
  deriving DecidableEq, Repr

/-! ## What the handlers ask -/

/-- `wm_SdkResult`, as far as the handlers tell it apart. -/
inductive ModemResult
  | success
  | notSupported
  | failed
  deriving DecidableEq, Repr

/-- `wm_SdkNetRegStatus`. -/
inductive NetRegStatus
  | notRegistered
  | home
  | searching
  | denied
  | unknown
  | roaming
  deriving DecidableEq, Repr

/-- The answers of the SIM module and of the modem while a handler runs. -/
structure ModemEnv where
  /-- `weware_sim_get_sim_status`. -/
  simStatus : Bool
  /-- `weware_sim_check_sim_ready`. -/
  simReady : ModemResult
  getCtzu : ModemResult × Nat
  setCtzu : ModemResult
  getCreg : ModemResult × NetRegStatus
  getCgreg : ModemResult × NetRegStatus
  /-- `wm_sdk_network_get_cgatt`, and whether the status is attached. -/
  getCgatt : ModemResult × Bool
  setPdpContext : ModemResult
  activatePdp : ModemResult
  /-- `wm_sdk_network_get_ip_address`, and whether there is an address. -/
  getIpAddress : ModemResult × Bool
  setCfun : ModemResult
  deriving DecidableEq

/-! ## The task's state -/

/-- Where the task is in its pass. -/
inductive NetworkPc
  | drain
  | stateTimeout
  | overallTimeout
  | handle
  /-- The state to write, if any, and whether `connected` is asserted after it. -/
  | write (next : Option NetworkState) (up : Bool)
  deriving DecidableEq

/-- `network_runtime_t`, the locals and statics of the task, and the time in milliseconds
that the tick counter counts. -/
structure Network where
  state : NetworkState
  connected : Bool
  stateEntryTick : UInt32
  notConnectedSince : UInt32
  cfunStep : CfunStep
  cfunStepTick : UInt32
  lastState : NetworkState
  connectedStartTicks : UInt32
  lastHealthCheckTicks : UInt32
  pc : NetworkPc
  time : Nat
  deriving DecidableEq

/-- What the task does to others. -/
inductive NetworkOutput
  /-- `wm_sdk_network_set_cfun`, and whether it succeeded. -/
  | setCfun (on ok : Bool)
  /-- The best-effort teardown of the PDP context. -/
  | deactivatePdp
  /-- `EVENT_RESET_SOFT`. -/
  | resetSoft
  deriving DecidableEq

namespace Network

/-- `wm_sdk_get_ticks`. -/
def ticks (n : Network) : UInt32 := UInt32.ofNat n.time

/-- The task when it starts. -/
def start (time : Nat) : Network where
  state := .init
  connected := false
  stateEntryTick := UInt32.ofNat time
  notConnectedSince := UInt32.ofNat time
  cfunStep := .idle
  cfunStepTick := 0
  lastState := .init
  connectedStartTicks := 0
  lastHealthCheckTicks := 0
  pc := .drain
  time := time

/-- `network_set_state`. -/
def setState (new : NetworkState) (n : Network) : Network :=
  if n.state = .restartCfun ∧ new ≠ .restartCfun ∧ new ≠ .init ∧ new ≠ .error then n
  else { n with state := new }

/-- `network_set_connected`. -/
def setConnected (connected : Bool) (n : Network) : Network :=
  if connected = n.connected then n
  else if connected then { n with connected := true }
  else { n with connected := false, notConnectedSince := n.ticks }

/-- The handler has run; `next` is still to be written. -/
def writes (next : NetworkState) (n : Network) : Network :=
  { n with pc := .write (some next) false }

end Network

/-! ## State handlers -/

/-- `NW_HANDLE_STATE`. -/
def nwHandleState (result : Result) (onSuccess onError onBusy : NetworkState) : NetworkState :=
  match result with
  | .success => onSuccess
  | .error => onError
  | _ => onBusy

/-- `network_state_handle_check_sim`. -/
def networkStateHandleCheckSim (env : ModemEnv) : Result :=
  if env.simStatus then .success else .busy

/-- `network_state_handle_sim_insert`. -/
def networkStateHandleSimInsert (env : ModemEnv) : Result :=
  if env.simReady = .success then .success
  else if env.simReady = .notSupported then .success
  else .busy

/-- `network_state_handle_check_ctzu`. -/
def networkStateHandleCheckCtzu (env : ModemEnv) : Result :=
  if env.getCtzu.1 = .notSupported then .success
  else if env.getCtzu.1 ≠ .success then .busy
  else if env.getCtzu.2 = wewareNetworkCtzuValue then .success
  else .busy

/-- `network_state_handle_set_ctzu`. -/
def networkStateHandleSetCtzu (env : ModemEnv) : Result :=
  if env.setCtzu ≠ .success then .busy else .success

/-- `network_reg_status_to_result`. -/
def networkRegStatusToResult (answer : ModemResult × NetRegStatus) : Result :=
  if answer.1 ≠ .success then .busy
  else
    match answer.2 with
    | .home | .roaming => .success
    | .denied => .error
    | _ => .busy

/-- `network_state_handle_check_registration`. -/
def networkStateHandleCheckRegistration (env : ModemEnv) : Result :=
  networkRegStatusToResult env.getCreg

/-- `network_state_handle_check_gprs_registration`. -/
def networkStateHandleCheckGprsRegistration (env : ModemEnv) : Result :=
  networkRegStatusToResult env.getCgreg

/-- `network_state_handle_check_lte_attachment`. -/
def networkStateHandleCheckLteAttachment (env : ModemEnv) : Result :=
  if env.getCgatt.1 ≠ .success then .busy
  else if env.getCgatt.2 then .success
  else .busy

/-- `network_state_handle_setup_pdp`. -/
def networkStateHandleSetupPdp (env : ModemEnv) : Result :=
  if env.setPdpContext ≠ .success then .busy else .success

/-- `network_state_handle_activate_pdp`. -/
def networkStateHandleActivatePdp (env : ModemEnv) : Result :=
  if env.activatePdp = .success then .success else .busy

/-- `network_state_handle_get_ip`. -/
def networkStateHandleGetIp (env : ModemEnv) : Result :=
  if env.getIpAddress.1 ≠ .success then .busy
  else if env.getIpAddress.2 then .success
  else .busy

/-- `network_health_check`. -/
def networkHealthCheck (env : ModemEnv) : Result :=
  if [networkStateHandleCheckRegistration env, networkStateHandleCheckGprsRegistration env,
      networkStateHandleCheckLteAttachment env, networkStateHandleGetIp env].all
      (· = .success) then .success
  else .error

/-- The time as a tick that is never 0. -/
def Network.ticksNonzero (n : Network) : UInt32 := if n.ticks = 0 then 1 else n.ticks

/-- The health check of `network_state_handle_connected` is due. -/
def Network.healthCheckDue (n : Network) : Bool :=
  n.connectedStartTicks ≠ 0 ∧
    ¬ n.ticks - n.connectedStartTicks < networkConnectedStabilizeMs ∧
    n.ticks - n.lastHealthCheckTicks ≥ networkHealthCheckIntervalMs

/-- `network_state_handle_connected`. -/
def networkStateHandleConnected (env : ModemEnv) (n : Network) : Result × Network :=
  if n.connectedStartTicks = 0 then
    (.busy,
      { n with connectedStartTicks := n.ticksNonzero, lastHealthCheckTicks := n.ticksNonzero })
  else if n.healthCheckDue = false then (.busy, n)
  else if networkHealthCheck env ≠ .success then
    (.success, { n with connectedStartTicks := 0, lastHealthCheckTicks := 0 })
  else (.busy, { n with lastHealthCheckTicks := n.ticksNonzero })

/-- `network_state_handle_restart_cfun`: its result and what it asked of the modem. -/
def networkStateHandleRestartCfun (env : ModemEnv) (n : Network) :
    Result × List NetworkOutput × Network :=
  match n.cfunStep with
  | .idle =>
    if env.setCfun ≠ .success then (.busy, [.setCfun false false], n)
    else (.busy, [.setCfun false true], { n with cfunStep := .waitOff, cfunStepTick := n.ticks })
  | .waitOff =>
    if n.ticks - n.cfunStepTick < networkCfunOffSettleMs then (.busy, [], n)
    else if env.setCfun ≠ .success then (.busy, [.setCfun true false], n)
    else (.busy, [.setCfun true true], { n with cfunStep := .waitOn, cfunStepTick := n.ticks })
  | .waitOn =>
    if n.ticks - n.cfunStepTick < networkCfunOnSettleMs then (.busy, [], n)
    else (.success, [], { n with cfunStep := .idle })

/-! ## The other steps of a pass -/

/-- `network_handle_urc`. -/
def networkHandleUrc (event : UrcEvent) (n : Network) : Network :=
  match event with
  | .netActive | .pdpActive => if n.state = .disconnected then n.setState .init else n
  | .netDisconnected => if n.state = .connected then n.setState .disconnected else n
  | .pdpInactive => n.setState .disconnected
  | .other => n

/-- The note `network_task_entry` takes of a state it has not seen in the last pass. -/
def networkNoteState (n : Network) : Network :=
  if n.lastState ≠ n.state then { n with lastState := n.state, stateEntryTick := n.ticks } else n

/-- The state has lasted its timeout. -/
def Network.stateTimedOut (n : Network) : Bool :=
  networkStateTimeoutMs n.state ≠ 0 ∧
    ¬ n.ticks - n.stateEntryTick < networkStateTimeoutMs n.state

/-- `network_check_state_timeout`. -/
def networkCheckStateTimeout (n : Network) : Network :=
  if n.stateTimedOut = false then n
  else if n.state = .restartCfun then { n with cfunStep := .idle }.setState .init
  else n.setState .restartCfun

/-- `network_check_overall_timeout`. -/
def networkCheckOverallTimeout (n : Network) : List NetworkOutput × Network :=
  if n.connected then ([], { n with notConnectedSince := n.ticks })
  else if n.state = .checkSim then ([], { n with notConnectedSince := n.ticks })
  else if n.ticks - n.notConnectedSince < networkOverallTimeoutMs then ([], n)
  else ([.resetSoft], { n with notConnectedSince := n.ticks })

/-- The `switch` of `network_task_entry`, up to the write of the state. -/
def networkHandleState (env : ModemEnv) (n : Network) : List NetworkOutput × Network :=
  match n.state with
  | .init => ([], (n.setConnected false).writes .checkSim)
  | .checkSim =>
    ([], n.writes (nwHandleState (networkStateHandleCheckSim env) .simInsert .error .checkSim))
  | .simInsert =>
    ([], n.writes (nwHandleState (networkStateHandleSimInsert env) .checkCtzu .error .simInsert))
  | .simRemove => ([], (n.setConnected false).writes .disconnected)
  | .checkCtzu =>
    ([], n.writes
      (nwHandleState (networkStateHandleCheckCtzu env) .checkRegistration .error .setCtzu))
  | .setCtzu =>
    ([], n.writes (nwHandleState (networkStateHandleSetCtzu env) .restartCfun .error .setCtzu))
  | .checkRegistration =>
    ([], n.writes (nwHandleState (networkStateHandleCheckRegistration env)
      .checkGprsRegistration .error .checkRegistration))
  | .checkGprsRegistration =>
    ([], n.writes (nwHandleState (networkStateHandleCheckGprsRegistration env)
      .checkLteAttachment .error .checkGprsRegistration))
  | .checkLteAttachment =>
    ([], n.writes (nwHandleState (networkStateHandleCheckLteAttachment env)
      .setupPdp .error .checkLteAttachment))
  | .setupPdp =>
    ([], n.writes (nwHandleState (networkStateHandleSetupPdp env) .activatePdp .error .setupPdp))
  | .activatePdp =>
    ([], n.writes (nwHandleState (networkStateHandleActivatePdp env) .getIp .error .activatePdp))
  | .getIp =>
    -- `connected` is asserted on every pass, not only on success
    ([], { n with
      pc := .write (some (nwHandleState (networkStateHandleGetIp env) .connected .error .getIp))
        true })
  | .connected =>
    let handled := networkStateHandleConnected env n
    match handled.1 with
    | .busy => ([], { handled.2 with pc := .write none false })
    | .success => ([], handled.2.writes .disconnected)
    | _ => ([], handled.2.writes .error)
  | .disconnected => ([.deactivatePdp], (n.setConnected false).writes .init)
  | .restartCfun =>
    let handled := networkStateHandleRestartCfun env n
    (handled.2.1, handled.2.2.writes (nwHandleState handled.1 .init .error .restartCfun))
  | .error => ([], n.writes .init)

/-- The write at the end of the pass. -/
def networkWriteState (next : Option NetworkState) (up : Bool) (n : Network) : Network :=
  let written :=
    match next with
    | some state => n.setState state
    | none => n
  { (if up then written.setConnected true else written) with pc := .drain }

/-- The next step of `network_task_entry`. -/
def networkTaskEntry (env : ModemEnv) (n : Network) : List NetworkOutput × Network :=
  match n.pc with
  | .drain => ([], { networkNoteState n with pc := .stateTimeout })
  | .stateTimeout => ([], { networkCheckStateTimeout n with pc := .overallTimeout })
  | .overallTimeout =>
    let checked := networkCheckOverallTimeout n
    (checked.1, { checked.2 with pc := .handle })
  | .handle => networkHandleState env n
  | .write next up => ([], networkWriteState next up n)

/-! ## Runs -/

/-- What happens to the network module. -/
inductive NetworkEvent
  /-- Time passes. -/
  | wait (ms : Nat)
  /-- A URC is in the queue when the task drains it. -/
  | urc (event : UrcEvent)
  /-- The task's next step; the first one finds the URC queue empty. -/
  | task (env : ModemEnv)
  /-- `network_on_sim_available`. -/
  | simAvailable
  deriving DecidableEq

/-- The network module, step by step. -/
def networkMachine : Machine Network NetworkEvent (List NetworkOutput) where
  step n e :=
    match e with
    | .wait ms => ([], { n with time := n.time + ms })
    | .urc event => ([], if n.pc = .drain then networkHandleUrc event n else n)
    | .task env => networkTaskEntry env n
    | .simAvailable => ([], n.setState .restartCfun)

/-! ## What a step leaves alone -/

namespace Network

variable (n : Network)

section setState

variable (new : NetworkState)

theorem setState_frame : ∃ state, n.setState new = { n with state := state } := by
  unfold setState
  split
  · exact ⟨n.state, rfl⟩
  · exact ⟨new, rfl⟩

@[simp] theorem setState_connected : (n.setState new).connected = n.connected := by
  obtain ⟨state, hframe⟩ := n.setState_frame new
  rw [hframe]

@[simp] theorem setState_notConnectedSince :
    (n.setState new).notConnectedSince = n.notConnectedSince := by
  obtain ⟨state, hframe⟩ := n.setState_frame new
  rw [hframe]

@[simp] theorem setState_cfunStep : (n.setState new).cfunStep = n.cfunStep := by
  obtain ⟨state, hframe⟩ := n.setState_frame new
  rw [hframe]

@[simp] theorem setState_pc : (n.setState new).pc = n.pc := by
  obtain ⟨state, hframe⟩ := n.setState_frame new
  rw [hframe]

@[simp] theorem setState_time : (n.setState new).time = n.time := by
  obtain ⟨state, hframe⟩ := n.setState_frame new
  rw [hframe]

/-- Outside a restart the state becomes the new one. -/
theorem setState_of_ne {n : Network} (h : n.state ≠ .restartCfun) :
    (n.setState new).state = new := by
  rw [setState, if_neg (fun hheld => h hheld.1)]

end setState

/-- Nothing keeps a restart from being set. -/
@[simp] theorem setState_restart : (n.setState .restartCfun).state = .restartCfun := by
  simp [setState]

theorem setConnected_frame (up : Bool) : ∃ connected since, n.setConnected up =
    { n with connected := connected, notConnectedSince := since } := by
  unfold setConnected
  split
  · exact ⟨n.connected, n.notConnectedSince, rfl⟩
  · split
    · exact ⟨_, _, rfl⟩
    · exact ⟨_, _, rfl⟩

@[simp] theorem setConnected_state (up : Bool) : (n.setConnected up).state = n.state := by
  obtain ⟨connected, since, hframe⟩ := n.setConnected_frame up
  rw [hframe]

@[simp] theorem setConnected_cfunStep (up : Bool) : (n.setConnected up).cfunStep = n.cfunStep := by
  obtain ⟨connected, since, hframe⟩ := n.setConnected_frame up
  rw [hframe]

@[simp] theorem setConnected_time (up : Bool) : (n.setConnected up).time = n.time := by
  obtain ⟨connected, since, hframe⟩ := n.setConnected_frame up
  rw [hframe]

@[simp] theorem setConnected_connected (up : Bool) : (n.setConnected up).connected = up := by
  unfold setConnected
  split
  · rename_i hsame
    exact hsame.symm
  · rename_i hother
    split
    · rename_i hup
      exact hup.symm
    · rename_i hdown
      exact (eq_false_of_ne_true hdown).symm

theorem setConnected_true : n.setConnected true = { n with connected := true } := by
  unfold setConnected
  split
  · rename_i hsame
    rw [hsame]
  · rfl

end Network

/-- A URC asks for the state to be set, or for nothing. -/
theorem networkHandleUrc_cases (event : UrcEvent) (n : Network) :
    networkHandleUrc event n = n ∨ networkHandleUrc event n = n.setState .init ∨
      networkHandleUrc event n = n.setState .disconnected := by
  cases event with
  | netActive | pdpActive =>
    by_cases h : n.state = .disconnected
    · exact Or.inr (Or.inl (if_pos h))
    · exact Or.inl (if_neg h)
  | netDisconnected =>
    by_cases h : n.state = .connected
    · exact Or.inr (Or.inr (if_pos h))
    · exact Or.inl (if_neg h)
  | pdpInactive => exact Or.inr (Or.inr rfl)
  | other => exact Or.inl rfl

/-- The timeout of the state starts a restart, or ends it. -/
theorem networkCheckStateTimeout_cases (n : Network) :
    networkCheckStateTimeout n = n ∨
      n.state ≠ .restartCfun ∧ networkCheckStateTimeout n = n.setState .restartCfun ∨
      n.state = .restartCfun ∧ n.stateTimedOut = true ∧
        networkCheckStateTimeout n = { n with cfunStep := .idle, state := .init } := by
  unfold networkCheckStateTimeout
  split
  · exact Or.inl rfl
  · rename_i hover
    split
    · rename_i hrestart
      refine Or.inr (Or.inr ⟨hrestart, by simpa using hover, ?_⟩)
      simp [Network.setState]
    · rename_i hrestart
      exact Or.inr (Or.inl ⟨hrestart, rfl⟩)

section frame

variable (n : Network)

theorem networkHandleUrc_frame (event : UrcEvent) :
    ∃ state, networkHandleUrc event n = { n with state := state } := by
  rcases networkHandleUrc_cases event n with hsame | hset | hset
  · exact ⟨n.state, hsame⟩
  · rw [hset]
    exact n.setState_frame _
  · rw [hset]
    exact n.setState_frame _

theorem networkNoteState_frame :
    ∃ last tick, networkNoteState n = { n with lastState := last, stateEntryTick := tick } := by
  unfold networkNoteState
  split
  · exact ⟨_, _, rfl⟩
  · exact ⟨n.lastState, n.stateEntryTick, rfl⟩

theorem networkCheckStateTimeout_frame :
    ∃ state step, networkCheckStateTimeout n = { n with state := state, cfunStep := step } := by
  rcases networkCheckStateTimeout_cases n with hsame | ⟨-, hset⟩ | ⟨-, -, hset⟩
  · exact ⟨n.state, n.cfunStep, hsame⟩
  · obtain ⟨state, hframe⟩ := n.setState_frame .restartCfun
    exact ⟨state, n.cfunStep, hset.trans hframe⟩
  · exact ⟨_, _, hset⟩

theorem networkCheckOverallTimeout_frame :
    ∃ since, (networkCheckOverallTimeout n).2 = { n with notConnectedSince := since } := by
  unfold networkCheckOverallTimeout
  split
  · exact ⟨_, rfl⟩
  · split
    · exact ⟨_, rfl⟩
    · split
      · exact ⟨n.notConnectedSince, rfl⟩
      · exact ⟨_, rfl⟩

/-- The write moves the state and asserts `connected`, no more. -/
theorem networkWriteState_frame (next : Option NetworkState) (up : Bool) :
    ∃ state, networkWriteState next up n =
      { n with state := state, connected := up || n.connected, pc := .drain } := by
  unfold networkWriteState
  cases next with
  | none =>
    refine ⟨n.state, ?_⟩
    cases up with
    | false => rfl
    | true => simp [Network.setConnected_true]
  | some new =>
    obtain ⟨state, hframe⟩ := n.setState_frame new
    refine ⟨state, ?_⟩
    dsimp only
    rw [hframe]
    cases up with
    | false => rfl
    | true => simp [Network.setConnected_true]

end frame

/-- The handler of the connected state moves its own clocks only. -/
theorem networkStateHandleConnected_snd (env : ModemEnv) (n : Network) :
    ∃ start last, (networkStateHandleConnected env n).2 =
      { n with connectedStartTicks := start, lastHealthCheckTicks := last } := by
  unfold networkStateHandleConnected
  split
  · exact ⟨_, _, rfl⟩
  · split
    · exact ⟨_, _, rfl⟩
    · split
      · exact ⟨_, _, rfl⟩
      · exact ⟨_, _, rfl⟩

/-- The handler of the restart moves its own steps only. -/
theorem networkStateHandleRestartCfun_snd (env : ModemEnv) (n : Network) :
    ∃ step tick, (networkStateHandleRestartCfun env n).2.2 =
      { n with cfunStep := step, cfunStepTick := tick } := by
  unfold networkStateHandleRestartCfun
  split
  · split
    · exact ⟨_, _, rfl⟩
    · exact ⟨_, _, rfl⟩
  · split
    · exact ⟨_, _, rfl⟩
    · split
      · exact ⟨_, _, rfl⟩
      · exact ⟨_, _, rfl⟩
  · split
    · exact ⟨_, _, rfl⟩
    · exact ⟨_, _, rfl⟩

/-- The states whose handler clears `connected`. -/
def NetworkState.clears : NetworkState → Bool
  | .init | .simRemove | .disconnected => true
  | _ => false

/-- A handler leaves the state to the write, and clears `connected` or leaves it alone. -/
structure HandlerFrame (n next : Network) : Prop where
  state : next.state = n.state
  time : next.time = n.time
  connected : next.connected = if n.state.clears then false else n.connected
  since : next.notConnectedSince =
    if n.state.clears ∧ n.connected = true then n.ticks else n.notConnectedSince
  cfunStep : n.state ≠ .restartCfun → next.cfunStep = n.cfunStep
  pc : ∃ state, next.pc = .write state (n.state = .getIp)

theorem Network.setConnected_false_since (n : Network) :
    (n.setConnected false).notConnectedSince =
      if n.connected = true then n.ticks else n.notConnectedSince := by
  unfold setConnected
  cases n.connected with
  | true => rfl
  | false => rfl

/-- A handler of a state that keeps `connected`. -/
theorem handlerFrame_kept {n next : Network} {state : Option NetworkState}
    (hclears : n.state.clears = false) (hstate : next.state = n.state)
    (htime : next.time = n.time) (hconnected : next.connected = n.connected)
    (hsince : next.notConnectedSince = n.notConnectedSince)
    (hcfun : n.state ≠ .restartCfun → next.cfunStep = n.cfunStep)
    (hpc : next.pc = .write state (n.state = .getIp)) : HandlerFrame n next where
  state := hstate
  time := htime
  connected := by simp [hclears, hconnected]
  since := by simp [hclears, hsince]
  cfunStep := hcfun
  pc := ⟨state, hpc⟩

theorem handlerFrame_writes {n : Network} {next : NetworkState} (hclears : n.state.clears = false)
    (hstate : n.state ≠ .getIp) : HandlerFrame n (n.writes next) :=
  handlerFrame_kept hclears rfl rfl rfl rfl (fun _ => rfl) (by simp [hstate, Network.writes]; rfl)

theorem handlerFrame_clears {n : Network} {next : NetworkState} (hclears : n.state.clears = true)
    (hstate : n.state ≠ .getIp) :
    HandlerFrame n ((n.setConnected false).writes next) where
  state := n.setConnected_state false
  time := n.setConnected_time false
  connected := by simp [hclears, Network.writes]
  since := by simp [hclears, Network.writes, Network.setConnected_false_since]
  cfunStep _ := n.setConnected_cfunStep false
  pc := ⟨some next, by simp [hstate, Network.writes]⟩

theorem networkHandleState_frame (env : ModemEnv) (n : Network) :
    HandlerFrame n (networkHandleState env n).2 := by
  unfold networkHandleState
  cases hstate : n.state with
  | init => exact handlerFrame_clears (by rw [hstate]; rfl) (by simp [hstate])
  | simRemove => exact handlerFrame_clears (by rw [hstate]; rfl) (by simp [hstate])
  | disconnected => exact handlerFrame_clears (by rw [hstate]; rfl) (by simp [hstate])
  | getIp =>
    dsimp only
    exact handlerFrame_kept (by rw [hstate]; rfl) hstate.symm rfl rfl rfl (fun _ => rfl)
      (by simp [hstate]; rfl)
  | connected =>
    have hclears : n.state.clears = false := by rw [hstate]; rfl
    obtain ⟨start, last, hsnd⟩ := networkStateHandleConnected_snd env n
    dsimp only
    split
    · rw [hsnd]
      exact handlerFrame_kept hclears rfl rfl rfl rfl (fun _ => rfl) (by simp [hstate]; rfl)
    · rw [hsnd]
      exact handlerFrame_kept hclears rfl rfl rfl rfl (fun _ => rfl)
        (by simp [hstate, Network.writes]; rfl)
    · rw [hsnd]
      exact handlerFrame_kept hclears rfl rfl rfl rfl (fun _ => rfl)
        (by simp [hstate, Network.writes]; rfl)
  | restartCfun =>
    obtain ⟨step, tick, hsnd⟩ := networkStateHandleRestartCfun_snd env n
    dsimp only
    rw [hsnd]
    exact handlerFrame_kept (by rw [hstate]; rfl) rfl rfl rfl rfl (fun hne => absurd hstate hne)
      (by simp [hstate, Network.writes]; rfl)
  | _ => exact handlerFrame_writes (by rw [hstate]; rfl) (by simp [hstate])

/-- What a step does: every step but the check of the overall timeout and the handler is told
by what it leaves alone. -/
inductive NetworkStep (n : Network) : NetworkEvent → List NetworkOutput × Network → Prop
  | waited (ms : Nat) : NetworkStep n (.wait ms) ([], { n with time := n.time + ms })
  | urc (event : UrcEvent) {state : NetworkState} :
    NetworkStep n (.urc event) ([], { n with state := state })
  | drained (env : ModemEnv) {last : NetworkState} {tick : UInt32} (hpc : n.pc = .drain) :
    NetworkStep n (.task env)
      ([], { n with lastState := last, stateEntryTick := tick, pc := .stateTimeout })
  | stateChecked (env : ModemEnv) {state : NetworkState} {step : CfunStep}
    (hpc : n.pc = .stateTimeout) :
    NetworkStep n (.task env)
      ([], { n with state := state, cfunStep := step, pc := .overallTimeout })
  | overallChecked (env : ModemEnv) (hpc : n.pc = .overallTimeout) :
    NetworkStep n (.task env)
      ((networkCheckOverallTimeout n).1, { (networkCheckOverallTimeout n).2 with pc := .handle })
  | handled (env : ModemEnv) (hpc : n.pc = .handle) :
    NetworkStep n (.task env) (networkHandleState env n)
  | written (env : ModemEnv) {next : Option NetworkState} {up : Bool} {state : NetworkState}
    (hpc : n.pc = .write next up) :
    NetworkStep n (.task env)
      ([], { n with state := state, connected := up || n.connected, pc := .drain })
  | simAvailable {state : NetworkState} :
    NetworkStep n .simAvailable ([], { n with state := state })

theorem networkStep_task (n : Network) (env : ModemEnv) :
    NetworkStep n (.task env) (networkTaskEntry env n) := by
  unfold networkTaskEntry
  cases hpc : n.pc with
  | drain =>
    obtain ⟨last, tick, hnote⟩ := networkNoteState_frame n
    dsimp only
    rw [hnote]
    exact .drained env hpc
  | stateTimeout =>
    obtain ⟨state, step, hcheck⟩ := networkCheckStateTimeout_frame n
    dsimp only
    rw [hcheck]
    exact .stateChecked env hpc
  | overallTimeout => exact .overallChecked env hpc
  | handle => exact .handled env hpc
  | write next up =>
    obtain ⟨state, hwritten⟩ := networkWriteState_frame n next up
    dsimp only
    rw [hwritten]
    exact .written env hpc

theorem networkStep (n : Network) (e : NetworkEvent) :
    NetworkStep n e (networkMachine.step n e) := by
  cases e with
  | wait ms => exact .waited ms
  | urc event =>
    change NetworkStep n _ ([], if n.pc = .drain then networkHandleUrc event n else n)
    obtain ⟨state, hframe⟩ := networkHandleUrc_frame n event
    rw [hframe]
    split
    · exact .urc event
    · have hsame : NetworkStep n (.urc event) ([], { n with state := n.state }) := .urc event
      exact hsame
  | task env => exact networkStep_task n env
  | simAvailable =>
    obtain ⟨state, hframe⟩ := n.setState_frame .restartCfun
    change NetworkStep n _ ([], n.setState .restartCfun)
    rw [hframe]
    exact .simAvailable

theorem networkStep_time_le (n : Network) (e : NetworkEvent) :
    n.time ≤ (networkMachine.step n e).2.time := by
  have hstep := networkStep n e
  generalize networkMachine.step n e = next at hstep
  cases hstep with
  | waited ms => exact Nat.le_add_right _ _
  | overallChecked env hpc =>
    obtain ⟨since, hframe⟩ := networkCheckOverallTimeout_frame n
    rw [hframe]
  | handled env hpc => exact (networkHandleState_frame env n).time.ge
  | _ => exact le_rfl

end WalnutGateway
