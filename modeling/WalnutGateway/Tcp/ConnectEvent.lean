import WalnutGateway.Queue.Fifo
import WalnutGateway.Tcp.SocketPoll

/-!
# The CONNECTED event and the task

A cycle of the TCP task runs the handler of the current state and then writes
the state that `HANDLE_STATE` picks from the result. A TCPMON pass may come in
between, and its callback writes the same variable. `CONNECTED` is emitted once
for each connect, so a pass between the two steps of a cycle that waits for the
connection is a pass too many.
-/

namespace WalnutGateway

/-! ## A cycle in two steps -/

/-- The handler of a state. -/
def tcpStateHandler (env : TcpEnv) (s : TcpSystem) : Result × TcpSystem :=
  match s.client.state with
  | .init => (.success, s)
  | .waitNetwork => tcpStateHandleWaitNetwork env s
  | .socketCreating => tcpStateHandleSocketCreating env s
  | .socketCreated => tcpStateHandleSocketCreated env s
  | .connecting => tcpStateHandleConnecting env s
  | .connected => tcpStateHandleConnected s
  | .sendingLogin => tcpStateHandleSendingLogin env s
  | .waitAckLogin => tcpStateHandleWaitAckLogin env s
  | .ackReceived => tcpStateHandleAckReceived s
  | .sendingData => tcpStateHandleSendingData env s
  | .waitAckData => tcpStateHandleWaitAckData env s
  | .receiving => tcpStateHandleReceiving s
  | .closed => tcpStateHandleClosed s
  | .reconnectDelay => tcpStateHandleReconnectDelay s
  | .error => tcpStateHandleError s

/-- The state that `HANDLE_STATE` writes after a success. -/
def TcpState.onSuccess : TcpState → TcpState
  | .init => .waitNetwork
  | .waitNetwork => .socketCreating
  | .socketCreating => .socketCreated
  | .socketCreated => .connecting
  | .connecting => .connected
  | .connected => .sendingLogin
  | .sendingLogin => .waitAckLogin
  | .waitAckLogin => .ackReceived
  | .ackReceived => .sendingData
  | .sendingData => .waitAckData
  | .waitAckData => .ackReceived
  | .receiving => .sendingData
  | .closed => .reconnectDelay
  | .reconnectDelay => .init
  | .error => .closed

/-- The state that `HANDLE_STATE` writes; a busy handler stays where it is. -/
def TcpState.next (state : TcpState) (r : Result) : TcpState :=
  match r with
  | .success => state.onSuccess
  | .error => .error
  | _ => state

theorem handleState_eq_setState (r : Result × TcpSystem) (state : TcpState) :
    handleState r state.onSuccess .error state = r.2.setState (state.next r.1) := by
  unfold handleState TcpState.next
  cases r.1 <;> rfl

/-- The two steps together are the `switch` of the loop. -/
theorem tcpDispatch_eq_setState (env : TcpEnv) (s : TcpSystem) :
    tcpDispatch env s = (tcpStateHandler env s).2.setState
      (s.client.state.next (tcpStateHandler env s).1) := by
  cases hs : s.client.state <;> simp only [tcpDispatch, tcpStateHandler, hs]
  case init => rfl
  case waitNetwork => exact handleState_eq_setState _ .waitNetwork
  case socketCreating => exact handleState_eq_setState _ .socketCreating
  case socketCreated => exact handleState_eq_setState _ .socketCreated
  case connecting => exact handleState_eq_setState _ .connecting
  case connected => exact handleState_eq_setState _ .connected
  case sendingLogin => exact handleState_eq_setState _ .sendingLogin
  case waitAckLogin => exact handleState_eq_setState _ .waitAckLogin
  case ackReceived => exact handleState_eq_setState _ .ackReceived
  case sendingData => exact handleState_eq_setState _ .sendingData
  case waitAckData => exact handleState_eq_setState _ .waitAckData
  case receiving => exact handleState_eq_setState _ .receiving
  case closed => exact handleState_eq_setState _ .closed
  case reconnectDelay => exact handleState_eq_setState _ .reconnectDelay
  case error => exact handleState_eq_setState _ .error

/-! ## The task and TCPMON -/

/-- The client and the slot of its socket. -/
structure LinkState where
  sys : TcpSystem
  slot : SocketPollSlot
  /-- What the cycle in progress is going to write. -/
  toWrite : Option TcpState
  /-- `CONNECTED` was emitted for the current socket. -/
  announced : Bool

/-- What the task, TCPMON and other modules do. -/
inductive LinkOp
  | runHandler (env : TcpEnv) (poll : PollEnv)
  | writeState
  | pass (env : PollEnv)
  | resetConnection

/-- What the handler does at the socket layer. -/
def slotAfterHandler (env : TcpEnv) (poll : PollEnv) (s : TcpSystem) (slot : SocketPollSlot) :
    SocketPollSlot :=
  match s.client.state with
  | .socketCreating =>
    if env.socketCreate < 0 then slot else sdkWalnutSocketWithCallback poll env.socketCreate
  | .socketCreated =>
    if s.client.config.isNone ∨ ¬ env.addressFound then slot
    else sdkWalnutSocketPollMarkConnecting s.client.tcpFd slot
  | .sendingLogin | .sendingData =>
    if (tcpStateHandler env s).1 = .success then
      sdkWalnutSocketPollNoteSent poll s.client.tcpFd env.lwipSend slot
    else slot
  | .closed | .error =>
    if s.client.tcpFd ≥ 0 ∧ slot.fd = s.client.tcpFd then sdkWalnutSocketPollRelease else slot
  | _ => slot

/-- The callback for each event of a pass. -/
def deliver (fd : Int) (events : List (NetconnEvent × Nat)) (s : TcpSystem) : TcpSystem :=
  events.foldl (fun s e => tcpSocketEventCallback fd e.1 e.2 s) s

/-- A new socket is created in this cycle. -/
def CreatesSocket (env : TcpEnv) (s : TcpSystem) : Prop :=
  s.client.state = .socketCreating ∧ 0 ≤ env.socketCreate

instance (env : TcpEnv) (s : TcpSystem) : Decidable (CreatesSocket env s) :=
  inferInstanceAs (Decidable (_ ∧ _))

/-- The task and the poll layer, step by step. -/
def linkMachine : Machine LinkState LinkOp Unit where
  step s op := ((),
    match op with
    | .runHandler env poll =>
      if s.toWrite.isSome then s else
      let sys := tcpCyclePrelude env s.sys
      let h := tcpStateHandler env sys
      { sys := h.2
        slot := slotAfterHandler env poll sys s.slot
        toWrite := some (sys.client.state.next h.1)
        announced := s.announced && ! decide (CreatesSocket env sys) }
    | .writeState =>
      match s.toWrite with
      | none => s
      | some state => { s with sys := s.sys.setState state, toWrite := none }
    | .pass env =>
      let r := socketPollServiceSlot env s.slot
      { s with
        sys := deliver s.slot.fd r.1 s.sys
        slot := r.2
        announced := s.announced ||
          (decide ((.connected, 0) ∈ r.1) && decide (s.slot.fd = s.sys.client.tcpFd)) }
    | .resetConnection => { s with sys := wewareTcpResetConnection s.sys })

/-- The states that wait for `CONNECTED`. -/
def TcpState.waits (state : TcpState) : Bool := state = .socketCreated || state = .connecting

/-- The kernel reports a connection that the slot waits for. -/
def ConnectReady (env : PollEnv) (slot : SocketPollSlot) : Prop :=
  0 ≤ slot.fd ∧ env.excepted = false ∧ slot.connectPending = true ∧ env.writable = true ∧
    ¬ (env.soErrorRet = 0 ∧ env.soError ≠ 0) ∧ env.getpeername = 0

/-- No pass finds the connection made while a cycle is about to write a state that
waits for it. -/
def InTime (s : LinkState) : LinkOp → Prop
  | .pass env => ConnectReady env s.slot → ∀ state, s.toWrite = some state → state.waits = false
  | _ => True

/-! ## What a step does to the state of the client -/

theorem tcpSendData_state (env : TcpEnv) (s : TcpSystem) (buffer : List Byte) :
    (tcpSendData env s buffer).2.client.state = s.client.state := by
  unfold tcpSendData
  dsimp only
  split_ifs <;> rfl

theorem closeSocket_state (s : TcpSystem) : s.closeSocket.client.state = s.client.state := by
  unfold TcpSystem.closeSocket
  split <;> rfl

/-- No handler writes the state. -/
theorem tcpStateHandler_state (env : TcpEnv) (s : TcpSystem) :
    (tcpStateHandler env s).2.client.state = s.client.state := by
  cases hs : s.client.state <;> simp only [tcpStateHandler, hs]
  case waitNetwork => exact hs
  case socketCreating =>
    unfold tcpStateHandleSocketCreating
    split_ifs <;> exact hs
  case socketCreated =>
    unfold tcpStateHandleSocketCreated
    split_ifs <;> exact hs
  case connecting => exact hs
  case connected =>
    unfold tcpStateHandleConnected
    split_ifs <;> exact hs
  case sendingLogin =>
    unfold tcpStateHandleSendingLogin
    dsimp only
    by_cases hsocket : s.validateSocketForSend env = true
    · rw [if_neg (not_not_intro hsocket)]
      by_cases hlength : env.loginPacket.length ≠ loginPacketTotalSize
      · rw [if_pos hlength]
        exact hs
      · rw [if_neg hlength]
        exact (tcpSendData_state env _ _).trans hs
    · rw [if_pos hsocket]
      exact hs
  case waitAckLogin =>
    unfold tcpStateHandleWaitAckLogin tcpStateHandleWaitAck
    split_ifs <;> exact hs
  case ackReceived => exact hs
  case sendingData =>
    unfold tcpStateHandleSendingData
    dsimp only
    split_ifs <;> first | exact hs | exact (tcpSendData_state env _ _).trans hs
  case waitAckData =>
    unfold tcpStateHandleWaitAckData tcpStateHandleWaitAck
    split_ifs <;> exact hs
  case receiving => exact hs
  case closed =>
    refine (closeSocket_state _).trans (Eq.trans ?_ hs)
    dsimp only
    split <;> rfl
  case reconnectDelay =>
    unfold tcpStateHandleReconnectDelay
    dsimp only
    split_ifs <;> exact hs
  case error => exact (closeSocket_state s).trans hs

/-- A timeout closes, or starts over. -/
theorem tcpCheckStateTimeout_state (env : TcpEnv) (s : TcpSystem) :
    (tcpCheckStateTimeout env s).client.state = s.client.state ∨
      (tcpCheckStateTimeout env s).client.state.waits = false := by
  unfold tcpCheckStateTimeout
  dsimp only
  split_ifs
  · exact Or.inl rfl
  · exact Or.inr rfl
  · exact Or.inr rfl

theorem tcpCheckOverallTimeout_state (env : TcpEnv) (s : TcpSystem) :
    (tcpCheckOverallTimeout env s).client.state = s.client.state ∨
      (tcpCheckOverallTimeout env s).client.state.waits = false := by
  unfold tcpCheckOverallTimeout
  dsimp only
  split_ifs
  · exact Or.inl rfl
  · exact Or.inl rfl
  · exact Or.inr rfl

/-- The part of a cycle before its handler never enters a state that waits. -/
theorem waits_tcpCyclePrelude (env : TcpEnv) {s : TcpSystem} (h : s.client.state.waits = false) :
    (tcpCyclePrelude env s).client.state.waits = false := by
  unfold tcpCyclePrelude
  generalize hentry : (if s.lastState ≠ s.client.state then _ else s : TcpSystem) = entry
  have hstate : entry.client.state = s.client.state := by
    rw [← hentry]
    split <;> rfl
  have htimeout : (tcpCheckStateTimeout env entry).client.state.waits = false := by
    rcases tcpCheckStateTimeout_state env entry with heq | hwaits
    · rw [heq, hstate]
      exact h
    · exact hwaits
  have hoverall :
      (tcpCheckOverallTimeout env (tcpCheckStateTimeout env entry)).client.state.waits = false := by
    rcases tcpCheckOverallTimeout_state env (tcpCheckStateTimeout env entry) with heq | hwaits
    · rw [heq]
      exact htimeout
    · exact hwaits
  dsimp only
  split
  · exact hoverall
  · exact hoverall

/-- An event leaves the state, or moves to one that does not wait. -/
theorem waits_tcpSocketEventCallback (fd : Int) (evt : NetconnEvent) (len : Nat) {s : TcpSystem}
    (h : s.client.state.waits = false) :
    (tcpSocketEventCallback fd evt len s).client.state.waits = false := by
  unfold tcpSocketEventCallback
  cases evt <;> dsimp only <;> split_ifs <;> first | exact h | rfl

theorem waits_deliver (fd : Int) (events : List (NetconnEvent × Nat)) {s : TcpSystem}
    (h : s.client.state.waits = false) : (deliver fd events s).client.state.waits = false := by
  induction events generalizing s with
  | nil => exact h
  | cons e events ih => exact ih (waits_tcpSocketEventCallback fd e.1 e.2 h)

/-- `CONNECTED` on the socket of the client ends every wait. -/
theorem waits_connected {fd : Int} (len : Nat) {s : TcpSystem} (hfd : fd = s.client.tcpFd)
    (hpos : 0 ≤ fd) : (tcpSocketEventCallback fd .connected len s).client.state.waits = false := by
  unfold tcpSocketEventCallback
  rw [if_neg (by omega)]
  split
  · rename_i hclosed
    rw [hclosed]
    rfl
  · rfl

/-! ## What a cycle is going to write -/

/-- A cycle writes a state that waits only after it created a socket, or from such a state. -/
theorem waits_next (env : TcpEnv) {s : TcpSystem} (h : s.client.state.waits = false)
    (hcreates : ¬ CreatesSocket env s) :
    (s.client.state.next (tcpStateHandler env s).1).waits = false := by
  by_cases hcreating : s.client.state = .socketCreating
  · have hfd : env.socketCreate < 0 := by
      by_contra hpos
      exact hcreates ⟨hcreating, by omega⟩
    simp only [tcpStateHandler, hcreating, tcpStateHandleSocketCreating, if_pos hfd]
    rfl
  · cases hr : (tcpStateHandler env s).1 <;> cases hs : s.client.state <;>
      first | exact absurd hs hcreating | rfl | (rw [hs] at h; cases h)

/-! ## When `CONNECTED` is emitted -/

theorem errnoToErrorEvent_ne_connected (err : Int) : errnoToErrorEvent err ≠ .connected := by
  unfold errnoToErrorEvent
  split_ifs <;> nofun

namespace SocketPollSlot

theorem connected_mem_serviceConnect (env : PollEnv) (slot : SocketPollSlot) :
    (NetconnEvent.connected, 0) ∈ (slot.serviceConnect env).1 ↔
      env.writable = true ∧ ¬ (env.soErrorRet = 0 ∧ env.soError ≠ 0) ∧ env.getpeername = 0 := by
  have herrno := (errnoToErrorEvent_ne_connected env.soError).symm
  unfold serviceConnect
  split_ifs with hwritable herror hpeer
  · rw [List.mem_singleton]
    constructor
    · intro h
      exact absurd (Prod.mk.inj h).1 herrno
    · rintro ⟨-, hnot, -⟩
      exact absurd herror hnot
  · simp [hpeer]
  · simpa [hwritable, not_not.mp hpeer] using herror
  · simp [hwritable]

theorem connected_not_mem_serviceReadable (env : PollEnv) (slot : SocketPollSlot) :
    (NetconnEvent.connected, 0) ∉ (slot.serviceReadable env).1 := by
  unfold serviceReadable
  split_ifs <;> simp

theorem connected_not_mem_serviceAcked (env : PollEnv) (slot : SocketPollSlot) :
    (NetconnEvent.connected, 0) ∉ (slot.serviceAcked env).1 := by
  unfold serviceAcked
  dsimp only
  split_ifs <;> simp

theorem connected_not_mem_serviceWritable (env : PollEnv) (slot : SocketPollSlot) :
    (NetconnEvent.connected, 0) ∉ (slot.serviceWritable env).1 := by
  unfold serviceWritable
  split_ifs <;> simp

end SocketPollSlot

/-- `CONNECTED` is emitted exactly when the kernel reports the connection waited for. -/
theorem connected_mem_iff (env : PollEnv) (slot : SocketPollSlot) :
    (NetconnEvent.connected, 0) ∈ (socketPollServiceSlot env slot).1 ↔ ConnectReady env slot := by
  have herrno := (errnoToErrorEvent_ne_connected env.soError).symm
  unfold socketPollServiceSlot ConnectReady
  split_ifs with hfd hexcepted hemitted herror hpending
  · simp [hfd]
  · simp [hexcepted]
  · simp [hexcepted, herrno]
  · simp [hexcepted]
  · rw [SocketPollSlot.connected_mem_serviceConnect]
    simp [hexcepted, hpending, not_lt.mp hfd]
  · simp [hpending, SocketPollSlot.connected_not_mem_serviceReadable,
      SocketPollSlot.connected_not_mem_serviceAcked,
      SocketPollSlot.connected_not_mem_serviceWritable]

/-- It is emitted alone, and the slot waits no longer. -/
theorem socketPollServiceSlot_ready {env : PollEnv} {slot : SocketPollSlot}
    (h : ConnectReady env slot) :
    socketPollServiceSlot env slot =
      ([(.connected, 0)], { slot with connectPending := false, lastWritable := true }) := by
  obtain ⟨hfd, hexcepted, hpending, hwritable, herror, hpeer⟩ := h
  simp [socketPollServiceSlot, SocketPollSlot.serviceConnect, hexcepted, hpending, hwritable,
    herror, hpeer, not_lt.mpr hfd]

/-! ## Runs -/

namespace LinkState

/-- After `CONNECTED` the client does not wait for it, now or after the cycle in progress. -/
structure Recovered (s : LinkState) : Prop where
  state : s.announced = true → s.sys.client.state.waits = false
  toWrite : s.announced = true → ∀ state, s.toWrite = some state → state.waits = false

variable {s : LinkState}

theorem Recovered.runHandler (h : s.Recovered) (env : TcpEnv) (poll : PollEnv) :
    (linkMachine.step s (.runHandler env poll)).2.Recovered := by
  change LinkState.Recovered (if s.toWrite.isSome then s else _)
  split
  · exact h
  have hprelude (ha : s.announced = true) := waits_tcpCyclePrelude env (h.state ha)
  refine ⟨?_, ?_⟩
  · intro ha
    have hannounced := (Bool.and_eq_true_iff.mp ha).1
    dsimp only
    rw [tcpStateHandler_state]
    exact hprelude hannounced
  · intro ha state hstate
    obtain ⟨hannounced, hcreates⟩ := Bool.and_eq_true_iff.mp ha
    cases hstate
    apply waits_next env (hprelude hannounced)
    simpa using hcreates

theorem Recovered.writeState (h : s.Recovered) :
    (linkMachine.step s .writeState).2.Recovered := by
  cases hw : s.toWrite with
  | none =>
    have hstep : (linkMachine.step s .writeState).2 = s := by
      simp only [linkMachine, hw]
    rw [hstep]
    exact h
  | some state =>
    have hstep : (linkMachine.step s .writeState).2 =
        { s with sys := s.sys.setState state, toWrite := none } := by
      simp only [linkMachine, hw]
    rw [hstep]
    exact ⟨fun ha => h.toWrite ha state hw, nofun⟩

theorem Recovered.pass (h : s.Recovered) {env : PollEnv} (ht : InTime s (.pass env)) :
    (linkMachine.step s (.pass env)).2.Recovered := by
  cases ha : s.announced with
  | true =>
    refine ⟨?_, ?_⟩
    · intro
      exact waits_deliver _ _ (h.state ha)
    · intro
      exact h.toWrite ha
  | false =>
    have hready (ha' : (linkMachine.step s (.pass env)).2.announced = true) :
        ConnectReady env s.slot ∧ s.slot.fd = s.sys.client.tcpFd := by
      change (s.announced || _) = true at ha'
      rw [ha, Bool.false_or, Bool.and_eq_true_iff] at ha'
      exact ⟨(connected_mem_iff env s.slot).mp (of_decide_eq_true ha'.1), of_decide_eq_true ha'.2⟩
    refine ⟨?_, ?_⟩
    · intro ha'
      obtain ⟨hr, hfd⟩ := hready ha'
      change
        (deliver s.slot.fd (socketPollServiceSlot env s.slot).1 s.sys).client.state.waits = false
      rw [socketPollServiceSlot_ready hr]
      exact waits_connected 0 hfd hr.1
    · intro ha'
      exact ht (hready ha').1

theorem Recovered.step (h : s.Recovered) {op : LinkOp} (ht : InTime s op) :
    (linkMachine.step s op).2.Recovered := by
  cases op with
  | runHandler env poll => exact h.runHandler env poll
  | writeState => exact h.writeState
  | pass env => exact h.pass ht
  | resetConnection => exact ⟨fun _ => rfl, h.toWrite⟩

/-- A pass that finds the connection made while a cycle is about to write a state
that waits: after the write the client waits, and no pass will emit `CONNECTED` again. -/
theorem connected_overwritten {env : PollEnv} (hr : ConnectReady env s.slot)
    (hfd : s.slot.fd = s.sys.client.tcpFd) {state : TcpState} (hw : s.toWrite = some state) :
    let t := (linkMachine.run s [.pass env, .writeState]).2
    t.announced = true ∧ t.sys.client.state = state ∧ t.slot.connectPending = false := by
  have hevents := socketPollServiceSlot_ready hr
  simp only [linkMachine, Machine.run, hw, hevents]
  refine ⟨?_, rfl, trivial⟩
  simp [hfd]

/-- After `CONNECTED` was emitted for its socket, and with no cycle in progress, the
client does not wait for it, or it will be emitted again. -/
def ConnectedKept (s : LinkState) : Prop :=
  s.announced = true → s.toWrite = none →
    s.sys.client.state.waits = false ∨ s.slot.connectPending = true

instance (s : LinkState) : Decidable s.ConnectedKept :=
  inferInstanceAs (Decidable (_ → _ → _))

end LinkState

/-! ## The event reaches the client -/

/-- In every run whose passes come in time the client does not wait for an event
that was emitted. -/
theorem connected_event_kept (sys : TcpSystem) (slot : SocketPollSlot) (ops : List LinkOp)
    (h : linkMachine.Along InTime ⟨sys, slot, none, false⟩ ops) :
    (linkMachine.run ⟨sys, slot, none, false⟩ ops).2.ConnectedKept := by
  have hrun := linkMachine.invariant (I := LinkState.Recovered) (fun _ _ hr ht => hr.step ht)
    (s := ⟨sys, slot, none, false⟩) ⟨nofun, nofun⟩ h
  intro ha _
  exact Or.inl (hrun.state ha)

/-- A client that is about to create its socket. -/
def creatingSystem : TcpSystem where
  client :=
    { state := .socketCreating
      tcpFd := -1
      lastConnectedState := false
      sessionUp := false
      config := some ⟨CArray.ofList 64 [], 9616, 30000, 10000, false, true⟩
      tcpBytesSent := -1
      tcpBytesAcked := 0
      tcpSendQueueBatchCount := 0
      recvPending := false
      stateEntryTick := 0
      sessionDownSince := 0
      reconnectDelayCycles := 0 }
  lastState := .socketCreating
  loginPacketBuffer := []
  dataPacketBuffer := []
  sendQueue := freshSendQueue
  outputs := []

/-- A network in order where a connect does not block. -/
def connectEnv : TcpEnv where
  ticks := 0
  networkConnected := true
  socketCreate := 3
  addressFound := true
  connect := -1
  sockErrno := 0
  lastErrno := eInProgress
  loginPacket := []
  lastValidPosition := []
  lwipSend := 0
  recv := 0

/-- A socket that is writable, has a peer and nothing to read. -/
def connectedPoll : PollEnv := ⟨false, true, false, 0, 0, 0, 0, 0, 0, 0⟩

/-- A whole cycle. -/
def wholeCycle : List LinkOp := [.runHandler connectEnv connectedPoll, .writeState]

/-- The connection is found between two cycles. -/
theorem connected_event_kept_between :
    (linkMachine.run ⟨creatingSystem, sdkWalnutSocketPollRelease, none, false⟩
      (wholeCycle ++ wholeCycle ++ [.pass connectedPoll])).2.ConnectedKept := by
  apply connected_event_kept
  exact ⟨trivial, trivial, trivial, trivial, nofun, trivial⟩

/-- A pass inside the cycle that connects, or inside one that waits for the
connection: the cycle writes `CONNECTING` over `CONNECTED`, and a further pass and a
further cycle change nothing. -/
theorem connected_event_lost :
    let start : LinkState := ⟨creatingSystem, sdkWalnutSocketPollRelease, none, false⟩
    let late := [LinkOp.runHandler connectEnv connectedPoll, .pass connectedPoll, .writeState,
      .pass connectedPoll]
    ¬ (linkMachine.run start (wholeCycle ++ late)).2.ConnectedKept ∧
      ¬ (linkMachine.run start
        (wholeCycle ++ wholeCycle ++ late ++ wholeCycle)).2.ConnectedKept := by
  refine ⟨?_, ?_⟩ <;> decide +kernel

end WalnutGateway
