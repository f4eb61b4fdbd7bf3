import WalnutGateway.Tcp.ConnectEvent
import WalnutGateway.Tcp.SendAcked

/-!
# The invariant of the TCP client

Cycles of the task, socket events, timeouts and requests to start over come in any
order. A pass of the poll layer is taken apart into its sections, each of which emits
one event at most, so that anything may happen between two events. The poll layer
emits `CONNECTED` only for a connect in flight: an event that the client accepts in
any state comes only in few.
-/

namespace WalnutGateway

/-! ## The poll layer, event by event -/

/-- The sections of a pass over one slot. -/
inductive PollSection
  | deliverSynth
  | excepted
  | connect
  | readable
  | acked
  | writable
  deriving DecidableEq

/-- What one section of `socket_poll_loop` emits, and the slot. -/
def pollSection (env : PollEnv) (slot : SocketPollSlot) :
    PollSection → List (NetconnEvent × Nat) × SocketPollSlot
  | .deliverSynth => socketPollDeliverSynth slot
  | .excepted => socketPollServiceSlot { env with excepted := true } slot
  | .connect => if slot.fd ≥ 0 ∧ slot.connectPending then slot.serviceConnect env else ([], slot)
  | .readable =>
    if slot.fd ≥ 0 ∧ ¬ slot.connectPending then slot.serviceReadable env else ([], slot)
  | .acked =>
    if slot.fd ≥ 0 ∧ ¬ slot.connectPending then slot.serviceAcked env else ([], slot)
  | .writable =>
    if slot.fd ≥ 0 ∧ ¬ slot.connectPending then slot.serviceWritable env else ([], slot)

/-- The client, the slot of its socket, and the state that made the last send. -/
structure ClientRun where
  sys : TcpSystem
  slot : SocketPollSlot
  lastSend : Option TcpState

/-- What can happen to the client. -/
inductive ClientOp
  | cycle (env : TcpEnv) (poll : PollEnv)
  | event (env : PollEnv) (part : PollSection)
  | stateTimeout (env : TcpEnv)
  | overallTimeout (env : TcpEnv)
  | resetConnection

/-- The handler of the state hands bytes to the socket. -/
def Sends (env : TcpEnv) (s : TcpSystem) : Prop :=
  (s.client.state = .sendingLogin ∨ s.client.state = .sendingData) ∧
    (tcpStateHandler env s).1 = .success

instance (env : TcpEnv) (s : TcpSystem) : Decidable (Sends env s) :=
  inferInstanceAs (Decidable (_ ∧ _))

/-- The `switch` of a cycle, with what its handler does at the socket layer. -/
def ClientRun.dispatch (env : TcpEnv) (poll : PollEnv) (s : ClientRun) : ClientRun where
  sys := tcpDispatch env s.sys
  slot := slotAfterHandler env poll s.sys s.slot
  lastSend := if Sends env s.sys then some s.sys.client.state else s.lastSend

/-- The client under these steps. -/
def clientMachine : Machine ClientRun ClientOp Unit where
  step s op := ((),
    match op with
    | .cycle env poll => { s with sys := tcpCyclePrelude env s.sys }.dispatch env poll
    | .event env part =>
      let r := pollSection env s.slot part
      { s with sys := deliver s.slot.fd r.1 s.sys, slot := r.2 }
    | .stateTimeout env => { s with sys := tcpCheckStateTimeout env s.sys }
    | .overallTimeout env => { s with sys := tcpCheckOverallTimeout env s.sys }
    | .resetConnection => { s with sys := wewareTcpResetConnection s.sys })

/-- The client before its first cycle. -/
def ClientRun.start (config : Option WewareTcpConfig) (sendQueue : Device ModuleMessage)
    (ticks : UInt32) : ClientRun where
  sys :=
    { client :=
        { state := .init
          tcpFd := -1
          lastConnectedState := false
          sessionUp := false
          config := config
          tcpBytesSent := -1
          tcpBytesAcked := 0
          tcpSendQueueBatchCount := 0
          recvPending := false
          stateEntryTick := ticks
          sessionDownSince := ticks
          reconnectDelayCycles := 0 }
      lastState := .init
      loginPacketBuffer := []
      dataPacketBuffer := []
      sendQueue := sendQueue
      outputs := [] }
  slot := sdkWalnutSocketPollRelease
  lastSend := none

/-! ## A whole pass -/

section Pass

variable (env : PollEnv) (slot : SocketPollSlot)

theorem deliver_append (fd : Int) (xs ys : List (NetconnEvent × Nat)) (sys : TcpSystem) :
    deliver fd (xs ++ ys) sys = deliver fd ys (deliver fd xs sys) := List.foldl_append

/-- The sections up to the last keep the socket and whether its connect is in flight. -/
theorem deliverSynth_frame : (socketPollDeliverSynth slot).2.fd = slot.fd ∧
    (socketPollDeliverSynth slot).2.connectPending = slot.connectPending := by
  unfold socketPollDeliverSynth
  split <;> exact ⟨rfl, rfl⟩

theorem serviceReadable_frame : (slot.serviceReadable env).2.fd = slot.fd ∧
    (slot.serviceReadable env).2.connectPending = slot.connectPending := by
  unfold SocketPollSlot.serviceReadable
  split_ifs <;> exact ⟨rfl, rfl⟩

theorem serviceAcked_frame : (slot.serviceAcked env).2.fd = slot.fd ∧
    (slot.serviceAcked env).2.connectPending = slot.connectPending := by
  unfold SocketPollSlot.serviceAcked
  dsimp only
  split_ifs <;> exact ⟨rfl, rfl⟩

/-- The sections that a turn of the loop goes through. -/
def passSections (selectRet : Int) : List PollSection :=
  if selectRet ≤ 0 ∨ slot.fd < 0 then [.deliverSynth]
  else if env.excepted then [.deliverSynth, .excepted]
  else if slot.connectPending then [.deliverSynth, .connect]
  else [.deliverSynth, .readable, .acked, .writable]

/-- A turn of the loop with the callbacks it makes is the run of its sections. -/
theorem run_passSections (selectRet : Int) (s : ClientRun) :
    (clientMachine.run s ((passSections env s.slot selectRet).map (.event env))).2 =
      { s with
        sys := deliver s.slot.fd (socketPollLoop selectRet env s.slot).1 s.sys
        slot := (socketPollLoop selectRet env s.slot).2 } := by
  obtain ⟨hfd, hpending⟩ := deliverSynth_frame s.slot
  unfold passSections socketPollLoop
  by_cases hret : selectRet ≤ 0
  · rw [if_pos (Or.inl hret)]
    simp only [if_pos hret]
    rfl
  · by_cases hnone : s.slot.fd < 0
    · rw [if_pos (Or.inr hnone)]
      simp only [if_neg hret, socketPollServiceSlot, hfd, if_pos hnone, List.append_nil]
      rfl
    · have hopen : s.slot.fd ≥ 0 := by omega
      rw [if_neg (by omega)]
      simp only [if_neg hret]
      cases hexcepted : env.excepted with
      | true =>
        have henv : ({ env with excepted := true } : PollEnv) = env := by
          rw [← hexcepted]
        simp only [if_true, List.map_cons, List.map_nil, Machine.run, clientMachine, pollSection,
          hfd, henv, deliver_append]
      | false =>
        simp only [Bool.false_eq_true, if_false, socketPollServiceSlot, hfd, if_neg hnone,
          hpending, hexcepted]
        cases hconnect : s.slot.connectPending with
        | true =>
          simp only [if_true, List.map_cons, List.map_nil, Machine.run, clientMachine, pollSection,
            hfd, hpending, hconnect, deliver_append, hopen, and_self]
        | false =>
          obtain ⟨hfd', hpending'⟩ := serviceReadable_frame env (socketPollDeliverSynth s.slot).2
          obtain ⟨hfd'', hpending''⟩ := serviceAcked_frame env
            ((socketPollDeliverSynth s.slot).2.serviceReadable env).2
          simp only [Bool.false_eq_true, if_false, List.map_cons, List.map_nil, Machine.run,
            clientMachine, pollSection, hfd, hpending, hconnect, hfd', hpending', hfd'',
            hpending'', deliver_append, hopen, not_false_eq_true, and_self, if_true]

end Pass

/-! ## What the handlers do -/

/-- What `tcp_state_handle_closed` does before it closes the socket. -/
def TcpSystem.hangUp (s : TcpSystem) : TcpSystem :=
  { s.resetSendTracking with
    client := { s.resetSendTracking.client with
      lastConnectedState := false, sessionUp := false, recvPending := false }
    outputs := if s.client.lastConnectedState then s.outputs ++ [.tcpDisconnected]
      else s.outputs }

theorem tcpStateHandleClosed_eq (s : TcpSystem) :
    tcpStateHandleClosed s = (.success, { s.hangUp.closeSocket with
      client := { s.hangUp.closeSocket.client with reconnectDelayCycles := 0 } }) := by
  obtain ⟨client, lastState, login, data, queue, outputs⟩ := s
  obtain ⟨state, fd, last, up, config, sent, acked, batch, recv, entry, down, cycles⟩ := client
  cases last <;> rfl

/-- What a handler that sends can do: only a handler for rows counts rows. -/
inductive SendOutcome (s : TcpSystem) : Result × TcpSystem → Prop
  | sent {n : Int} (hn : 0 < n) {batch : Nat} (login data : List Byte)
    (queue : Device ModuleMessage)
    (hbatch : batch = s.client.tcpSendQueueBatchCount ∨ s.client.state = .sendingData) :
    SendOutcome s (.success, { s with
      loginPacketBuffer := login, dataPacketBuffer := data, sendQueue := queue
      client := { s.client with
        tcpBytesSent := n, tcpBytesAcked := 0, tcpSendQueueBatchCount := batch } })
  | unsent {r : Result} (hr : r = .busy ∨ r = .error) (login data : List Byte)
    (queue : Device ModuleMessage) :
    SendOutcome s (r, { s with
      loginPacketBuffer := login, dataPacketBuffer := data, sendQueue := queue })
  | failed (login data : List Byte) (queue : Device ModuleMessage) :
    SendOutcome s (.error, { s.resetSendTracking with
      loginPacketBuffer := login, dataPacketBuffer := data, sendQueue := queue })

/-- `tcp_send_data` counts the bytes accepted; a failed send may reset the tracking. -/
theorem tcpSendData_cases (env : TcpEnv) (s : TcpSystem) (buffer : List Byte) :
    (0 < (tcpSendData env s buffer).1 ∧ (tcpSendData env s buffer).2 =
      { s with client := { s.client with
        tcpBytesSent := (tcpSendData env s buffer).1, tcpBytesAcked := 0 } }) ∨
    ((tcpSendData env s buffer).1 ≤ 0 ∧ (tcpSendData env s buffer).2 = s) ∨
    ((tcpSendData env s buffer).1 < 0 ∧ (tcpSendData env s buffer).2 = s.resetSendTracking) := by
  unfold tcpSendData
  dsimp only
  split_ifs with hnone hfailed hfull
  · exact Or.inr (Or.inl ⟨(Int.negSucc_lt_zero 0).le, rfl⟩)
  · exact Or.inr (Or.inr ⟨Int.negSucc_lt_zero 0, rfl⟩)
  · exact Or.inr (Or.inl ⟨le_refl _, rfl⟩)
  · exact Or.inl ⟨by dsimp only; omega, rfl⟩

theorem tcpStateHandleSendingLogin_outcome (env : TcpEnv) (s : TcpSystem) :
    SendOutcome s (tcpStateHandleSendingLogin env s) := by
  unfold tcpStateHandleSendingLogin
  split
  · exact .unsent (Or.inr rfl) s.loginPacketBuffer s.dataPacketBuffer s.sendQueue
  · split
    · exact .unsent (Or.inl rfl) s.loginPacketBuffer s.dataPacketBuffer s.sendQueue
    · dsimp only
      generalize (if (s.client.config.any fun c => c.loginWithGps) = true ∧
        env.lastValidPosition.length = loginPositionSize then
        env.loginPacket ++ env.lastValidPosition else env.loginPacket) = packet
      rcases tcpSendData_cases env { s with loginPacketBuffer := packet } packet with
        ⟨hpos, heq⟩ | ⟨hle, heq⟩ | ⟨hneg, heq⟩
      · rw [if_pos hpos, heq]
        exact .sent hpos packet s.dataPacketBuffer s.sendQueue (Or.inl rfl)
      · rw [if_neg (by omega), heq]
        refine .unsent ?_ packet s.dataPacketBuffer s.sendQueue
        split
        · exact Or.inl rfl
        · exact Or.inr rfl
      · rw [if_neg (by omega), if_neg (by omega), heq]
        exact .failed packet s.dataPacketBuffer s.sendQueue

theorem tcpStateHandleSendingData_outcome (env : TcpEnv) {s : TcpSystem}
    (hs : s.client.state = .sendingData) : SendOutcome s (tcpStateHandleSendingData env s) := by
  unfold tcpStateHandleSendingData
  split
  · exact .unsent (Or.inr rfl) s.loginPacketBuffer s.dataPacketBuffer s.sendQueue
  · dsimp only
    split
    · exact .unsent (Or.inl rfl) s.loginPacketBuffer s.dataPacketBuffer _
    · split
      · exact .unsent (Or.inl rfl) s.loginPacketBuffer s.dataPacketBuffer _
      · generalize tcpPrependLiveFirstQueueTail s.client.config _ _ _ = f
        rcases tcpSendData_cases env { s with dataPacketBuffer := f.1, sendQueue := f.2 } f.1 with
          ⟨hpos, heq⟩ | ⟨hle, heq⟩ | ⟨hneg, heq⟩
        · rw [if_pos hpos, heq]
          exact .sent hpos s.loginPacketBuffer f.1 f.2 (Or.inr hs)
        · rw [if_neg (by omega)]
          split
          · rw [heq]
            exact .unsent (Or.inl rfl) s.loginPacketBuffer f.1 f.2
          · rw [heq]
            exact .unsent (Or.inr rfl) s.loginPacketBuffer f.1 f.2
        · rw [if_neg (by omega), if_neg (by omega), heq]
          exact .failed s.loginPacketBuffer f.1 f.2

/-! ## The invariant -/

/-- The states without a socket. -/
def TcpState.unopened : TcpState → Bool
  | .init | .waitNetwork | .socketCreating | .reconnectDelay => true
  | _ => false

/-- The states in which a connect may be in flight. -/
def TcpState.mayConnect : TcpState → Bool
  | .connecting | .closed | .error => true
  | _ => false

/-- The states in which rows may be in flight. -/
def TcpState.holdsBatch : TcpState → Bool
  | .waitAckData | .ackReceived | .closed => true
  | _ => false

/-- The states after the connection was announced. -/
def TcpState.loggingIn : TcpState → Bool
  | .sendingLogin | .waitAckLogin | .ackReceived | .sendingData | .waitAckData | .receiving => true
  | _ => false

/-- `socketCreated` and `socketClosed`. -/
def TcpOutput.isSocket : TcpOutput → Bool
  | .socketCreated _ | .socketClosed _ => true
  | _ => false

/-- The socket that is open, if there is one. -/
def TcpClient.openFd (c : TcpClient) : Option Int := if 0 ≤ c.tcpFd then some c.tcpFd else none

/-- Every socket is closed before the next is created, but for the one that is open. -/
def SocketsPaired (current : Option Int) (outputs : List TcpOutput) : Prop :=
  Bracketed TcpOutput.socketCreated TcpOutput.socketClosed current
    (outputs.filter TcpOutput.isSocket)

/-- `CONNECTED` and `DISCONNECTED` alternate, and `CONNECTED` is first. -/
def BroadcastsPaired (connected : Bool) (outputs : List TcpOutput) : Prop :=
  Bracketed (fun _ : Unit => TcpOutput.tcpConnected) (fun _ => TcpOutput.tcpDisconnected)
    (if connected then some () else none) (outputs.filter fun o => ! o.isSocket)

section Outputs

variable {outputs : List TcpOutput} {fd : Int}

theorem SocketsPaired.create (h : SocketsPaired none outputs) (fd : Int) :
    SocketsPaired (some fd) (outputs ++ [.socketCreated fd]) := by
  rw [SocketsPaired, List.filter_append]
  exact h.opened fd

theorem SocketsPaired.close (h : SocketsPaired (some fd) outputs) :
    SocketsPaired none (outputs ++ [.socketClosed fd]) := by
  rw [SocketsPaired, List.filter_append]
  exact Bracketed.closed h

theorem SocketsPaired.broadcast {current : Option Int} (h : SocketsPaired current outputs)
    {o : TcpOutput} (ho : o.isSocket = false) : SocketsPaired current (outputs ++ [o]) := by
  rw [SocketsPaired] at h ⊢
  simpa [ho] using h

theorem BroadcastsPaired.connect (h : BroadcastsPaired false outputs) :
    BroadcastsPaired true (outputs ++ [.tcpConnected]) := by
  rw [BroadcastsPaired, List.filter_append]
  exact h.opened ()

theorem BroadcastsPaired.disconnect (h : BroadcastsPaired true outputs) :
    BroadcastsPaired false (outputs ++ [.tcpDisconnected]) := by
  rw [BroadcastsPaired, List.filter_append]
  exact Bracketed.closed h

theorem BroadcastsPaired.socket {connected : Bool} (h : BroadcastsPaired connected outputs)
    {o : TcpOutput} (ho : o.isSocket = true) : BroadcastsPaired connected (outputs ++ [o]) := by
  rw [BroadcastsPaired] at h ⊢
  simpa [ho] using h

end Outputs

/-- What holds between two steps. -/
structure ClientRun.Held (s : ClientRun) : Prop where
  unopened : s.sys.client.state.unopened = true → s.sys.client.tcpFd < 0
  slot_fd : 0 ≤ s.sys.client.tcpFd ∨ 0 ≤ s.slot.fd → s.slot.fd = s.sys.client.tcpFd
  pending : s.slot.connectPending = true → s.sys.client.state.mayConnect = true
  pending_fd : s.slot.connectPending = true → 0 ≤ s.slot.fd
  batch : 0 < s.sys.client.tcpSendQueueBatchCount →
    s.sys.client.state.holdsBatch = true ∧ s.lastSend = some .sendingData
  acked : s.sys.client.state = .ackReceived → s.sys.checkAckReceived = true
  connected : s.sys.client.state.loggingIn = true → s.sys.client.lastConnectedState = true
  session : s.sys.client.sessionUp = true → s.sys.client.lastConnectedState = true
  sockets : SocketsPaired s.sys.client.openFd s.sys.outputs
  broadcasts : BroadcastsPaired s.sys.client.lastConnectedState s.sys.outputs

/-- A state timeout closes; only a delay ends in another way. -/
theorem tcpCheckStateTimeout_cases (env : TcpEnv) (sys : TcpSystem) :
    tcpCheckStateTimeout env sys = sys ∨
      ∃ state, (state = .closed ∨ (sys.client.state = .reconnectDelay ∧ state = .init)) ∧
        ∃ ticks, tcpCheckStateTimeout env sys =
          { sys.resetSendTracking.setState state with
            client := { (sys.resetSendTracking.setState state).client with
              stateEntryTick := ticks } } := by
  unfold tcpCheckStateTimeout
  dsimp only
  by_cases hclosed : sys.client.state = .closed
  · left
    rw [if_pos]
    left
    rw [hclosed]
    rfl
  · split_ifs with hquiet hstate
    · exact Or.inl rfl
    · have hdelay : sys.client.state = .reconnectDelay := hstate.resolve_left hclosed
      exact Or.inr ⟨.init, Or.inr ⟨hdelay, rfl⟩, env.ticks, rfl⟩
    · exact Or.inr ⟨.closed, Or.inl rfl, env.ticks, rfl⟩

namespace ClientRun

variable {s : ClientRun}

theorem held_start (config : Option WewareTcpConfig) (sendQueue : Device ModuleMessage)
    (ticks : UInt32) : (start config sendQueue ticks).Held where
  unopened _ := Int.negSucc_lt_zero 0
  slot_fd _ := rfl
  pending h := by contradiction
  pending_fd h := by contradiction
  batch h := by contradiction
  acked h := by contradiction
  connected h := by contradiction
  session h := by contradiction
  sockets := .nil
  broadcasts := .nil

/-- The send tracking is reset on the way to a state that needs none. -/
theorem Held.reset (h : s.Held) {state : TcpState}
    (hopen : state.unopened = true → s.sys.client.tcpFd < 0)
    (hpending : s.slot.connectPending = false ∨ state.mayConnect = true)
    (hacked : state ≠ .ackReceived)
    (hconnected : state.loggingIn = true → s.sys.client.lastConnectedState = true) :
    ({ s with sys := s.sys.resetSendTracking.setState state } : ClientRun).Held := by
  exact { h with
    unopened := hopen
    pending := fun hp => hpending.resolve_left (by simpa using hp)
    batch := fun hb => by contradiction
    acked := fun ha => absurd ha hacked
    connected := hconnected }

theorem Held.resetClosed (h : s.Held) :
    ({ s with sys := s.sys.resetSendTracking.setState .closed } : ClientRun).Held :=
  h.reset (fun hu => by contradiction) (Or.inr rfl) (by simp) (fun hc => by contradiction)

theorem Held.connectPending_eq_false (h : s.Held)
    (hstate : s.sys.client.state.mayConnect = false) : s.slot.connectPending = false := by
  by_contra hne
  have hmay := h.pending (by simpa using hne)
  rw [hstate] at hmay
  contradiction

/-- The connection is given up with what is in flight. -/
theorem Held.close (h : s.Held) :
    ({ s with sys := s.sys.setState .closed } : ClientRun).Held := by
  exact { h with
    unopened := fun hu => by contradiction
    pending := fun _ => rfl
    batch := fun hb => ⟨rfl, (h.batch hb).2⟩
    acked := fun ha => by contradiction
    connected := fun hc => by contradiction }

/-! ## Timeouts and the prelude of a cycle -/

theorem Held.stateTimeout (h : s.Held) (env : TcpEnv) :
    ({ s with sys := tcpCheckStateTimeout env s.sys } : ClientRun).Held := by
  rcases tcpCheckStateTimeout_cases env s.sys with heq | ⟨state, hstate, ticks, heq⟩
  · rw [heq]
    exact h
  · rw [heq]
    rcases hstate with rfl | ⟨hdelay, rfl⟩
    · exact { h.resetClosed with }
    · have hquiet := h.connectPending_eq_false (by rw [hdelay]; rfl)
      have hinit : ({ s with sys := s.sys.resetSendTracking.setState .init } : ClientRun).Held :=
        h.reset (fun _ => h.unopened (by rw [hdelay]; rfl)) (Or.inl hquiet) (by simp)
          (fun hc => by contradiction)
      exact { hinit with }

theorem Held.overallTimeout (h : s.Held) (env : TcpEnv) :
    ({ s with sys := tcpCheckOverallTimeout env s.sys } : ClientRun).Held := by
  unfold tcpCheckOverallTimeout
  dsimp only
  split_ifs
  · exact { h with }
  · exact h
  · exact { h.resetClosed with }

theorem Held.prelude (h : s.Held) (env : TcpEnv) :
    ({ s with sys := tcpCyclePrelude env s.sys } : ClientRun).Held := by
  unfold tcpCyclePrelude
  generalize hentry : (if s.sys.lastState ≠ s.sys.client.state then _ else s.sys : TcpSystem) =
    entry
  have hheld : ({ s with sys := entry } : ClientRun).Held := by
    rw [← hentry]
    split
    · exact { h with }
    · exact h
  have hchecked := (hheld.stateTimeout env).overallTimeout env
  dsimp only at hchecked ⊢
  split
  · exact { hchecked with }
  · exact hchecked

/-! ## Events -/

/-- From a state that waits for the acknowledgement of a send, to the next. -/
theorem Held.acknowledged (h : s.Held)
    (hstate : s.sys.client.state = .waitAckLogin ∨ s.sys.client.state = .waitAckData)
    (hacked : s.sys.checkAckReceived = true) :
    ({ s with sys := s.sys.setState .ackReceived } : ClientRun).Held := by
  have hquiet : s.sys.client.state.mayConnect = false ∧ s.sys.client.state.loggingIn = true := by
    rcases hstate with hs | hs <;> rw [hs] <;> exact ⟨rfl, rfl⟩
  exact { h with
    unopened := fun hu => by contradiction
    pending := fun hp => by
      have := h.pending hp
      rw [hquiet.1] at this
      contradiction
    batch := fun hb => ⟨rfl, (h.batch hb).2⟩
    acked := fun _ => hacked
    connected := fun _ => h.connected hquiet.2 }

/-- More bytes are acknowledged. -/
theorem Held.addAcked (h : s.Held) (len : Nat) :
    ({ s with sys := { s.sys with client := { s.sys.client with
      tcpBytesAcked := s.sys.client.tcpBytesAcked + len } } } : ClientRun).Held := by
  refine { h with acked := fun ha => ?_ }
  have hacked := h.acked ha
  simp only [TcpSystem.checkAckReceived, decide_eq_true_eq] at hacked ⊢
  omega

/-- Any event but `CONNECTED`. -/
theorem Held.callback (h : s.Held) (fd : Int) {evt : NetconnEvent} (hevt : evt ≠ .connected)
    (len : Nat) : ({ s with sys := tcpSocketEventCallback fd evt len s.sys } : ClientRun).Held := by
  unfold tcpSocketEventCallback
  split
  · exact h
  · split
    · exact h
    · cases evt <;> dsimp only
      case connected => contradiction
      case rcvplus => exact { h with }
      case sendacked =>
        split
        · rename_i hsent
          split
          · rename_i hfull
            refine (h.addAcked len).acknowledged hfull.2 ?_
            exact decide_eq_true ⟨hsent, hfull.1⟩
          · exact h.addAcked len
        · exact h
      case rcvminus | sendplus | sendminus | acceptplus => exact h
      all_goals
        split
        · exact h.resetClosed
        · exact h.close

/-- `CONNECTED`, when the slot no longer waits for it. -/
theorem Held.connectedCallback (h : s.Held) (hstate : s.sys.client.state.mayConnect = true)
    (hpending : s.slot.connectPending = false) (len : Nat) :
    ({ s with sys := tcpSocketEventCallback s.slot.fd .connected len s.sys } : ClientRun).Held := by
  unfold tcpSocketEventCallback
  split
  · exact h
  · split
    · exact h
    · rename_i hopen hclosed
      dsimp only
      have hbatch : ¬ 0 < s.sys.client.tcpSendQueueBatchCount := by
        intro hb
        have hholds := (h.batch hb).1
        revert hstate hholds hclosed
        cases s.sys.client.state <;> simp [TcpState.mayConnect, TcpState.holdsBatch]
      exact { h with
        unopened := fun hu => by contradiction
        pending := fun hp => by
          rw [hpending] at hp
          contradiction
        batch := fun hb => absurd hb hbatch
        acked := fun ha => by contradiction
        connected := fun hc => by contradiction }

/-- The slot keeps its socket and starts no connect. -/
theorem Held.kept (h : s.Held) {slot : SocketPollSlot} (hkept : s.slot.Kept slot) :
    ({ s with slot := slot } : ClientRun).Held := by
  have hpending : slot.connectPending = true → s.slot.connectPending = true := by
    intro hp
    by_contra hnot
    rw [hkept.settled (by simpa using hnot)] at hp
    contradiction
  refine { h with
    slot_fd := fun hfd => ?_
    pending := fun hp => h.pending (hpending hp)
    pending_fd := fun hp => ?_ }
  · dsimp only at hfd ⊢
    rw [hkept.fd] at hfd ⊢
    exact h.slot_fd hfd
  · dsimp only at hp ⊢
    rw [hkept.fd]
    exact h.pending_fd (hpending hp)

end ClientRun

/-- `CONNECTED` is not among the events. -/
def NoneConnected (events : List (NetconnEvent × Nat)) : Prop := ∀ e ∈ events, e.1 ≠ .connected

@[simp] theorem noneConnected_nil : NoneConnected [] := by
  intro e he
  contradiction

theorem noneConnected_singleton {e : NetconnEvent} (h : e ≠ .connected) (n : Nat) :
    NoneConnected [(e, n)] := by
  intro x hx
  rw [List.mem_singleton.mp hx]
  exact h

/-- A section emits `CONNECTED` for a connect in flight only, and waits no longer. -/
theorem pollSection_cases (env : PollEnv) (slot : SocketPollSlot) (part : PollSection) :
    (NoneConnected (pollSection env slot part).1 ∧ slot.Kept (pollSection env slot part).2) ∨
      ((pollSection env slot part).1 = [(.connected, 0)] ∧ slot.connectPending = true ∧
        (pollSection env slot part).2 =
          { slot with connectPending := false, lastWritable := env.writable }) := by
  cases part with
  | deliverSynth =>
    left
    simp only [pollSection, socketPollDeliverSynth]
    split
    · exact ⟨noneConnected_singleton (by simp) _, ⟨rfl, rfl, rfl, id⟩⟩
    · exact ⟨noneConnected_nil, .refl slot⟩
  | excepted =>
    left
    refine ⟨?_, (SocketPollSlot.socketPollServiceSlot_acks _ slot).1⟩
    simp only [pollSection, socketPollServiceSlot, if_true]
    split
    · exact noneConnected_nil
    · split
      · exact noneConnected_nil
      · split
        · exact noneConnected_singleton (errnoToErrorEvent_ne_connected _) _
        · exact noneConnected_nil
  | connect =>
    simp only [pollSection]
    split
    · rename_i hpending
      unfold SocketPollSlot.serviceConnect
      split
      · exact Or.inl ⟨noneConnected_nil, ⟨rfl, rfl, rfl, id⟩⟩
      · split
        · exact Or.inl ⟨noneConnected_singleton (errnoToErrorEvent_ne_connected _) _,
            ⟨rfl, rfl, rfl, fun _ => rfl⟩⟩
        · split
          · exact Or.inl ⟨noneConnected_nil, ⟨rfl, rfl, rfl, id⟩⟩
          · exact Or.inr ⟨rfl, hpending.2, rfl⟩
    · exact Or.inl ⟨noneConnected_nil, .refl slot⟩
  | readable =>
    left
    simp only [pollSection]
    split
    · unfold SocketPollSlot.serviceReadable
      split
      · exact ⟨noneConnected_nil, .refl slot⟩
      · split
        · exact ⟨noneConnected_singleton (by simp) _, .refl slot⟩
        · exact ⟨noneConnected_nil, ⟨rfl, rfl, rfl, id⟩⟩
    · exact ⟨noneConnected_nil, .refl slot⟩
  | acked =>
    left
    simp only [pollSection]
    split
    · refine ⟨?_, (slot.serviceAcked_acks env).1⟩
      unfold SocketPollSlot.serviceAcked
      split
      · exact noneConnected_nil
      · dsimp only
        split
        · exact noneConnected_singleton (by simp) _
        · split
          · exact noneConnected_singleton (by simp) _
          · exact noneConnected_nil
    · exact ⟨noneConnected_nil, .refl slot⟩
  | writable =>
    left
    simp only [pollSection]
    split
    · unfold SocketPollSlot.serviceWritable
      split
      · exact ⟨noneConnected_nil, .refl slot⟩
      · refine ⟨noneConnected_singleton ?_ _, ⟨rfl, rfl, rfl, id⟩⟩
        split <;> simp
    · exact ⟨noneConnected_nil, .refl slot⟩

namespace ClientRun

variable {s : ClientRun}

/-- Events without `CONNECTED`, one after the other. -/
theorem Held.deliver (h : s.Held) (fd : Int) {events : List (NetconnEvent × Nat)}
    (hnone : NoneConnected events) :
    ({ s with sys := WalnutGateway.deliver fd events s.sys } : ClientRun).Held := by
  induction events generalizing s with
  | nil => exact h
  | cons e events ih =>
    have hfirst := h.callback fd (hnone e (by simp)) e.2
    have hrest : NoneConnected events := fun x hx => hnone x (by simp [hx])
    exact ih hfirst hrest

theorem Held.event (h : s.Held) (env : PollEnv) (part : PollSection) :
    (clientMachine.step s (.event env part)).2.Held := by
  simp only [clientMachine]
  rcases pollSection_cases env s.slot part with ⟨hnone, hkept⟩ | ⟨hevents, hpending, hslot⟩
  · exact (h.kept hkept).deliver s.slot.fd hnone
  · rw [hevents, hslot]
    have hstate := h.pending hpending
    have hkept : s.slot.Kept
        { s.slot with connectPending := false, lastWritable := env.writable } :=
      ⟨rfl, rfl, rfl, fun _ => rfl⟩
    exact (h.kept hkept).connectedCallback hstate rfl 0

/-! ## The handlers -/

/-- No rows are in flight outside the states that hold them. -/
theorem Held.batch_eq_zero (h : s.Held) (hstate : s.sys.client.state.holdsBatch = false) :
    s.sys.client.tcpSendQueueBatchCount = 0 := by
  by_contra hne
  have hholds := (h.batch (Nat.pos_of_ne_zero hne)).1
  rw [hstate] at hholds
  contradiction

/-- A move that touches nothing but the state, from a state in which nothing is in flight. -/
theorem Held.move (h : s.Held) {state : TcpState}
    (hopen : state.unopened = true → s.sys.client.tcpFd < 0)
    (hpending : s.slot.connectPending = false ∨ state.mayConnect = true)
    (hzero : s.sys.client.tcpSendQueueBatchCount = 0) (hacked : state ≠ .ackReceived)
    (hconnected : state.loggingIn = true → s.sys.client.lastConnectedState = true) :
    ({ s with sys := s.sys.setState state } : ClientRun).Held := by
  exact { h with
    unopened := hopen
    pending := fun hp => hpending.resolve_left (by simpa using hp)
    batch := fun hb => by
      change 0 < s.sys.client.tcpSendQueueBatchCount at hb
      omega
    acked := fun ha => absurd ha hacked
    connected := hconnected }

/-- A busy handler leaves the client where it is. -/
theorem Held.stay (h : s.Held) {state : TcpState} (hs : s.sys.client.state = state) :
    ({ s with sys := s.sys.setState state } : ClientRun).Held := by
  subst hs
  exact h

/-- A cycle that neither sends nor touches the slot. -/
theorem dispatch_eq (env : TcpEnv) (poll : PollEnv) {sys : TcpSystem}
    (hslot : slotAfterHandler env poll s.sys s.slot = s.slot) (hsends : ¬ Sends env s.sys)
    (hsys : tcpDispatch env s.sys = sys) : s.dispatch env poll = { s with sys := sys } := by
  rw [dispatch, hslot, if_neg hsends, hsys]

section Handlers

variable (env : TcpEnv) (poll : PollEnv)

theorem Held.dispatch_init (h : s.Held) (hs : s.sys.client.state = .init) :
    (s.dispatch env poll).Held := by
  have hzero := h.batch_eq_zero (by rw [hs]; rfl)
  have hquiet := h.connectPending_eq_false (by rw [hs]; rfl)
  rw [dispatch_eq env poll (by simp only [slotAfterHandler, hs]) (by simp [Sends, hs]) rfl]
  simp only [tcpDispatch, hs]
  exact h.move (fun _ => h.unopened (by rw [hs]; rfl)) (Or.inl hquiet) hzero
    (by simp) (fun hc => by contradiction)

theorem Held.dispatch_waitNetwork (h : s.Held) (hs : s.sys.client.state = .waitNetwork) :
    (s.dispatch env poll).Held := by
  have hzero := h.batch_eq_zero (by rw [hs]; rfl)
  have hquiet := h.connectPending_eq_false (by rw [hs]; rfl)
  rw [dispatch_eq env poll (by simp only [slotAfterHandler, hs]) (by simp [Sends, hs]) rfl]
  simp only [tcpDispatch, hs, handleState, tcpStateHandleWaitNetwork]
  cases env.networkConnected with
  | true =>
    exact h.move (fun _ => h.unopened (by rw [hs]; rfl)) (Or.inl hquiet) hzero (by simp)
      (fun hc => by contradiction)
  | false => exact h.stay hs

theorem Held.dispatch_socketCreating (h : s.Held) (hs : s.sys.client.state = .socketCreating) :
    (s.dispatch env poll).Held := by
  have hclosed : s.sys.client.tcpFd < 0 := h.unopened (by rw [hs]; rfl)
  have hquiet := h.connectPending_eq_false (by rw [hs]; rfl)
  have hfree : s.slot.fd < 0 := by
    by_contra hnot
    have := h.slot_fd (Or.inr (by omega))
    omega
  have hsends : ¬ Sends env s.sys := by simp [Sends, hs]
  have hsockets := h.sockets
  have hnone : s.sys.client.openFd = none := if_neg (by omega)
  rw [hnone] at hsockets
  have hzero := h.batch_eq_zero (by rw [hs]; rfl)
  have hidle : ¬ 0 < s.sys.client.tcpSendQueueBatchCount := by omega
  simp only [dispatch, tcpDispatch, hs, slotAfterHandler, if_neg hsends, handleState,
    tcpStateHandleSocketCreating]
  by_cases hcreate : env.socketCreate < 0
  · simp only [if_pos hcreate]
    exact { h with
      unopened := fun hu => by contradiction
      slot_fd := fun hfd => by
        change 0 ≤ env.socketCreate ∨ 0 ≤ s.slot.fd at hfd
        omega
      pending := fun _ => rfl
      batch := fun hb => absurd hb hidle
      acked := fun ha => by contradiction
      connected := fun hc => by contradiction
      sockets := by
        have hstill : (if 0 ≤ env.socketCreate then some env.socketCreate else none) = none :=
          if_neg (by omega)
        change SocketsPaired (if 0 ≤ env.socketCreate then some env.socketCreate else none) _
        rw [hstill]
        exact hsockets }
  · simp only [if_neg hcreate]
    exact { h with
      unopened := fun hu => by contradiction
      slot_fd := fun _ => rfl
      pending := fun hp => by contradiction
      pending_fd := fun hp => by contradiction
      batch := fun hb => absurd hb hidle
      acked := fun ha => by contradiction
      connected := fun hc => by contradiction
      sockets := by
        have hnow : (if 0 ≤ env.socketCreate then some env.socketCreate else none) =
            some env.socketCreate := if_pos (by omega)
        change SocketsPaired (if 0 ≤ env.socketCreate then some env.socketCreate else none) _
        rw [hnow]
        exact hsockets.create env.socketCreate
      broadcasts := h.broadcasts.socket rfl }

/-- A connect is started on the socket of the slot. -/
theorem Held.mark (h : s.Held) (hstate : s.sys.client.state.mayConnect = true) (fd : Int) :
    ({ s with slot := sdkWalnutSocketPollMarkConnecting fd s.slot } : ClientRun).Held := by
  unfold sdkWalnutSocketPollMarkConnecting
  split
  · exact h
  · rename_i hfd
    exact { h with
      pending := fun _ => hstate
      pending_fd := fun _ => by
        change 0 ≤ s.slot.fd
        omega }

theorem Held.dispatch_socketCreated (h : s.Held) (hs : s.sys.client.state = .socketCreated) :
    (s.dispatch env poll).Held := by
  have hzero := h.batch_eq_zero (by rw [hs]; rfl)
  have hsends : ¬ Sends env s.sys := by simp [Sends, hs]
  have hstate : ∃ state, state.mayConnect = true ∧ state.unopened = false ∧
      state.loggingIn = false ∧ tcpDispatch env s.sys = s.sys.setState state := by
    simp only [tcpDispatch, hs, tcpStateHandleSocketCreated]
    split_ifs
    · exact ⟨.error, rfl, rfl, rfl, rfl⟩
    · exact ⟨.connecting, rfl, rfl, rfl, rfl⟩
    · exact ⟨.error, rfl, rfl, rfl, rfl⟩
    · exact ⟨.connecting, rfl, rfl, rfl, rfl⟩
    · exact ⟨.error, rfl, rfl, rfl, rfl⟩
  obtain ⟨state, hmay, hopen, hlogin, hsys⟩ := hstate
  have hmoved : ({ s with sys := s.sys.setState state } : ClientRun).Held :=
    h.move (by simp [hopen]) (Or.inr hmay) hzero (by rintro rfl; contradiction)
      (by simp [hlogin])
  simp only [dispatch, hsys, slotAfterHandler, hs, if_neg hsends]
  split
  · exact hmoved
  · exact hmoved.mark hmay s.sys.client.tcpFd

theorem Held.dispatch_connecting (h : s.Held) (hs : s.sys.client.state = .connecting) :
    (s.dispatch env poll).Held := by
  have hzero := h.batch_eq_zero (by rw [hs]; rfl)
  rw [dispatch_eq env poll (by simp only [slotAfterHandler, hs]) (by simp [Sends, hs]) rfl]
  simp only [tcpDispatch, hs, handleState, tcpStateHandleConnecting]
  cases s.sys.validateSocketForSend env with
  | true => exact h.stay hs
  | false =>
    exact h.move (fun hu => by contradiction) (Or.inr rfl) hzero (by simp)
      (fun hc => by contradiction)

theorem Held.dispatch_connected (h : s.Held) (hs : s.sys.client.state = .connected) :
    (s.dispatch env poll).Held := by
  have hzero := h.batch_eq_zero (by rw [hs]; rfl)
  have hquiet := h.connectPending_eq_false (by rw [hs]; rfl)
  rw [dispatch_eq env poll (by simp only [slotAfterHandler, hs]) (by simp [Sends, hs]) rfl]
  simp only [tcpDispatch, hs, handleState, tcpStateHandleConnected]
  cases hlast : s.sys.client.lastConnectedState with
  | true =>
    exact h.move (fun hu => by contradiction) (Or.inl hquiet) hzero (by simp)
      (fun _ => hlast)
  | false =>
    have hmoved : ({ s with sys := s.sys.setState .connected } : ClientRun).Held := h.stay hs
    have hbroadcasts := h.broadcasts
    rw [hlast] at hbroadcasts
    exact { h with
      unopened := fun hu => by contradiction
      pending := fun hp => by
        change s.slot.connectPending = true at hp
        rw [hquiet] at hp
        contradiction
      batch := fun hb => by
        change 0 < s.sys.client.tcpSendQueueBatchCount at hb
        omega
      acked := fun ha => by contradiction
      connected := fun _ => rfl
      session := fun _ => rfl
      sockets := h.sockets.broadcast rfl
      broadcasts := hbroadcasts.connect }

/-- The handlers that wait for an acknowledgement, when it is not there. -/
theorem Held.waitAck (h : s.Held) {state : TcpState} (hs : s.sys.client.state = state)
    (hmay : state.mayConnect = false) (hlogin : state = .waitAckLogin ∨ state = .waitAckData) :
    ({ s with sys := handleState (tcpStateHandleWaitAck env s.sys) .ackReceived .error state } :
      ClientRun).Held := by
  subst hs
  have hquiet := h.connectPending_eq_false hmay
  have hfailed : ({ s with sys := s.sys.resetSendTracking.setState .error } : ClientRun).Held :=
    h.reset (fun hu => by contradiction) (Or.inr rfl) (by simp) (fun hc => by contradiction)
  unfold tcpStateHandleWaitAck
  split_ifs with hacked
  · exact h.acknowledged hlogin hacked
  · exact hfailed
  · exact hfailed
  · exact hfailed
  · exact h
  · exact hfailed

theorem Held.dispatch_waitAckLogin (h : s.Held) (hs : s.sys.client.state = .waitAckLogin) :
    (s.dispatch env poll).Held := by
  rw [dispatch_eq env poll (by simp only [slotAfterHandler, hs]) (by simp [Sends, hs]) rfl]
  simp only [tcpDispatch, hs]
  exact h.waitAck env hs rfl (Or.inl rfl)

theorem Held.dispatch_waitAckData (h : s.Held) (hs : s.sys.client.state = .waitAckData) :
    (s.dispatch env poll).Held := by
  rw [dispatch_eq env poll (by simp only [slotAfterHandler, hs]) (by simp [Sends, hs]) rfl]
  simp only [tcpDispatch, hs]
  exact h.waitAck env hs rfl (Or.inr rfl)

theorem Held.dispatch_ackReceived (h : s.Held) (hs : s.sys.client.state = .ackReceived) :
    (s.dispatch env poll).Held := by
  have hquiet := h.connectPending_eq_false (by rw [hs]; rfl)
  have hlast := h.connected (by rw [hs]; rfl)
  rw [dispatch_eq env poll (by simp only [slotAfterHandler, hs]) (by simp [Sends, hs]) rfl]
  simp only [tcpDispatch, hs, handleState, tcpStateHandleAckReceived]
  have hmoved : ({ s with sys := s.sys.resetSendTracking.setState .sendingData } :
      ClientRun).Held :=
    h.reset (fun hu => by contradiction) (Or.inl hquiet) (by simp) (fun _ => hlast)
  exact { hmoved with session := fun _ => hlast }

theorem Held.dispatch_receiving (h : s.Held) (hs : s.sys.client.state = .receiving) :
    (s.dispatch env poll).Held := by
  rw [dispatch_eq env poll (by simp only [slotAfterHandler, hs]) (by simp [Sends, hs]) rfl]
  simp only [tcpDispatch, hs, handleState, tcpStateHandleReceiving]
  exact h.stay hs

theorem Held.dispatch_reconnectDelay (h : s.Held) (hs : s.sys.client.state = .reconnectDelay) :
    (s.dispatch env poll).Held := by
  have hzero := h.batch_eq_zero (by rw [hs]; rfl)
  have hquiet := h.connectPending_eq_false (by rw [hs]; rfl)
  rw [dispatch_eq env poll (by simp only [slotAfterHandler, hs]) (by simp [Sends, hs]) rfl]
  simp only [tcpDispatch, hs, tcpStateHandleReconnectDelay]
  split
  · have hmoved : ({ s with sys := s.sys.setState .init } : ClientRun).Held :=
      h.move (fun _ => h.unopened (by rw [hs]; rfl)) (Or.inl hquiet) hzero (by simp)
        (fun hc => by contradiction)
    exact { hmoved with }
  · have hstays : ({ s with sys := s.sys.setState .reconnectDelay } : ClientRun).Held := h.stay hs
    exact { hstays with }

/-- Closing the socket gives its slot back. -/
theorem Held.release (h : s.Held) :
    ({ s with
      sys := s.sys.closeSocket
      slot := if s.sys.client.tcpFd ≥ 0 ∧ s.slot.fd = s.sys.client.tcpFd then
        sdkWalnutSocketPollRelease else s.slot } : ClientRun).Held ∧
      s.sys.closeSocket.client.tcpFd < 0 ∧
      (if s.sys.client.tcpFd ≥ 0 ∧ s.slot.fd = s.sys.client.tcpFd then
        sdkWalnutSocketPollRelease else s.slot).connectPending = false := by
  unfold TcpSystem.closeSocket
  by_cases hopen : s.sys.client.tcpFd ≥ 0
  · have hslot := h.slot_fd (Or.inl hopen)
    have hcurrent : s.sys.client.openFd = some s.sys.client.tcpFd := if_pos hopen
    have hsockets := h.sockets
    rw [hcurrent] at hsockets
    rw [if_pos hopen, if_pos ⟨hopen, hslot⟩]
    refine ⟨?_, Int.negSucc_lt_zero 0, rfl⟩
    exact { h with
      unopened := fun _ => Int.negSucc_lt_zero 0
      slot_fd := fun _ => rfl
      pending := fun hp => by contradiction
      pending_fd := fun hp => by contradiction
      sockets := hsockets.close
      broadcasts := h.broadcasts.socket rfl }
  · rw [if_neg hopen, if_neg (fun hboth => hopen hboth.1)]
    refine ⟨h, by omega, ?_⟩
    by_contra hne
    have hfd := h.pending_fd (by simpa using hne)
    have := h.slot_fd (Or.inr hfd)
    omega

/-- The end of a connection is announced if its start was. -/
theorem Held.hangUp (h : s.Held) (hs : s.sys.client.state = .closed) :
    ({ s with sys := s.sys.hangUp } : ClientRun).Held := by
  have hbroadcasts := h.broadcasts
  exact { h with
    batch := fun hb => by contradiction
    acked := fun ha => by
      change s.sys.client.state = .ackReceived at ha
      rw [hs] at ha
      contradiction
    connected := fun hc => by
      change s.sys.client.state.loggingIn = true at hc
      rw [hs] at hc
      contradiction
    session := fun hu => by contradiction
    sockets := by
      change SocketsPaired s.sys.client.openFd _
      unfold TcpSystem.hangUp
      dsimp only
      split
      · exact h.sockets.broadcast rfl
      · exact h.sockets
    broadcasts := by
      unfold TcpSystem.hangUp
      dsimp only
      cases hlast : s.sys.client.lastConnectedState with
      | true =>
        rw [hlast] at hbroadcasts
        exact hbroadcasts.disconnect
      | false =>
        rw [hlast] at hbroadcasts
        exact hbroadcasts }

theorem Held.dispatch_closed (h : s.Held) (hs : s.sys.client.state = .closed) :
    (s.dispatch env poll).Held := by
  have hsends : ¬ Sends env s.sys := by simp [Sends, hs]
  obtain ⟨hreleased, hclosed, hquiet⟩ := (h.hangUp hs).release
  have hzero : s.sys.hangUp.closeSocket.client.tcpSendQueueBatchCount = 0 := by
    unfold TcpSystem.closeSocket
    split <;> rfl
  have hmoved (slot : SocketPollSlot) (hheld : ({ s with
      sys := s.sys.hangUp.closeSocket, slot := slot } : ClientRun).Held)
      (hquiet : slot.connectPending = false) : ({ s with
        sys := s.sys.hangUp.closeSocket.setState .reconnectDelay, slot := slot } :
          ClientRun).Held :=
    hheld.move (fun _ => hclosed) (Or.inl hquiet) hzero (by simp) (fun hc => by contradiction)
  simp only [dispatch, tcpDispatch, hs, slotAfterHandler, if_neg hsends, handleState,
    tcpStateHandleClosed_eq]
  exact { hmoved _ hreleased hquiet with }

theorem Held.dispatch_error (h : s.Held) (hs : s.sys.client.state = .error) :
    (s.dispatch env poll).Held := by
  have hsends : ¬ Sends env s.sys := by simp [Sends, hs]
  obtain ⟨hreleased, -, -⟩ := h.release
  have hmoved := hreleased.resetClosed
  simp only [dispatch, tcpDispatch, hs, slotAfterHandler, if_neg hsends, handleState,
    tcpStateHandleError]
  exact { hmoved with }

/-- After a handler that sends: the send is waited for, or tried again, or given up. -/
theorem Held.afterSend (h : s.Held) {r : Result × TcpSystem} (hr : SendOutcome s.sys r)
    {state onSuccess : TcpState} (hs : s.sys.client.state = state)
    (hnext : (state = .sendingLogin ∧ onSuccess = .waitAckLogin) ∨
      (state = .sendingData ∧ onSuccess = .waitAckData))
    {slot : SocketPollSlot} (hslot : s.slot.Kept slot) :
    ({ sys := handleState r onSuccess .error state
       slot := slot
       lastSend := if r.1 = .success then some state else s.lastSend } : ClientRun).Held := by
  have hstate : state.mayConnect = false ∧ state.holdsBatch = false ∧ state.loggingIn = true := by
    rcases hnext with ⟨rfl, -⟩ | ⟨rfl, -⟩ <;> exact ⟨rfl, rfl, rfl⟩
  have hkept := h.kept hslot
  have hquiet := hkept.connectPending_eq_false (by rw [hs]; exact hstate.1)
  have hzero := h.batch_eq_zero (by rw [hs]; exact hstate.2.1)
  have hlast := h.connected (by rw [hs]; exact hstate.2.2)
  cases hr with
  | @sent n hn batch login data queue hbatch =>
    have hmoved : ({ s with sys := s.sys.setState onSuccess, slot := slot } : ClientRun).Held := by
      refine hkept.move ?_ (Or.inl hquiet) hzero ?_ (fun _ => hlast)
      · rcases hnext with ⟨-, rfl⟩ | ⟨-, rfl⟩ <;> exact fun hu => by contradiction
      · rcases hnext with ⟨-, rfl⟩ | ⟨-, rfl⟩ <;> simp
    exact { hmoved with
      batch := fun hb => by
        change 0 < batch at hb
        have hdata : s.sys.client.state = .sendingData := by
          rcases hbatch with rfl | hdata
          · omega
          · exact hdata
        rcases hnext with ⟨rfl, -⟩ | ⟨rfl, rfl⟩
        · rw [hs] at hdata
          contradiction
        · exact ⟨rfl, rfl⟩
      acked := fun ha => by
        rcases hnext with ⟨-, rfl⟩ | ⟨-, rfl⟩ <;> contradiction }
  | @unsent r hr login data queue =>
    rcases hr with rfl | rfl
    · have hstays := hkept.stay hs
      exact { hstays with }
    · have hmoved : ({ s with sys := s.sys.setState .error, slot := slot } : ClientRun).Held :=
        hkept.move (fun hu => by contradiction) (Or.inr rfl) hzero (by simp)
          (fun hc => by contradiction)
      exact { hmoved with }
  | failed login data queue =>
    have hmoved : ({ s with
        sys := s.sys.resetSendTracking.setState .error, slot := slot } : ClientRun).Held :=
      hkept.reset (fun hu => by contradiction) (Or.inr rfl) (by simp) (fun hc => by contradiction)
    exact { hmoved with }

/-- Noting a send keeps the slot and starts no connect. -/
theorem kept_noteSent (fd len : Int) (slot : SocketPollSlot) :
    slot.Kept (sdkWalnutSocketPollNoteSent poll fd len slot) := by
  unfold sdkWalnutSocketPollNoteSent
  split
  · exact .refl slot
  · split
    · exact ⟨rfl, rfl, rfl, fun _ => rfl⟩
    · exact ⟨rfl, rfl, rfl, fun _ => rfl⟩

theorem Held.dispatch_sendingLogin (h : s.Held) (hs : s.sys.client.state = .sendingLogin) :
    (s.dispatch env poll).Held := by
  have hr := tcpStateHandleSendingLogin_outcome env s.sys
  have hkept : s.slot.Kept (if (tcpStateHandleSendingLogin env s.sys).1 = .success then
      sdkWalnutSocketPollNoteSent poll s.sys.client.tcpFd env.lwipSend s.slot else s.slot) := by
    split
    · exact kept_noteSent poll s.sys.client.tcpFd env.lwipSend s.slot
    · exact .refl s.slot
  simp only [dispatch, tcpDispatch, hs, slotAfterHandler, Sends, tcpStateHandler, true_or, true_and]
  exact h.afterSend hr hs (Or.inl ⟨rfl, rfl⟩) hkept

theorem Held.dispatch_sendingData (h : s.Held) (hs : s.sys.client.state = .sendingData) :
    (s.dispatch env poll).Held := by
  have hr := tcpStateHandleSendingData_outcome env hs
  have hkept : s.slot.Kept (if (tcpStateHandleSendingData env s.sys).1 = .success then
      sdkWalnutSocketPollNoteSent poll s.sys.client.tcpFd env.lwipSend s.slot else s.slot) := by
    split
    · exact kept_noteSent poll s.sys.client.tcpFd env.lwipSend s.slot
    · exact .refl s.slot
  simp only [dispatch, tcpDispatch, hs, slotAfterHandler, Sends, tcpStateHandler, or_true, true_and]
  exact h.afterSend hr hs (Or.inr ⟨rfl, rfl⟩) hkept

/-- Every handler, and the state that is written after it. -/
theorem Held.dispatch (h : s.Held) : (s.dispatch env poll).Held := by
  cases hs : s.sys.client.state with
  | init => exact h.dispatch_init env poll hs
  | waitNetwork => exact h.dispatch_waitNetwork env poll hs
  | socketCreating => exact h.dispatch_socketCreating env poll hs
  | socketCreated => exact h.dispatch_socketCreated env poll hs
  | connecting => exact h.dispatch_connecting env poll hs
  | connected => exact h.dispatch_connected env poll hs
  | sendingLogin => exact h.dispatch_sendingLogin env poll hs
  | waitAckLogin => exact h.dispatch_waitAckLogin env poll hs
  | ackReceived => exact h.dispatch_ackReceived env poll hs
  | sendingData => exact h.dispatch_sendingData env poll hs
  | waitAckData => exact h.dispatch_waitAckData env poll hs
  | receiving => exact h.dispatch_receiving env poll hs
  | closed => exact h.dispatch_closed env poll hs
  | reconnectDelay => exact h.dispatch_reconnectDelay env poll hs
  | error => exact h.dispatch_error env poll hs

end Handlers

theorem Held.step (h : s.Held) (op : ClientOp) : (clientMachine.step s op).2.Held := by
  cases op with
  | cycle env poll => exact (h.prelude env).dispatch env poll
  | event env part => exact h.event env part
  | stateTimeout env => exact h.stateTimeout env
  | overallTimeout env => exact h.overallTimeout env
  | resetConnection => exact h.close

end ClientRun

/-- What the client promises of a state: no socket is open where the next is created and
each is closed once; rows are in flight only for a send of rows, and popped only when all
its bytes are acknowledged; the broadcasts alternate; a session is up only while
connected. -/
structure ClientRun.Sound (s : ClientRun) : Prop where
  closed : s.sys.client.state ∈ [.init, .waitNetwork, .reconnectDelay, .socketCreating] →
    s.sys.client.tcpFd < 0
  sockets : ∃ fds : List Int, s.sys.outputs.filter TcpOutput.isSocket =
    fds.flatMap (fun fd => [.socketCreated fd, .socketClosed fd]) ++
      if 0 ≤ s.sys.client.tcpFd then [.socketCreated s.sys.client.tcpFd] else []
  batch : 0 < s.sys.client.tcpSendQueueBatchCount →
    s.sys.client.state ∈ [.waitAckData, .ackReceived, .closed, .error]
  popped : s.sys.client.state = .ackReceived → 0 < s.sys.client.tcpSendQueueBatchCount →
    s.lastSend = some .sendingData ∧ 0 < s.sys.client.tcpBytesSent ∧
      s.sys.client.tcpBytesSent ≤ s.sys.client.tcpBytesAcked
  broadcasts : ∃ n : Nat, (s.sys.outputs.filter fun o => ! o.isSocket) =
    (List.replicate n [TcpOutput.tcpConnected, .tcpDisconnected]).flatten ++
      if s.sys.client.lastConnectedState then [.tcpConnected] else []
  session : s.sys.client.sessionUp = true → s.sys.client.lastConnectedState = true

theorem ClientRun.Held.sound {s : ClientRun} (h : s.Held) : s.Sound where
  closed hstate := by
    apply h.unopened
    simp only [List.mem_cons, List.not_mem_nil, or_false] at hstate
    rcases hstate with hs | hs | hs | hs <;> rw [hs] <;> rfl
  sockets := by
    obtain ⟨fds, heq⟩ := Bracketed.eq_flatMap h.sockets
    refine ⟨fds, heq.trans ?_⟩
    unfold TcpClient.openFd
    split <;> rfl
  batch hb := by
    have hholds := (h.batch hb).1
    revert hholds
    cases s.sys.client.state <;> simp [TcpState.holdsBatch]
  popped hs hb := by
    have hacked := h.acked hs
    rw [TcpSystem.checkAckReceived, decide_eq_true_eq] at hacked
    exact ⟨(h.batch hb).2, hacked.1, hacked.2⟩
  broadcasts := by
    obtain ⟨units, heq⟩ := Bracketed.eq_flatMap h.broadcasts
    refine ⟨units.length, heq.trans ?_⟩
    have hunits : units = List.replicate units.length () := List.eq_replicate_length.mpr (by simp)
    congr 1
    · conv_lhs => rw [hunits]
      rw [List.flatMap_replicate]
    · split <;> rfl
  session := h.session

/-- In every run of cycles, events, timeouts and requests to start over, each state is
sound, and so is the state that a cycle hands to its handler. -/
theorem client_sound (config : Option WewareTcpConfig) (sendQueue : Device ModuleMessage)
    (ticks : UInt32) (ops : List ClientOp) :
    let s := (clientMachine.run (.start config sendQueue ticks) ops).2
    s.Sound ∧ ∀ env, ({ s with sys := tcpCyclePrelude env s.sys } : ClientRun).Sound := by
  have hheld : (clientMachine.run (.start config sendQueue ticks) ops).2.Held :=
    clientMachine.invariant (fun _ op h _ => h.step op)
      (ClientRun.held_start config sendQueue ticks) (Machine.Along.trivial clientMachine _ ops)
  exact ⟨hheld.sound, fun env => (hheld.prelude env).sound⟩

end WalnutGateway
