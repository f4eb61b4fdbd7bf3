import WalnutGateway.Core.Machine
import WalnutGateway.Queue.Boot
import WalnutGateway.Queue.SendQueue

/-!
# The TCP client

`tcp.c` and `tcp_ops.c`: one task steps through the connection states, socket
events and timeouts move the state from outside. Rows of `TCP_SEND_Q` are peeked
at, combined into one frame, and popped when the frame is acknowledged. What the
network, the socket and other modules answer in one cycle is an input.
-/

namespace WalnutGateway

/-! ## State -/

/-- `TcpState`. -/
inductive TcpState
  | init
  | waitNetwork
  | socketCreating
  | socketCreated
  | connecting
  | connected
  | sendingLogin
  | waitAckLogin
  | ackReceived
  | sendingData
  | waitAckData
  | receiving
  | closed
  | reconnectDelay
  | error
  deriving DecidableEq, Repr

/-- The fields of `WewareTcpConfig` that the client reads. -/
structure WewareTcpConfig where
  serverIp : CArray 64
  serverPort : UInt16
  connectionTimeoutMs : UInt32
  retryIntervalMs : UInt32
  loginWithGps : Bool
  liveFirst : Bool

/-- `tcp_client_runtime_t`. -/
structure TcpClient where
  state : TcpState
  tcpFd : Int
  lastConnectedState : Bool
  sessionUp : Bool
  config : Option WewareTcpConfig
  /-- Bytes of the send in flight, -1 for none. -/
  tcpBytesSent : Int
  tcpBytesAcked : Int
  tcpSendQueueBatchCount : Nat
  recvPending : Bool
  stateEntryTick : UInt32
  sessionDownSince : UInt32
  reconnectDelayCycles : Nat

/-- What the client does to the world: sockets and broadcast events. -/
inductive TcpOutput
  | socketCreated (fd : Int)
  | socketClosed (fd : Int)
  | tcpConnected
  | tcpDisconnected
  deriving DecidableEq, Repr

/-- `g_tcp_client`, the local variable of its loop, the frames last built, the
send queue, and what was put out, oldest first. -/
structure TcpSystem where
  client : TcpClient
  lastState : TcpState
  loginPacketBuffer : List Byte
  dataPacketBuffer : List Byte
  sendQueue : Device ModuleMessage
  outputs : List TcpOutput

/-- The answers the client gets in one cycle. -/
structure TcpEnv where
  /-- `wm_sdk_get_ticks`. -/
  ticks : UInt32
  /-- `weware_network_is_connected`. -/
  networkConnected : Bool
  /-- `sdk_tcp_socket_create_with_callback`. -/
  socketCreate : Int
  /-- `lwip_getaddrinfo` gives an address. -/
  addressFound : Bool
  /-- `sdk_tcp_connect`. -/
  connect : Int
  /-- `sdk_tcp_get_sock_errno` when a socket is validated. -/
  sockErrno : Int
  /-- `sdk_tcp_get_sock_errno` at any other place. -/
  lastErrno : Int
  /-- `login_packet_create`; empty while the IMEI is not known. -/
  loginPacket : List Byte
  /-- `gps_ops_build_last_valid_position_for_tcp`. -/
  lastValidPosition : List Byte
  /-- `lwip_send`. -/
  lwipSend : Int
  /-- `sdk_tcp_recv`. -/
  recv : Int

/-- `MAX_COMBINED_SIZE`. -/
def maxCombinedSize : Nat := 512

/-- `MAX_MESSAGES`. -/
def maxMessages : Nat := 5

/-- `TCP_TASK_INTERVAL_MS`. -/
def tcpTaskIntervalMs : UInt32 := 200

/-- `RECONNECT_DELAY_CYCLES`. -/
def reconnectDelayCyclesDefault : UInt32 := 40

/-- `TCP_OVERALL_TIMEOUT_MS`. -/
def tcpOverallTimeoutMs : UInt32 := 300000

/-- `LOGIN_PACKET_TOTAL_SIZE`. -/
def loginPacketTotalSize : Nat := 24

/-- `GPS_PACKET_TOTAL_SIZE` of the appended position. -/
def loginPositionSize : Nat := 55

/-- `EPIPE`, `ECONNABORTED`, `ECONNRESET` and `ENOTCONN` of lwIP. -/
def socketDeadErrnos : List Int := [32, 103, 104, 107]

/-- `EAGAIN` of lwIP. -/
def eAgain : Int := 11

/-- `EINPROGRESS` of lwIP. -/
def eInProgress : Int := 115

namespace TcpSystem

/-- `SET_STATE` on `g_tcp_client.state`. -/
def setState (s : TcpSystem) (state : TcpState) : TcpSystem :=
  { s with client := { s.client with state := state } }

/-- `tcp_reset_send_tracking`. -/
def resetSendTracking (s : TcpSystem) : TcpSystem :=
  { s with client := { s.client with
      tcpBytesSent := -1, tcpBytesAcked := 0, tcpSendQueueBatchCount := 0 } }

/-- `tcp_check_ack_received`. -/
def checkAckReceived (s : TcpSystem) : Bool :=
  s.client.tcpBytesSent > 0 ∧ s.client.tcpBytesAcked ≥ s.client.tcpBytesSent

/-- `tcp_validate_socket_for_send`. -/
def validateSocketForSend (env : TcpEnv) (s : TcpSystem) : Bool :=
  ¬ (s.client.tcpFd < 0 ∨ env.sockErrno ∈ socketDeadErrnos)

/-- Shut the socket down and close it, if there is one. -/
def closeSocket (s : TcpSystem) : TcpSystem :=
  if s.client.tcpFd ≥ 0 then
    { s with
      client := { s.client with tcpFd := -1 }
      outputs := s.outputs ++ [.socketClosed s.client.tcpFd] }
  else s

end TcpSystem

/-- `send_impl` of the socket layer: 0 when the send buffer is full. -/
def sdkTcpSend (env : TcpEnv) : Int :=
  if env.lwipSend < 0 then (if env.lastErrno = eAgain then 0 else env.lwipSend) else env.lwipSend

/-- `tcp_send_data` on the socket of the client: the bytes accepted, 0 when the
buffer is full, -1 on an error. -/
def tcpSendData (env : TcpEnv) (s : TcpSystem) (buffer : List Byte) : Int × TcpSystem :=
  if s.client.tcpFd < 0 ∨ buffer.length = 0 then (-1, s) else
  let sendResult := sdkTcpSend env
  if sendResult < 0 then (-1, s.resetSendTracking) else
  if sendResult = 0 then (0, s) else
  (sendResult,
    { s with client := { s.client with tcpBytesSent := sendResult, tcpBytesAcked := 0 } })

/-! ## The send queue -/

/-- `tcp_free_module_msg_dynamic` on a copy of a row: a row left elsewhere with
the same pointer has a block from which nothing can be read. -/
def ModuleMessage.freed (m : ModuleMessage) : ModuleMessage :=
  if m.useDynamicBuffer then { m with dynamicBuffer := m.dynamicBuffer.map fun _ => [] } else m

/-- `tcp_pop_send_queue_batch_and_free`: the rows popped, and the queue. -/
def tcpPopSendQueueBatchAndFree (d : Device ModuleMessage) (n : Nat) :
    List ModuleMessage × Device ModuleMessage :=
  if n = 0 then ([], d) else
  let p := queuePop tcpSendQueueConfig d (if n > maxMessages then maxMessages else n)
  (p.1.2, p.2)

/-- The loop of `tcp_combine_messages`; `processed` rows are in `buffer` already. -/
def combineLoop (maxSize : Nat) : Nat → List ModuleMessage → List Byte → List Byte
  | _, [], buffer => buffer
  | processed, m :: msgs, buffer =>
    if processed ≥ maxMessages then buffer else
    match m.payloadPtr with
    | none => combineLoop maxSize processed msgs buffer
    | some payload =>
      if m.dataLen = 0 then combineLoop maxSize processed msgs buffer
      else if m.dataLen > maxSize then combineLoop maxSize processed msgs buffer
      else if buffer.length ≥ maxSize then buffer
      else
        let remainingSpace := maxSize - buffer.length
        let bytesToCopy := if m.dataLen < remainingSpace then m.dataLen else remainingSpace
        let buffer := buffer ++ memRead payload bytesToCopy
        if buffer.length ≥ maxSize then buffer
        else combineLoop maxSize (processed + 1) msgs buffer

/-- `tcp_combine_messages`: the bytes put into the buffer. -/
def tcpCombineMessages (msgs : List ModuleMessage) (maxSize : Nat) : List Byte :=
  combineLoop maxSize 0 msgs []

/-- `tcp_prepend_live_first_queue_tail`: the frame and the queue. -/
def tcpPrependLiveFirstQueueTail (config : Option WewareTcpConfig) (d : Device ModuleMessage)
    (buf : List Byte) (bufMax : Nat) : List Byte × Device ModuleMessage :=
  if buf.length = 0 ∨ bufMax = 0 then (buf, d) else
  if ¬ (config.any fun c => c.liveFirst) then (buf, d) else
  if ¬ queueIsFull tcpSendQueueConfig d then (buf, d) else
  match queuePopTail tcpSendQueueConfig d with
  | (.error _, d) => (buf, d)
  | (.ok tailMsg, d) =>
    match tailMsg.payloadPtr with
    | none => (buf, (queuePush tcpSendQueueConfig d tailMsg.freed).2)
    | some payload =>
      if tailMsg.dataLen = 0 ∨ tailMsg.dataLen > bufMax - buf.length then
        (buf, (queuePush tcpSendQueueConfig d tailMsg.freed).2)
      else (memRead payload tailMsg.dataLen ++ buf, d)

/-! ## State handlers -/

/-- `tcp_state_handle_wait_network`. -/
def tcpStateHandleWaitNetwork (env : TcpEnv) (s : TcpSystem) : Result × TcpSystem :=
  (if env.networkConnected then .success else .busy, s)

/-- `tcp_state_handle_socket_creating`. -/
def tcpStateHandleSocketCreating (env : TcpEnv) (s : TcpSystem) : Result × TcpSystem :=
  let s := { s with client := { s.client with tcpFd := env.socketCreate } }
  if env.socketCreate < 0 then (.error, s)
  else (.success, { s with outputs := s.outputs ++ [.socketCreated env.socketCreate] })

/-- `tcp_state_handle_socket_created`. -/
def tcpStateHandleSocketCreated (env : TcpEnv) (s : TcpSystem) : Result × TcpSystem :=
  if s.client.config.isNone then (.error, s) else
  if ¬ env.addressFound then (.error, s) else
  if env.connect < 0 then
    (if env.lastErrno = eInProgress ∨ env.lastErrno = eAgain then .success else .error, s)
  else (.success, s)

/-- `tcp_state_handle_connecting`. -/
def tcpStateHandleConnecting (env : TcpEnv) (s : TcpSystem) : Result × TcpSystem :=
  (if s.validateSocketForSend env then .busy else .error, s)

/-- `tcp_state_handle_connected`. -/
def tcpStateHandleConnected (s : TcpSystem) : Result × TcpSystem :=
  if s.client.lastConnectedState then (.success, s) else
  (.success, { s with
    client := { s.client with lastConnectedState := true }
    outputs := s.outputs ++ [.tcpConnected] })

/-- `tcp_state_handle_sending_login`. -/
def tcpStateHandleSendingLogin (env : TcpEnv) (s : TcpSystem) : Result × TcpSystem :=
  if ¬ s.validateSocketForSend env then (.error, s) else
  if env.loginPacket.length ≠ loginPacketTotalSize then (.busy, s) else
  let packet :=
    if (s.client.config.any fun c => c.loginWithGps) ∧
        env.lastValidPosition.length = loginPositionSize then
      env.loginPacket ++ env.lastValidPosition
    else env.loginPacket
  let r := tcpSendData env { s with loginPacketBuffer := packet } packet
  (if r.1 > 0 then .success else if r.1 = 0 then .busy else .error, r.2)

/-- The body of the two handlers that wait for an ACK. -/
def tcpStateHandleWaitAck (env : TcpEnv) (s : TcpSystem) : Result × TcpSystem :=
  if s.checkAckReceived then (.success, s) else
  if ¬ s.validateSocketForSend env then (.error, s.resetSendTracking) else
  if env.lastErrno ∈ socketDeadErrnos then (.error, s.resetSendTracking) else
  if env.lastErrno ≠ 0 ∧ env.lastErrno ≠ eAgain then (.error, s.resetSendTracking) else
  if s.client.tcpBytesSent ≤ 0 then (.error, s.resetSendTracking) else (.busy, s)

/-- `tcp_state_handle_wait_ack_login`. -/
def tcpStateHandleWaitAckLogin (env : TcpEnv) (s : TcpSystem) : Result × TcpSystem :=
  tcpStateHandleWaitAck env s

/-- `tcp_state_handle_wait_ack_data`. -/
def tcpStateHandleWaitAckData (env : TcpEnv) (s : TcpSystem) : Result × TcpSystem :=
  tcpStateHandleWaitAck env s

/-- `tcp_state_handle_ack_received`. -/
def tcpStateHandleAckReceived (s : TcpSystem) : Result × TcpSystem :=
  let d := (tcpPopSendQueueBatchAndFree s.sendQueue s.client.tcpSendQueueBatchCount).2
  let d := (queuePersistClearSnapshotAfterConsume tcpSendQueueConfig d).2
  let s := { s with sendQueue := d }.resetSendTracking
  (.success, { s with client := { s.client with sessionUp := true } })

/-- `tcp_state_handle_sending_data`. -/
def tcpStateHandleSendingData (env : TcpEnv) (s : TcpSystem) : Result × TcpSystem :=
  if ¬ s.validateSocketForSend env then (.error, s) else
  let p := queuePeekBatch tcpSendQueueConfig s.sendQueue maxMessages
  let s := { s with sendQueue := p.2 }
  let peeked := p.1.2.length
  if p.1.1 ≠ .success ∨ peeked = 0 then (.busy, s) else
  let frame := tcpCombineMessages p.1.2 maxCombinedSize
  if frame.length = 0 then
    (.busy, { s with sendQueue := (tcpPopSendQueueBatchAndFree s.sendQueue peeked).2 })
  else
    let f := tcpPrependLiveFirstQueueTail s.client.config s.sendQueue frame maxCombinedSize
    let r := tcpSendData env { s with dataPacketBuffer := f.1, sendQueue := f.2 } f.1
    if r.1 > 0 then
      (.success, { r.2 with client := { r.2.client with tcpSendQueueBatchCount := peeked } })
    else if r.1 = 0 then (.busy, r.2)
    else (.error, r.2)

/-- `tcp_state_handle_receiving`. -/
def tcpStateHandleReceiving (s : TcpSystem) : Result × TcpSystem := (.busy, s)

/-- `tcp_state_handle_closed`. -/
def tcpStateHandleClosed (s : TcpSystem) : Result × TcpSystem :=
  let s := s.resetSendTracking
  let s :=
    if s.client.lastConnectedState then
      { s with
        client := { s.client with lastConnectedState := false }
        outputs := s.outputs ++ [.tcpDisconnected] }
    else s
  let s :=
    { s with client := { s.client with sessionUp := false, recvPending := false } }.closeSocket
  (.success, { s with client := { s.client with reconnectDelayCycles := 0 } })

/-- `tcp_state_handle_error`. -/
def tcpStateHandleError (s : TcpSystem) : Result × TcpSystem :=
  let s := s.closeSocket.resetSendTracking
  (.success, { s with client := { s.client with reconnectDelayCycles := 0 } })

/-- `target_cycles` of `tcp_state_handle_reconnect_delay`. -/
def reconnectTargetCycles (config : Option WewareTcpConfig) : Nat :=
  let target :=
    match config with
    | none => reconnectDelayCyclesDefault
    | some c =>
      if c.retryIntervalMs > 0 then c.retryIntervalMs / tcpTaskIntervalMs
      else reconnectDelayCyclesDefault
  if target = 0 then 1 else target.toNat

/-- `tcp_state_handle_reconnect_delay`. -/
def tcpStateHandleReconnectDelay (s : TcpSystem) : Result × TcpSystem :=
  let cycles := s.client.reconnectDelayCycles + 1
  if cycles ≥ reconnectTargetCycles s.client.config then
    (.success, { s with client := { s.client with reconnectDelayCycles := 0 } })
  else (.busy, { s with client := { s.client with reconnectDelayCycles := cycles } })

/-! ## The task -/

/-- `HANDLE_STATE`. -/
def handleState (r : Result × TcpSystem) (onSuccess onError onBusy : TcpState) : TcpSystem :=
  match r.1 with
  | .success => r.2.setState onSuccess
  | .error => r.2.setState onError
  | _ => r.2.setState onBusy

/-- `g_tcp_state_timeouts`: the timeout of a state, 0 for none, and whether the
state re-anchors the overall timeout. -/
def tcpStateTimeout : TcpState → UInt32 × Bool
  | .waitNetwork => (60000, false)
  | .socketCreating => (20000, false)
  | .socketCreated => (5000, false)
  | .connecting => (30000, false)
  | .connected => (0, true)
  | .sendingLogin => (10000, false)
  | .waitAckLogin => (20000, false)
  | .ackReceived => (0, true)
  | .sendingData => (100000, false)
  | .waitAckData => (30000, false)
  | .receiving => (0, false)
  | .reconnectDelay => (20000, false)
  | _ => (0, false)

/-- `tcp_check_state_timeout`. -/
def tcpCheckStateTimeout (env : TcpEnv) (s : TcpSystem) : TcpSystem :=
  let elapsed := env.ticks - s.client.stateEntryTick
  let timeout :=
    match s.client.state, s.client.config with
    | .connecting, some c => c.connectionTimeoutMs
    | state, _ => (tcpStateTimeout state).1
  if timeout = 0 ∨ elapsed < timeout then s else
  let s := s.resetSendTracking
  let s :=
    if s.client.state = .closed ∨ s.client.state = .reconnectDelay then s.setState .init
    else s.setState .closed
  { s with client := { s.client with stateEntryTick := env.ticks } }

/-- `tcp_check_overall_timeout`. -/
def tcpCheckOverallTimeout (env : TcpEnv) (s : TcpSystem) : TcpSystem :=
  if (tcpStateTimeout s.client.state).2 then
    { s with client := { s.client with sessionDownSince := env.ticks } }
  else if env.ticks - s.client.sessionDownSince < tcpOverallTimeoutMs then s
  else
    let s := s.resetSendTracking.setState .closed
    { s with client := { s.client with sessionDownSince := env.ticks } }

/-- `tcp_try_recv_once_and_dispatch`, whose request goes to the command manager:
true while more data may be pending. -/
def tcpTryRecvOnceAndDispatch (env : TcpEnv) (s : TcpSystem) : Bool :=
  s.client.tcpFd ≥ 0 ∧ env.recv > 0

/-- A cycle of `tcp_client_main_loop` up to the `switch`. -/
def tcpCyclePrelude (env : TcpEnv) (s : TcpSystem) : TcpSystem :=
  let s :=
    if s.lastState ≠ s.client.state then
      { s with
        lastState := s.client.state
        client := { s.client with stateEntryTick := env.ticks } }
    else s
  let s := tcpCheckOverallTimeout env (tcpCheckStateTimeout env s)
  if s.client.recvPending ∧ ¬ tcpTryRecvOnceAndDispatch env s then
    { s with client := { s.client with recvPending := false } }
  else s

/-- The `switch` of `tcp_client_main_loop`. -/
def tcpDispatch (env : TcpEnv) (s : TcpSystem) : TcpSystem :=
  match s.client.state with
  | .init => s.setState .waitNetwork
  | .waitNetwork =>
    handleState (tcpStateHandleWaitNetwork env s) .socketCreating .error .waitNetwork
  | .socketCreating =>
    handleState (tcpStateHandleSocketCreating env s) .socketCreated .error .socketCreating
  | .socketCreated =>
    handleState (tcpStateHandleSocketCreated env s) .connecting .error .socketCreated
  | .connecting => handleState (tcpStateHandleConnecting env s) .connected .error .connecting
  | .connected => handleState (tcpStateHandleConnected s) .sendingLogin .error .connected
  | .sendingLogin =>
    handleState (tcpStateHandleSendingLogin env s) .waitAckLogin .error .sendingLogin
  | .waitAckLogin =>
    handleState (tcpStateHandleWaitAckLogin env s) .ackReceived .error .waitAckLogin
  | .ackReceived => handleState (tcpStateHandleAckReceived s) .sendingData .error .ackReceived
  | .sendingData =>
    handleState (tcpStateHandleSendingData env s) .waitAckData .error .sendingData
  | .waitAckData =>
    handleState (tcpStateHandleWaitAckData env s) .ackReceived .error .waitAckData
  | .receiving => handleState (tcpStateHandleReceiving s) .sendingData .error .receiving
  | .closed => handleState (tcpStateHandleClosed s) .reconnectDelay .error .closed
  | .reconnectDelay => handleState (tcpStateHandleReconnectDelay s) .init .error .reconnectDelay
  | .error => handleState (tcpStateHandleError s) .closed .error .error

/-- One turn of `tcp_client_main_loop`. -/
def tcpClientCycle (env : TcpEnv) (s : TcpSystem) : TcpSystem :=
  tcpDispatch env (tcpCyclePrelude env s)

/-! ## Events from outside -/

/-- The `SDK_NETCONN_EVT_*` values. -/
inductive NetconnEvent
  | rcvplus
  | rcvminus
  | sendplus
  | sendminus
  | connected
  | acceptplus
  | errorClsd
  | errorRst
  | errorAbrt
  | closeWait
  | sendacked
  | closeNormal
  | error
  deriving DecidableEq, Repr

/-- `tcp_socket_event_callback`; every branch of `CONNECTED` ends in that state. -/
def tcpSocketEventCallback (fd : Int) (evt : NetconnEvent) (len : Nat) (s : TcpSystem) :
    TcpSystem :=
  if fd ≠ s.client.tcpFd ∨ s.client.tcpFd < 0 then s else
  if s.client.state = .closed then s else
  match evt with
  | .connected => s.setState .connected
  | .sendacked =>
    if s.client.tcpBytesSent > 0 then
      let s := { s with client := { s.client with tcpBytesAcked := s.client.tcpBytesAcked + len } }
      if s.client.tcpBytesAcked ≥ s.client.tcpBytesSent ∧
          (s.client.state = .waitAckLogin ∨ s.client.state = .waitAckData) then
        s.setState .ackReceived
      else s
    else s
  | .rcvplus => { s with client := { s.client with recvPending := true } }
  | .closeWait | .closeNormal | .errorClsd | .errorRst | .errorAbrt | .error =>
    let s :=
      if s.client.state = .sendingData ∨ s.client.state = .waitAckData ∨
          s.client.state = .sendingLogin ∨ s.client.state = .waitAckLogin then s.resetSendTracking
      else s
    s.setState .closed
  | .rcvminus | .sendplus | .sendminus | .acceptplus => s

/-- `weware_tcp_reset_connection`. -/
def wewareTcpResetConnection (s : TcpSystem) : TcpSystem := s.setState .closed

/-- What can happen to the client. -/
inductive TcpInput
  | cycle (env : TcpEnv)
  | event (fd : Int) (evt : NetconnEvent) (len : Nat)
  | resetConnection

/-- The client under a sequence of such steps. -/
def tcpMachine : Machine TcpSystem TcpInput Unit where
  step s
    | .cycle env => ((), tcpClientCycle env s)
    | .event fd evt len => ((), tcpSocketEventCallback fd evt len s)
    | .resetConnection => ((), wewareTcpResetConnection s)

end WalnutGateway
