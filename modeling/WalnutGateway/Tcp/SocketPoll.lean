import WalnutGateway.Tcp.Client

/-!
# The socket poll layer

`sdk_walnut_socket_poll.c`: the TCPMON task asks the kernel about a socket on
each pass and turns the answers into netconn events. What the peer acknowledged
is not reported by the kernel; it is inferred from successive samples of the free
space in the send buffer. One slot is modelled, with the answers of the kernel
as an input of the pass.
-/

namespace WalnutGateway

/-- `SocketPollSlot`; a slot in use has a callback. -/
structure SocketPollSlot where
  fd : Int
  connectPending : Bool
  lastWritable : Bool
  finEmitted : Bool
  errEmitted : Bool
  sndbufSupported : Bool
  sndbufCapacity : Int
  sndbufLast : Int
  unacked : Int
  synthAckPending : Int
  deriving DecidableEq

/-- What the kernel answers in one pass. -/
structure PollEnv where
  readable : Bool
  writable : Bool
  excepted : Bool
  /-- `lwip_getsockopt(SO_ERROR)` and the value it gives. -/
  soErrorRet : Int
  soError : Int
  /-- `lwip_getpeername`. -/
  getpeername : Int
  /-- `lwip_ioctl(FIONREAD)` and the value it gives. -/
  fionreadRet : Int
  fionreadAvail : Int
  /-- `lwip_getsockopt(SO_SNDBUF)` and the value it gives. -/
  sndbufRet : Int
  sndbufValue : Int

/-- `sndbuf_avail`. -/
def sndbufAvail (env : PollEnv) : Int :=
  if env.sndbufRet ≠ 0 then -1 else if env.sndbufValue > 0 then env.sndbufValue else -1

/-- `errno_to_error_event`. -/
def errnoToErrorEvent (err : Int) : NetconnEvent :=
  if err = 104 then .errorRst
  else if err = 103 then .errorAbrt
  else if err = 107 ∨ err = 32 then .errorClsd
  else .error

/-- The `unsigned short` length of an event. -/
def eventLength (n : Int) : Nat := ((if n > 0xFFFF then 0xFFFF else n) % 65536).toNat

namespace SocketPollSlot

/-- `CONNECTED`: writable while a connect is in flight. -/
def serviceConnect (env : PollEnv) (slot : SocketPollSlot) :
    List (NetconnEvent × Nat) × SocketPollSlot :=
  if ¬ env.writable then ([], { slot with lastWritable := env.writable }) else
  if env.soErrorRet = 0 ∧ env.soError ≠ 0 then
    ([(errnoToErrorEvent env.soError, 0)],
      { slot with connectPending := false, lastWritable := env.writable })
  else if env.getpeername ≠ 0 then ([], { slot with lastWritable := env.writable })
  else ([(.connected, 0)], { slot with connectPending := false, lastWritable := env.writable })

/-- `RCVPLUS`; no `CLOSE` is synthesized. -/
def serviceReadable (env : PollEnv) (slot : SocketPollSlot) :
    List (NetconnEvent × Nat) × SocketPollSlot :=
  if ¬ env.readable then ([], slot) else
  if env.fionreadRet = 0 ∧ env.fionreadAvail > 0 then
    ([(.rcvplus, eventLength env.fionreadAvail)], slot)
  else ([], { slot with finEmitted := true })

/-- `SENDACKED`: the send buffer drains as the peer acknowledges. -/
def serviceAcked (env : PollEnv) (slot : SocketPollSlot) :
    List (NetconnEvent × Nat) × SocketPollSlot :=
  if ¬ (slot.sndbufSupported ∧ slot.unacked > 0) then ([], slot) else
  let cur := sndbufAvail env
  if cur > slot.sndbufLast then
    let delta := if cur - slot.sndbufLast > slot.unacked then slot.unacked
      else cur - slot.sndbufLast
    ([(.sendacked, eventLength delta)],
      { slot with sndbufLast := cur, unacked := slot.unacked - delta })
  else if cur = slot.sndbufCapacity then
    ([(.sendacked, eventLength slot.unacked)], { slot with unacked := 0, sndbufLast := cur })
  else ([], slot)

/-- `SENDPLUS` and `SENDMINUS`: writability edges. -/
def serviceWritable (env : PollEnv) (slot : SocketPollSlot) :
    List (NetconnEvent × Nat) × SocketPollSlot :=
  if env.writable = slot.lastWritable then ([], slot)
  else ([(if env.writable then .sendplus else .sendminus, 0)],
    { slot with lastWritable := env.writable })

end SocketPollSlot

/-- `socket_poll_service_slot`: the events in order, and the slot. -/
def socketPollServiceSlot (env : PollEnv) (slot : SocketPollSlot) :
    List (NetconnEvent × Nat) × SocketPollSlot :=
  if slot.fd < 0 then ([], slot) else
  if env.excepted then
    if slot.errEmitted then ([], slot)
    else if env.soErrorRet = 0 ∧ env.soError ≠ 0 then
      ([(errnoToErrorEvent env.soError, 0)], { slot with errEmitted := true })
    else ([], { slot with errEmitted := true })
  else if slot.connectPending then slot.serviceConnect env
  else
    let r := slot.serviceReadable env
    let a := r.2.serviceAcked env
    let w := a.2.serviceWritable env
    (r.1 ++ a.1 ++ w.1, w.2)

/-- The deferred acknowledgement that `socket_poll_loop` delivers before it services
a slot. -/
def socketPollDeliverSynth (slot : SocketPollSlot) : List (NetconnEvent × Nat) × SocketPollSlot :=
  if slot.fd ≥ 0 ∧ slot.synthAckPending > 0 then
    ([(.sendacked, eventLength slot.synthAckPending)], { slot with synthAckPending := 0 })
  else ([], slot)

/-- A turn of `socket_poll_loop` over one slot; `selectRet` is the answer of
`lwip_select`. -/
def socketPollLoop (selectRet : Int) (env : PollEnv) (slot : SocketPollSlot) :
    List (NetconnEvent × Nat) × SocketPollSlot :=
  let d := socketPollDeliverSynth slot
  if selectRet ≤ 0 then d
  else
    let r := socketPollServiceSlot env d.2
    (d.1 ++ r.1, r.2)

/-- `sdk_walnut_socket_with_callback`: the slot of a new socket. -/
def sdkWalnutSocketWithCallback (env : PollEnv) (fd : Int) : SocketPollSlot where
  fd := fd
  connectPending := false
  lastWritable := false
  finEmitted := false
  errEmitted := false
  sndbufSupported := sndbufAvail env > 0
  sndbufCapacity := sndbufAvail env
  sndbufLast := sndbufAvail env
  unacked := 0
  synthAckPending := 0

/-- `sdk_walnut_socket_poll_release`: a free slot. -/
def sdkWalnutSocketPollRelease : SocketPollSlot :=
  ⟨-1, false, false, false, false, false, 0, 0, 0, 0⟩

/-- `sdk_walnut_socket_poll_mark_connecting`. -/
def sdkWalnutSocketPollMarkConnecting (fd : Int) (slot : SocketPollSlot) : SocketPollSlot :=
  if fd < 0 ∨ slot.fd ≠ fd then slot
  else { slot with finEmitted := false, errEmitted := false, connectPending := true }

/-- `sdk_walnut_socket_poll_note_sent`. -/
def sdkWalnutSocketPollNoteSent (env : PollEnv) (fd len : Int) (slot : SocketPollSlot) :
    SocketPollSlot :=
  if fd < 0 ∨ slot.fd ≠ fd ∨ len ≤ 0 then slot
  else if slot.sndbufSupported then
    { slot with
      connectPending := false
      sndbufLast := if sndbufAvail env ≥ 0 then sndbufAvail env else slot.sndbufCapacity - len
      unacked := slot.unacked + len }
  else { slot with connectPending := false, synthAckPending := slot.synthAckPending + len }

end WalnutGateway
