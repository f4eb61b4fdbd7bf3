import WalnutGateway.Common.Text
import WalnutGateway.Uart.Receive

/-!
# UART manager

`uart_manager.c`: one request at a time is taken from the queue, written to the UART and
waited for, while the receive callback dispatches frames in another context. A ping test
sends probes of its own when no request is queued, and ends in a verdict for whoever
asked. The text of a reply is not modelled, only whom a frame answers.
-/

namespace WalnutGateway

/-- `UART_PING_MAX_ATTEMPTS`. -/
def uartPingMaxAttempts : Nat := 3

/-- `UART_PING_TIMEOUT_TICKS`. -/
def uartPingTimeoutTicks : Nat := 50

/-- `response_timeout_ticks`. -/
def responseTimeoutTicks : Nat := 40

/-- The verdict of an answered probe. -/
def stmOk : List Byte := asciiBytes "STM: OK"

/-- The verdict when no probe was answered. -/
def stmFail : List Byte := asciiBytes "STM: FAIL (no response)"

/-- `UartState`. -/
inductive UartState
  | idle
  | sending
  | waitingResponse
  | responseReceived
  deriving DecidableEq, Repr

/-- What the manager hands out. -/
inductive UartOutput
  /-- `wm_sdk_uart_write`. -/
  | write (payload : List Byte)
  /-- A verdict through `uart_route_to_module_queue`. -/
  | verdict (dest : ModuleId) (address : CArray 64) (message : List Byte)
  /-- The reply built from a frame, for the source of the request. -/
  | reply (origin : ModuleId) (address : CArray 64) (frame : List Byte)
  /-- What `uart_manager_start_ping_test` returns. -/
  | pingTest (result : Result)
  deriving DecidableEq

/-- `uart_manager_state_t` of a running manager. -/
structure UartManager where
  state : UartState
  currentRequest : Option ModuleMessage
  hasPendingRequest : Bool
  responseTimeoutCounter : Nat
  rx : UartRx
  uartOpened : Bool
  /-- The result of a write the task has made and not yet acted on. -/
  writeResult : Option Bool
  pingActive : Bool
  currentIsPing : Bool
  pingAttemptsLeft : Nat
  pingRequester : ModuleId
  pingAddr : CArray 64
  deriving DecidableEq

namespace UartManager

/-- The manager when `uart_manager_init` has started its task. -/
def init : UartManager where
  state := .idle
  currentRequest := none
  hasPendingRequest := false
  responseTimeoutCounter := 0
  rx := ⟨[], 1024⟩
  uartOpened := true
  writeResult := none
  pingActive := false
  currentIsPing := false
  pingAttemptsLeft := 0
  pingRequester := .log
  pingAddr := CArray.ofList 64 []

/-- `uart_reset_state`. -/
def reset (m : UartManager) : UartManager :=
  { m with
    currentRequest := none
    hasPendingRequest := false
    state := .idle
    responseTimeoutCounter := 0
    rx := { m.rx with buffer := [] }
    currentIsPing := false }

end UartManager

/-- The STM command of a request, as `uart_dispatch_binary_frame` reads it. -/
def uartRequestCmd (req : ModuleMessage) : Byte :=
  match req.payloadPtr with
  | some frame => stmFrameCmd frame
  | none => 0

/-- The request for the device information that serves as a probe, if it can be built. -/
def uartProbe : Option ModuleMessage :=
  (stmBuildFrame moduleMessageInlineSize stmSrcTypeLocal stmCmdGetDevInfo []).map fun frame =>
    { ModuleMessage.ofPayload .uart .uart frame with isRaw := true }

/-! ## The task -/

/-- `UART_STATE_IDLE` of `uart_task_entry`: the request popped, and whether `malloc` succeeds. -/
def uartTaskIdle (pop : Option ModuleMessage) (malloc : Bool) (m : UartManager) : UartManager :=
  match pop with
  | some req =>
    if malloc then
      { m with
        currentRequest := some req
        currentIsPing := false
        hasPendingRequest := true
        state := .sending }
    else { m with currentRequest := none }
  | none =>
    if m.pingActive ∧ m.pingAttemptsLeft > 0 ∧ malloc then
      match uartProbe with
      | some pm =>
        { m with
          currentRequest := some pm
          currentIsPing := true
          pingAttemptsLeft := m.pingAttemptsLeft - 1
          hasPendingRequest := true
          state := .sending }
      | none => m
    else m

/-- `UART_STATE_SENDING` up to the write, and whether the write succeeds. -/
def uartTaskSending (written : Bool) (m : UartManager) : List UartOutput × UartManager :=
  match m.currentRequest with
  | none => ([], m.reset)
  | some req =>
    if m.uartOpened = false then ([], m.reset) else
    if req.isRaw = false ∨ req.dataLen = 0 then ([], m.reset) else
    match req.payloadPtr with
    | none => ([], m.reset)
    | some _ => ([.write req.payload], { m with writeResult := some written })

/-- `UART_STATE_SENDING` after the write. -/
def uartTaskWritten (written : Bool) (m : UartManager) : UartManager :=
  if written then { m with writeResult := none, state := .waitingResponse }
  else { m with writeResult := none }.reset

/-- The ticks a request is waited for. -/
def UartManager.limit (m : UartManager) : Nat :=
  if m.currentIsPing then uartPingTimeoutTicks else responseTimeoutTicks

/-- `UART_STATE_WAITING_RESPONSE`. -/
def uartTaskWaiting (m : UartManager) : List UartOutput × UartManager :=
  if m.responseTimeoutCounter + 1 > m.limit then
    if m.currentIsPing ∧ m.pingAttemptsLeft = 0 then
      ([.verdict m.pingRequester m.pingAddr stmFail], { m with pingActive := false }.reset)
    else ([], m.reset)
  else ([], { m with responseTimeoutCounter := m.responseTimeoutCounter + 1 })

/-- The next step of `uart_task_entry`. -/
def uartTaskEntry (pop : Option ModuleMessage) (malloc written : Bool) (m : UartManager) :
    List UartOutput × UartManager :=
  match m.writeResult with
  | some result => ([], uartTaskWritten result m)
  | none =>
    match m.state with
    | .idle => ([], uartTaskIdle pop malloc m)
    | .sending => uartTaskSending written m
    | .waitingResponse => uartTaskWaiting m
    | .responseReceived => ([], m.reset)

/-! ## Other contexts -/

/-- `uart_dispatch_binary_frame`. -/
def uartDispatchBinaryFrame (frame : List Byte) (m : UartManager) :
    List UartOutput × UartManager :=
  let cmd := stmFrameCmd frame
  if m.currentIsPing then
    if cmd = stmCmdGetDevInfo ||| stmCmdRespBit then
      ([.verdict m.pingRequester m.pingAddr stmOk], { m with pingActive := false })
    else ([], m)
  else
    match m.currentRequest with
    | some req =>
      if req.isRaw ∧ cmd ≠ uartRequestCmd req ||| stmCmdRespBit then ([], m)
      else ([.reply req.sourceModule req.address frame], m)
    | none => ([.reply .ble (CArray.ofList 64 (asciiBytes "STM")) frame], m)

/-- A frame found by the loop of `uart_process_received_data`. -/
def uartFrameReceived (frame : List Byte) (m : UartManager) : List UartOutput × UartManager :=
  let dispatched := uartDispatchBinaryFrame frame m
  if dispatched.2.hasPendingRequest then
    (dispatched.1, { dispatched.2 with state := .responseReceived })
  else dispatched

/-- `uart_manager_start_ping_test`. -/
def uartManagerStartPingTest (initialized : Bool) (requester : ModuleId) (addr : List Byte)
    (m : UartManager) : Result × UartManager :=
  if initialized = false then (.error, m) else
  if m.pingActive then (.busy, m) else
  (.success,
    { m with
      pingRequester := requester
      pingAddr := utilsStrncpySafe 64 addr
      pingAttemptsLeft := uartPingMaxAttempts
      currentIsPing := false
      pingActive := true })

/-! ## Runs -/

/-- One step of the task, of the receive callback, or a ping test asked for. -/
inductive UartEvent
  | task (pop : Option ModuleMessage) (malloc written : Bool)
  /-- The callback has copied a chunk and taken the frames off the buffer. -/
  | buffered (c : RxChunk)
  /-- The callback handles one of them. -/
  | frame (frame : List Byte)
  | startPing (initialized : Bool) (requester : ModuleId) (addr : List Byte)

/-- The manager, step by step. -/
def uartMachine : Machine UartManager UartEvent (List UartOutput) where
  step m e :=
    match e with
    | .task pop malloc written => uartTaskEntry pop malloc written m
    | .buffered c => ([], { m with rx := (uartRxCallback c m.rx).2 })
    | .frame frame => uartFrameReceived frame m
    | .startPing initialized requester addr =>
      ([.pingTest (uartManagerStartPingTest initialized requester addr m).1],
        (uartManagerStartPingTest initialized requester addr m).2)

/-- What a chunk sets off when nothing comes in between. -/
def chunkEvents (c : RxChunk) (rx : UartRx) : List UartEvent :=
  .buffered c :: (uartRxCallback c rx).1.map .frame

/-! ## What holds in every state -/

/-- A probe can be sent, and its reply is the one the dispatcher looks for. -/
theorem uartProbe_spec : ∀ pm ∈ uartProbe, pm.isRaw = true ∧ pm.dataLen ≠ 0 ∧
    pm.payloadPtr.isSome = true ∧ uartRequestCmd pm = stmCmdGetDevInfo := by
  decide +kernel

/-- Dispatching a frame changes nothing but the end of a ping test. -/
theorem uartDispatchBinaryFrame_snd (frame : List Byte) (m : UartManager) :
    (uartDispatchBinaryFrame frame m).2 = m ∨
      (uartDispatchBinaryFrame frame m).2 = { m with pingActive := false } := by
  unfold uartDispatchBinaryFrame
  dsimp only
  split
  · split
    · exact Or.inr rfl
    · exact Or.inl rfl
  · split
    · split
      · exact Or.inl rfl
      · exact Or.inl rfl
    · exact Or.inl rfl

/-- What the task and the receive callback rely on. -/
structure UartManager.Sound (m : UartManager) : Prop where
  opened : m.uartOpened = true
  /-- A request is pending in every state but the idle one. -/
  pending : m.hasPendingRequest = true ↔ m.state ≠ .idle
  request : m.state ≠ .idle → m.currentRequest ≠ none
  /-- The task is in the middle of a write only while it sends or was just answered. -/
  writing : m.writeResult ≠ none → m.state ≠ .idle ∧ m.state ≠ .waitingResponse
  /-- A probe in flight is the current request. -/
  probe : m.currentIsPing = true → m.currentRequest = uartProbe ∧ m.state ≠ .idle

namespace UartManager.Sound

variable {m : UartManager}

theorem init : UartManager.init.Sound where
  opened := rfl
  pending := by simp [UartManager.init]
  request h := absurd rfl h
  writing h := absurd rfl h
  probe h := by simp [UartManager.init] at h

theorem reset (h : m.Sound) (hwrite : m.writeResult = none) : m.reset.Sound where
  opened := h.opened
  pending := by simp [UartManager.reset]
  request hidle := absurd rfl hidle
  writing hsome := absurd hwrite hsome
  probe hping := by simp [UartManager.reset] at hping

theorem taskIdle (h : m.Sound) (hwrite : m.writeResult = none) (hidle : m.state = .idle)
    (pop : Option ModuleMessage) (malloc : Bool) : (uartTaskIdle pop malloc m).Sound := by
  have hnoPing : m.currentIsPing ≠ true := fun hping => (h.probe hping).2 hidle
  unfold uartTaskIdle
  cases pop with
  | some req =>
    dsimp only
    split
    · exact ⟨h.opened, by simp, by simp, fun hsome => absurd hwrite hsome, by simp⟩
    · exact ⟨h.opened, h.pending, fun hne => absurd hidle hne, h.writing,
        fun hping => absurd hping hnoPing⟩
  | none =>
    dsimp only
    split
    · cases hprobe : uartProbe with
      | some pm =>
        exact ⟨h.opened, by simp, by simp, fun hsome => absurd hwrite hsome, by simp [hprobe]⟩
      | none => exact h
    · exact h

theorem taskSending (h : m.Sound) (hwrite : m.writeResult = none) (hsending : m.state = .sending)
    (written : Bool) : (uartTaskSending written m).2.Sound := by
  unfold uartTaskSending
  split
  · exact h.reset hwrite
  · split
    · exact h.reset hwrite
    · split
      · exact h.reset hwrite
      · split
        · exact h.reset hwrite
        · exact { h with writing := fun _ => by simp [hsending] }

theorem taskWritten (h : m.Sound) {written : Bool} (hwrite : m.writeResult = some written) :
    (uartTaskWritten written m).Sound := by
  obtain ⟨hidle, -⟩ := h.writing (by simp [hwrite])
  unfold uartTaskWritten
  split
  · exact ⟨h.opened, by simp [h.pending.mpr hidle], fun _ => h.request hidle, by simp,
      fun hping => ⟨(h.probe hping).1, by simp⟩⟩
  · have hdone : UartManager.Sound { m with writeResult := none } :=
      { h with writing := fun hsome => absurd rfl hsome }
    exact hdone.reset rfl

theorem taskWaiting (h : m.Sound) (hwrite : m.writeResult = none) :
    (uartTaskWaiting m).2.Sound := by
  unfold uartTaskWaiting
  split
  · split
    · exact UartManager.Sound.reset { h with opened := h.opened } hwrite
    · exact h.reset hwrite
  · exact { h with opened := h.opened }

theorem taskEntry (h : m.Sound) (pop : Option ModuleMessage) (malloc written : Bool) :
    (uartTaskEntry pop malloc written m).2.Sound := by
  unfold uartTaskEntry
  split
  · rename_i hwrite
    exact h.taskWritten hwrite
  · rename_i hwrite
    split
    · rename_i hidle
      exact h.taskIdle hwrite hidle pop malloc
    · rename_i hsending
      exact h.taskSending hwrite hsending written
    · exact h.taskWaiting hwrite
    · exact h.reset hwrite

theorem frameReceived (h : m.Sound) (frame : List Byte) :
    (uartFrameReceived frame m).2.Sound := by
  have hdispatched : (uartDispatchBinaryFrame frame m).2.Sound := by
    rcases uartDispatchBinaryFrame_snd frame m with hsame | hended
    · rwa [hsame]
    · rw [hended]
      exact { h with opened := h.opened }
  unfold uartFrameReceived
  dsimp only
  split
  · rename_i hpending
    have hidle := hdispatched.pending.mp hpending
    exact ⟨hdispatched.opened, by simp [hpending], fun _ => hdispatched.request hidle, by simp,
      fun hping => ⟨(hdispatched.probe hping).1, by simp⟩⟩
  · exact hdispatched

theorem startPing (h : m.Sound) (initialized : Bool) (requester : ModuleId) (addr : List Byte) :
    (uartManagerStartPingTest initialized requester addr m).2.Sound := by
  unfold uartManagerStartPingTest
  split
  · exact h
  · split
    · exact h
    · exact { h with probe := by simp }

/-- Every step keeps the manager sound. -/
theorem step (h : m.Sound) (e : UartEvent) : (uartMachine.step m e).2.Sound := by
  cases e with
  | task pop malloc written => exact h.taskEntry pop malloc written
  | buffered c => exact { h with opened := h.opened }
  | frame frame => exact h.frameReceived frame
  | startPing initialized requester addr => exact h.startPing initialized requester addr

/-- The manager is sound after every run. -/
theorem run (es : List UartEvent) : (uartMachine.run .init es).2.Sound :=
  Machine.invariant uartMachine (I := UartManager.Sound) (fun _ e h _ => h.step e) .init
    (Machine.Along.trivial uartMachine _ es)

end UartManager.Sound

end WalnutGateway
