import WalnutGateway.Command.StmRequest
import WalnutGateway.Core.OutputLog
import WalnutGateway.Queue.Bounded
import WalnutGateway.Uart.Answer
import WalnutGateway.Uart.Correlation

/-!
# The way to the STM and back

Requests wait in the queue of the UART task, which takes one at a time, writes it and waits, while
the receive callback hands in frames and other tasks ask for ping tests. One request is in flight
at most; it is written once at most, and what comes back goes to who asked for it. A probe of a
test that is over may be answered to the UART manager itself, whose own queue then gets the row.
-/

namespace WalnutGateway

/-- The manager with its queue and `g_uart_shared_buf`. -/
structure StmGateway where
  requests : Device ModuleMessage
  uart : UartManager
  shared : List Byte

/-- What is seen of it. -/
inductive StmOutput
  /-- A row finds room in `UART_REQUEST_Q`, and the request that asked for it, if one did. -/
  | queued (row : ModuleMessage) (asker : Option ModuleMessage)
  /-- A restart of the device is saved. -/
  | saved (source : List Byte)
  /-- The task takes a row, and whether there is memory for it. -/
  | taken (row : ModuleMessage) (kept : Bool)
  /-- The task makes a probe. -/
  | probed (row : ModuleMessage)
  /-- `uart_free_current_request`. -/
  | freed
  | wrote (payload : List Byte)
  /-- A frame is dispatched, and what is routed of it. -/
  | answered (origin : ModuleId) (address frame : List Byte) (answer : Option UartAnswer)
  | verdict (requester : ModuleId) (address message : List Byte)
  | pingTest (requester : ModuleId) (address : List Byte) (result : Result)
  deriving DecidableEq

/-- The row of an answer for a module other than the TCP module. -/
def UartAnswer.row (dest : ModuleId) (address : List Byte) : UartAnswer → ModuleMessage
  | text message =>
    { ModuleMessage.ofPayload .uart dest [] with
      address := utilsStrncpySafe 64 address
      message := utilsStrncpySafe moduleMessageInlineSize message
      dataLen := ((cString message).take (moduleMessageInlineSize - 1)).length }
  | binary data =>
    { ModuleMessage.ofPayload .uart dest data with
      address := utilsStrncpySafe 64 address
      payloadIsBinary := true }

namespace StmGateway

/-- After `uart_manager_init`, with an empty queue. -/
def start : StmGateway where
  requests := .fresh fun _ => .ofPayload .log .log []
  uart := .init
  shared := List.replicate uartSharedBufSize 0

/-- A row for the manager itself. -/
def routeToSelf (address : List Byte) (answer : UartAnswer) (g : StmGateway) :
    List StmOutput × StmGateway :=
  let row := answer.row .uart address
  let pushed := queuePush uartRequestQueueConfig g.requests row
  (if pushed.1 = .success then [.queued row none] else [], { g with requests := pushed.2 })

/-- What the manager hands out, where `request` is the current one. -/
def handOut (request : Option ModuleMessage) (o : UartOutput) (g : StmGateway) :
    List StmOutput × StmGateway :=
  match o with
  | .write payload => ([.wrote payload], g)
  | .verdict dest address message => ([.verdict dest (cString address.toList) message], g)
  | .reply origin address frame =>
    let r := uartAnswer origin request frame g.shared
    andThen ([.answered origin (cString address.toList) frame r.1], { g with shared := r.2 })
      fun g => match origin, r.1 with
        | .uart, some answer => g.routeToSelf (cString address.toList) answer
        | _, _ => ([], g)
  | .pingTest _ => ([], g)

/-- The same for all that it hands out in a step. -/
def handOutAll (request : Option ModuleMessage) : List UartOutput → StmGateway →
    List StmOutput × StmGateway
  | [], g => ([], g)
  | o :: os, g => andThen (g.handOut request o) (handOutAll request os)

/-- What becomes of `current_request` in a step: a probe is made, or it is freed. -/
def requestMarks (m m' : UartManager) : List StmOutput :=
  if m.currentRequest = none then
    if m'.currentIsPing then m'.currentRequest.toList.map .probed else []
  else if m'.currentRequest = none then [.freed] else []

/-- A step of the manager. -/
def manager (e : UartEvent) (g : StmGateway) : List StmOutput × StmGateway :=
  let r := uartMachine.step g.uart e
  andThen (handOutAll g.uart.currentRequest r.1 { g with uart := r.2 })
    fun g' => (requestMarks g.uart r.2, g')

/-- The task looks into its queue when it is idle. -/
def popRequest (g : StmGateway) : Option ModuleMessage × StmGateway :=
  if g.uart.writeResult = none ∧ g.uart.state = .idle then
    let popped := queuePop uartRequestQueueConfig g.requests 1
    (popped.1.2.head?, { g with requests := popped.2 })
  else (none, g)

/-- A turn of the task. -/
def task (malloc written : Bool) (g : StmGateway) : List StmOutput × StmGateway :=
  let p := g.popRequest
  andThen (p.1.toList.map (.taken · malloc), p.2) (manager (.task p.1 malloc written))

/-- `uart_manager_start_ping_test`. -/
def startPingTest (requester : ModuleId) (address : List Byte) (g : StmGateway) :
    List StmOutput × StmGateway :=
  let r := uartManagerStartPingTest true requester address g.uart
  ([.pingTest requester (cString (utilsStrncpySafe 64 address).toList) r.1],
    { g with uart := r.2 })

/-- `cmd_state_handle_check_stm_prefix` of a request. -/
def checkStmPrefix (request : ModuleMessage) (g : StmGateway) : List StmOutput × StmGateway :=
  let c := cmdStateHandleCheckStmPrefix true request g.requests
  (c.queued.toList.map (.queued · (some request)) ++ c.saved.toList.map .saved,
    { g with requests := c.requests })

end StmGateway

/-- What can happen. -/
inductive StmOp
  | command (request : ModuleMessage)
  | pingTest (requester : ModuleId) (address : List Byte)
  | task (malloc written : Bool)
  | received (c : RxChunk)
  | frame (frame : List Byte)

/-- The gateway under its tasks. -/
def stmMachine : Machine StmGateway StmOp (List StmOutput) where
  step g
    | .command request => g.checkStmPrefix request
    | .pingTest requester address => g.startPingTest requester address
    | .task malloc written => g.task malloc written
    | .received c => g.manager (.buffered c)
    | .frame frame => g.manager (.frame frame)

/-! ## What the log tells -/

/-- The request that is current, and whether it was written. -/
structure StmFlight where
  request : ModuleMessage
  written : Bool

/-- What an output makes of it. -/
def StmFlight.next (f : Option StmFlight) : StmOutput → Option StmFlight
  | .taken row true => some ⟨row, false⟩
  | .probed row => some ⟨row, false⟩
  | .wrote _ => f.map fun f => { f with written := true }
  | .freed => none
  | _ => f

/-- The request in flight, as the log tells. -/
def inFlight (log : List StmOutput) : Option StmFlight := log.foldl StmFlight.next none

/-- Who asked for the last ping test. -/
def pingAsker (log : List StmOutput) : Option (ModuleId × List Byte) :=
  log.foldl (fun asker o => match o with
    | .pingTest requester address .success => some (requester, address)
    | _ => asker) none

/-- The rows that were put into the queue. -/
def queuedRows (log : List StmOutput) : List ModuleMessage :=
  log.filterMap fun
    | .queued row _ => some row
    | _ => none

/-- The rows that were taken. -/
def takenRows (log : List StmOutput) : List ModuleMessage :=
  log.filterMap fun
    | .taken row _ => some row
    | _ => none

/-- An output is as it should be after those before it. -/
def StmGood (past : List StmOutput) : StmOutput → Prop
  | .queued row (some asker) => AsksFor asker row
  | .queued row none => row.sourceModule = .uart
  | .saved _ => ∃ row asker, past.getLast? = some (.queued row (some asker))
  | .taken row _ => inFlight past = none ∧ takenRows past ++ [row] <+: queuedRows past
  | .probed row => inFlight past = none ∧ row ∈ uartProbe
  | .freed => inFlight past ≠ none
  | .wrote payload => ∃ f, inFlight past = some f ∧ f.written = false ∧ f.request.isRaw = true ∧
      payload = f.request.payload
  | .answered origin address frame answer =>
    (∀ f, inFlight past = some f → origin = f.request.sourceModule ∧
      address = cString f.request.address.toList ∧
      (f.request.isRaw = true → stmFrameCmd frame = replyCmd f.request)) ∧
    (inFlight past = none → origin = .ble) ∧ ∀ a ∈ answer, a.Fits uartSharedBufSize
  | .verdict requester address message => pingAsker past = some (requester, address) ∧
      (message = stmOk ∨ message = stmFail) ∧
      ∃ f, inFlight past = some f ∧ f.request ∈ uartProbe
  | .pingTest .. => True

@[simp] theorem inFlight_append (log log' : List StmOutput) :
    inFlight (log ++ log') = log'.foldl StmFlight.next (inFlight log) := List.foldl_append ..

@[simp] theorem pingAsker_append (log log' : List StmOutput) :
    pingAsker (log ++ log') = log'.foldl (fun asker o => match o with
      | .pingTest requester address .success => some (requester, address)
      | _ => asker) (pingAsker log) := List.foldl_append ..

@[simp] theorem queuedRows_append (log log' : List StmOutput) :
    queuedRows (log ++ log') = queuedRows log ++ queuedRows log' := List.filterMap_append ..

@[simp] theorem takenRows_append (log log' : List StmOutput) :
    takenRows (log ++ log') = takenRows log ++ takenRows log' := List.filterMap_append ..

/-- The rows that wait. -/
def StmGateway.rows (g : StmGateway) : List ModuleMessage :=
  g.requests.q.ringRows uartRequestQueueConfig

/-- What the log tells of the state. -/
structure StmTold (log : List StmOutput) (g : StmGateway) : Prop where
  sound : g.uart.Sound
  idle : g.uart.state = .idle → g.uart.currentRequest = none
  ring : g.requests.q.RingOk uartRequestQueueConfig
  flight : (inFlight log).map StmFlight.request = g.uart.currentRequest
  unwritten : ∀ f, inFlight log = some f → g.uart.state = .sending → g.uart.writeResult = none →
    f.written = false
  asker : g.uart.pingActive = true ∨ g.uart.currentIsPing = true →
    pingAsker log = some (g.uart.pingRequester, cString g.uart.pingAddr.toList)
  moved : takenRows log ++ g.rows = queuedRows log
  shared : g.shared.length = uartSharedBufSize
  order : InOrder StmGood log

section Steps

variable {log : List StmOutput} {g : StmGateway}

/-! ## The marks of a request -/

theorem requestMarks_of_eq {m m' : UartManager} (h : m'.currentRequest = m.currentRequest)
    (hping : m.currentRequest = none → m'.currentIsPing = false) :
    StmGateway.requestMarks m m' = [] := by
  unfold StmGateway.requestMarks
  split
  · rw [if_neg (by rw [hping ‹_›]; exact Bool.false_ne_true)]
  · rw [if_neg (by rwa [h])]

theorem requestMarks_freed {m m' : UartManager} (h : m.currentRequest ≠ none)
    (h' : m'.currentRequest = none) : StmGateway.requestMarks m m' = [.freed] := by
  rw [StmGateway.requestMarks, if_neg h, if_pos h']

theorem manager_of_nil {e : UartEvent} {m' : UartManager}
    (h : uartMachine.step g.uart e = ([], m')) :
    g.manager e = (StmGateway.requestMarks g.uart m', { g with uart := m' }) := by
  rw [StmGateway.manager, h]
  rfl

/-- A verdict, and what becomes of the request. -/
theorem manager_of_verdict {e : UartEvent} {m' : UartManager} {dest : ModuleId}
    {address : CArray 64} {message : List Byte}
    (h : uartMachine.step g.uart e = ([.verdict dest address message], m')) :
    g.manager e = (.verdict dest (cString address.toList) message ::
      StmGateway.requestMarks g.uart m', { g with uart := m' }) := by
  rw [StmGateway.manager, h]
  rfl

/-- A reply while the request stays. -/
theorem manager_of_reply {e : UartEvent} {m' : UartManager} {origin : ModuleId}
    {address : CArray 64} {frame : List Byte}
    (h : uartMachine.step g.uart e = ([.reply origin address frame], m'))
    (hmarks : StmGateway.requestMarks g.uart m' = []) :
    g.manager e = StmGateway.handOut g.uart.currentRequest (.reply origin address frame)
      { g with uart := m' } := by
  rw [StmGateway.manager, h]
  simp only [StmGateway.handOutAll, andThen, hmarks, List.append_nil]

/-! ## What the log tells after a step -/

namespace StmTold

/-- The manager moves on, and its queue is as it was. -/
theorem next (h : StmTold log g) {m : UartManager} {os : List StmOutput} (hsound : m.Sound)
    (hidle : m.state = .idle → m.currentRequest = none)
    (hflight : (os.foldl StmFlight.next (inFlight log)).map StmFlight.request = m.currentRequest)
    (hunwritten : ∀ f, os.foldl StmFlight.next (inFlight log) = some f → m.state = .sending →
      m.writeResult = none → f.written = false)
    (hasker : m.pingActive = true ∨ m.currentIsPing = true →
      pingAsker (log ++ os) = some (m.pingRequester, cString m.pingAddr.toList))
    (hqueued : queuedRows os = []) (htaken : takenRows os = [])
    (horder : InOrder StmGood (log ++ os)) : StmTold (log ++ os) { g with uart := m } where
  sound := hsound
  idle := hidle
  ring := h.ring
  flight := by rwa [inFlight_append]
  unwritten := by rwa [inFlight_append]
  asker := hasker
  moved := by
    rw [takenRows_append, queuedRows_append, htaken, hqueued, List.append_nil, List.append_nil]
    exact h.moved
  shared := h.shared
  order := horder

/-- A step of the manager that is not seen. -/
theorem quiet (h : StmTold log g) {m : UartManager} (hsound : m.Sound)
    (hidle : m.state = .idle → m.currentRequest = none)
    (hrequest : m.currentRequest = g.uart.currentRequest)
    (hsending : m.state = .sending → m.writeResult = none →
      g.uart.state = .sending ∧ g.uart.writeResult = none)
    (hasker : m.pingActive = true ∨ m.currentIsPing = true →
      (g.uart.pingActive = true ∨ g.uart.currentIsPing = true) ∧
        m.pingRequester = g.uart.pingRequester ∧ m.pingAddr = g.uart.pingAddr) :
    StmTold log { g with uart := m } := by
  rw [← List.append_nil log]
  refine h.next hsound hidle (h.flight.trans hrequest.symm) (fun f hf hs hw => ?_) (fun hm => ?_)
    rfl rfl (by rw [List.append_nil]; exact h.order)
  · exact h.unwritten f hf (hsending hs hw).1 (hsending hs hw).2
  · obtain ⟨hm, hrequester, haddr⟩ := hasker hm
    rw [List.append_nil, hrequester, haddr]
    exact h.asker hm

/-- A request that is held is in flight. -/
theorem inFlight_ne_none (h : StmTold log g) (hheld : g.uart.currentRequest ≠ none) :
    inFlight log ≠ none := by
  intro hnone
  rw [← h.flight, hnone] at hheld
  exact hheld rfl

/-- Without a request there is no probe. -/
theorem noPing (h : StmTold log g) (hnone : g.uart.currentRequest = none) :
    g.uart.currentIsPing = false := by
  by_contra hping
  exact h.sound.request (h.sound.probe (by simpa using hping)).2 hnone

/-- The request is freed, and the manager is idle. -/
theorem freed (h : StmTold log g) (hheld : g.uart.currentRequest ≠ none) {m : UartManager}
    (hsound : m.Sound) (hrequest : m.currentRequest = none) (hping : m.currentIsPing = false)
    (hactive : m.pingActive = true → g.uart.pingActive = true)
    (hrequester : m.pingRequester = g.uart.pingRequester)
    (haddr : m.pingAddr = g.uart.pingAddr) :
    StmTold (log ++ [.freed]) { g with uart := m } := by
  refine h.next hsound (fun _ => hrequest) hrequest.symm (fun f hf => by cases hf) (fun hm => ?_)
    rfl rfl (inOrder_concat.mpr ⟨h.order, h.inFlight_ne_none hheld⟩)
  rw [pingAsker_append, hrequester, haddr]
  exact h.asker (Or.inl (hactive (hm.resolve_right (by rw [hping]; exact Bool.false_ne_true))))

/-- A verdict for who asked for the test, while its probe is in flight. -/
theorem verdict (h : StmTold log g) (hping : g.uart.currentIsPing = true) {message : List Byte}
    (hmessage : message = stmOk ∨ message = stmFail) :
    StmTold (log ++ [.verdict g.uart.pingRequester (cString g.uart.pingAddr.toList) message])
      { g with uart := { g.uart with pingActive := false } } := by
  obtain ⟨hprobe, hne⟩ := h.sound.probe hping
  obtain ⟨f, hf⟩ := Option.ne_none_iff_exists'.mp (h.inFlight_ne_none (h.sound.request hne))
  have hrequest : f.request ∈ uartProbe := by
    rw [← hprobe, ← h.flight, hf]
    rfl
  refine h.next { h.sound with opened := h.sound.opened } h.idle h.flight h.unwritten (fun hm => ?_)
    rfl rfl (inOrder_concat.mpr ⟨h.order, h.asker (Or.inr hping), hmessage, f, hf, hrequest⟩)
  rw [pingAsker_append]
  exact h.asker (Or.inr hping)

/-! ## The task -/

/-- After a write the task waits, or the request is freed. -/
theorem taskWritten (h : StmTold log g) {written : Bool}
    (hwrite : g.uart.writeResult = some written) (pop : Option ModuleMessage) (malloc result : Bool) :
    StmTold (log ++ (g.manager (.task pop malloc result)).1)
      (g.manager (.task pop malloc result)).2 := by
  have hheld := h.sound.request (h.sound.writing (by rw [hwrite]; simp)).1
  have hstep : uartMachine.step g.uart (.task pop malloc result) =
      ([], uartTaskWritten written g.uart) := by
    simp only [uartMachine, uartTaskEntry, hwrite]
  have hsound : (uartTaskWritten written g.uart).Sound := h.sound.taskWritten hwrite
  rw [manager_of_nil hstep]
  cases written with
  | true =>
    have hmarks : StmGateway.requestMarks g.uart (uartTaskWritten true g.uart) = [] :=
      requestMarks_of_eq rfl fun hnone => absurd hnone hheld
    rw [hmarks, List.append_nil]
    exact h.quiet hsound (fun hidle => by cases hidle) rfl (fun hsending => by cases hsending)
      fun hping => ⟨hping, rfl, rfl⟩
  | false =>
    rw [requestMarks_freed hheld rfl]
    exact h.freed hheld hsound rfl rfl id rfl rfl

/-- A raw request with a payload is written, any other one is freed. -/
theorem uartTaskSending_cases {m : UartManager} {req : ModuleMessage}
    (hreq : m.currentRequest = some req) (hopened : m.uartOpened = true) (written : Bool) :
    uartTaskSending written m = ([], m.reset) ∨ req.isRaw = true ∧ uartTaskSending written m =
      ([.write req.payload], { m with writeResult := some written }) := by
  unfold uartTaskSending
  rw [hreq]
  dsimp only
  rw [if_neg (by rw [hopened]; simp)]
  split
  · exact Or.inl rfl
  · rename_i hsendable
    rw [not_or] at hsendable
    cases req.payloadPtr with
    | none => exact Or.inl rfl
    | some payload => exact Or.inr ⟨by simpa using hsendable.1, rfl⟩

theorem taskSending (h : StmTold log g) (hwrite : g.uart.writeResult = none)
    (hstate : g.uart.state = .sending) (pop : Option ModuleMessage) (malloc written : Bool) :
    StmTold (log ++ (g.manager (.task pop malloc written)).1)
      (g.manager (.task pop malloc written)).2 := by
  have hne : g.uart.state ≠ .idle := by rw [hstate]; simp
  have hheld := h.sound.request hne
  obtain ⟨req, hreq⟩ := Option.ne_none_iff_exists'.mp hheld
  have hstep : uartMachine.step g.uart (.task pop malloc written) =
      uartTaskSending written g.uart := by
    simp only [uartMachine, uartTaskEntry, hwrite, hstate]
  have hsound := h.sound.taskSending hwrite hstate written
  rcases uartTaskSending_cases hreq h.sound.opened written with hreset | ⟨hraw, hwritten⟩
  · rw [manager_of_nil (hstep.trans hreset), requestMarks_freed hheld rfl]
    exact h.freed hheld (h.sound.reset hwrite) rfl rfl id rfl rfl
  obtain ⟨f, hf, hrequest⟩ := Option.map_eq_some_iff.mp (h.flight.trans hreq)
  have hmarks : StmGateway.requestMarks g.uart { g.uart with writeResult := some written } = [] :=
    requestMarks_of_eq rfl fun hnone => absurd hnone hheld
  have hmanager : g.manager (.task pop malloc written) =
      ([.wrote req.payload], { g with uart := { g.uart with writeResult := some written } }) := by
    rw [StmGateway.manager, hstep, hwritten]
    simp only [StmGateway.handOutAll, StmGateway.handOut, andThen, hmarks, List.append_nil]
  rw [hmanager]
  rw [hwritten] at hsound
  refine h.next hsound (fun hidle => absurd hidle hne) ?_ (fun _ _ _ hnone => by cases hnone)
    (fun hping => ?_) rfl rfl (inOrder_concat.mpr ⟨h.order, f, hf, ?_, ?_, ?_⟩)
  · rw [hf]
    exact (congrArg some hrequest).trans hreq.symm
  · rw [pingAsker_append]
    exact h.asker hping
  · exact h.unwritten f hf hstate hwrite
  · rwa [hrequest]
  · rw [hrequest]

/-- The task waits on, or the request is freed; the last probe of a test fails it. -/
theorem taskWaiting (h : StmTold log g) (hwrite : g.uart.writeResult = none)
    (hstate : g.uart.state = .waitingResponse) (pop : Option ModuleMessage)
    (malloc written : Bool) :
    StmTold (log ++ (g.manager (.task pop malloc written)).1)
      (g.manager (.task pop malloc written)).2 := by
  have hne : g.uart.state ≠ .idle := by rw [hstate]; simp
  have hheld := h.sound.request hne
  have hstep : uartMachine.step g.uart (.task pop malloc written) = uartTaskWaiting g.uart := by
    simp only [uartMachine, uartTaskEntry, hwrite, hstate]
  have hsound := h.sound.taskWaiting hwrite
  unfold uartTaskWaiting at hstep hsound
  split_ifs at hstep hsound with hover hlast
  · rw [manager_of_verdict hstep, requestMarks_freed hheld rfl, List.append_cons]
    exact (h.verdict hlast.1 (Or.inr rfl)).freed hheld hsound rfl rfl id rfl rfl
  · rw [manager_of_nil hstep, requestMarks_freed hheld rfl]
    exact h.freed hheld hsound rfl rfl id rfl rfl
  · have hmarks : StmGateway.requestMarks g.uart
        { g.uart with responseTimeoutCounter := g.uart.responseTimeoutCounter + 1 } = [] :=
      requestMarks_of_eq rfl fun hnone => absurd hnone hheld
    rw [manager_of_nil hstep, hmarks, List.append_nil]
    exact h.quiet hsound (fun hidle => absurd hidle hne) rfl
      (fun hsending => by rw [hstate] at hsending; cases hsending) fun hping => ⟨hping, rfl, rfl⟩

/-- A turn of the task in which it sends, waits or ends a transaction. -/
theorem taskBusy (h : StmTold log g)
    (hbusy : ¬ (g.uart.writeResult = none ∧ g.uart.state = .idle)) (malloc written : Bool) :
    StmTold (log ++ (g.manager (.task none malloc written)).1)
      (g.manager (.task none malloc written)).2 := by
  cases hwrite : g.uart.writeResult with
  | some result => exact h.taskWritten hwrite none malloc written
  | none =>
    cases hstate : g.uart.state with
    | idle => exact absurd ⟨hwrite, hstate⟩ hbusy
    | sending => exact h.taskSending hwrite hstate none malloc written
    | waitingResponse => exact h.taskWaiting hwrite hstate none malloc written
    | responseReceived =>
      have hheld := h.sound.request (by rw [hstate]; simp)
      have hstep : uartMachine.step g.uart (.task none malloc written) = ([], g.uart.reset) := by
        simp only [uartMachine, uartTaskEntry, hwrite, hstate]
      rw [manager_of_nil hstep, requestMarks_freed hheld rfl]
      exact h.freed hheld (h.sound.reset hwrite) rfl rfl id rfl rfl

/-- Another queue in order, with the same rows. -/
theorem requests (h : StmTold log g) {d : Device ModuleMessage}
    (hring : d.q.RingOk uartRequestQueueConfig)
    (hrows : d.q.ringRows uartRequestQueueConfig = g.rows) :
    StmTold log { g with requests := d } :=
  { h with ring := hring, moved := by rw [StmGateway.rows, hrows]; exact h.moved }

/-- An idle task without a row makes a probe if a test wants one. -/
theorem taskProbe (h : StmTold log g) (hwrite : g.uart.writeResult = none)
    (hstate : g.uart.state = .idle) (malloc written : Bool) :
    StmTold (log ++ (g.manager (.task none malloc written)).1)
      (g.manager (.task none malloc written)).2 := by
  have hnone := h.idle hstate
  have hlanded : inFlight log = none := by
    rw [← Option.map_eq_none_iff (f := StmFlight.request), h.flight, hnone]
  have hnoPing := h.noPing hnone
  have hstep : uartMachine.step g.uart (.task none malloc written) =
      ([], uartTaskIdle none malloc g.uart) := by
    simp only [uartMachine, uartTaskEntry, hwrite, hstate]
  have hsound := h.sound.taskIdle hwrite hstate none malloc
  rw [manager_of_nil hstep]
  have hsame : StmTold (log ++ StmGateway.requestMarks g.uart g.uart)
      { g with uart := g.uart } := by
    rw [requestMarks_of_eq rfl h.noPing, List.append_nil]
    exact h
  unfold uartTaskIdle at hsound ⊢
  dsimp only at hsound ⊢
  split_ifs at hsound ⊢ with hprobe
  · cases hpm : uartProbe with
    | none => exact hsame
    | some pm =>
      rw [hpm] at hsound
      dsimp only at hsound ⊢
      have hmarks : StmGateway.requestMarks g.uart { g.uart with
          currentRequest := some pm
          currentIsPing := true
          pingAttemptsLeft := g.uart.pingAttemptsLeft - 1
          hasPendingRequest := true
          state := .sending } = [.probed pm] := by
        rw [StmGateway.requestMarks, if_pos hnone, if_pos rfl]
        rfl
      rw [hmarks]
      refine h.next hsound (fun hidle => by cases hidle) rfl (fun f hf _ _ => ?_) (fun _ => ?_) rfl
        rfl (inOrder_concat.mpr ⟨h.order, hlanded, hpm⟩)
      · cases hf
        rfl
      · rw [pingAsker_append]
        exact h.asker (Or.inl hprobe.1)
  · exact hsame

/-- An idle task takes the first row; without memory for it the row is lost. -/
theorem taskTakes (h : StmTold log g) (hwrite : g.uart.writeResult = none)
    (hstate : g.uart.state = .idle) {row : ModuleMessage} {d : Device ModuleMessage}
    (hring : d.q.RingOk uartRequestQueueConfig)
    (hrows : g.rows = row :: d.q.ringRows uartRequestQueueConfig) (malloc written : Bool) :
    StmTold (log ++ (.taken row malloc ::
        (StmGateway.manager (.task (some row) malloc written) { g with requests := d }).1))
      (StmGateway.manager (.task (some row) malloc written) { g with requests := d }).2 := by
  have hnone := h.idle hstate
  have hlanded : inFlight log = none := by
    rw [← Option.map_eq_none_iff (f := StmFlight.request), h.flight, hnone]
  have hnoPing := h.noPing hnone
  have hsound := h.sound.taskIdle hwrite hstate (some row) malloc
  have hstep : uartMachine.step g.uart (.task (some row) malloc written) =
      ([], uartTaskIdle (some row) malloc g.uart) := by
    simp only [uartMachine, uartTaskEntry, hwrite, hstate]
  have hmoved : takenRows (log ++ [.taken row malloc]) ++ d.q.ringRows uartRequestQueueConfig =
      queuedRows (log ++ [.taken row malloc]) := by
    have hold := h.moved
    rw [hrows] at hold
    simpa [takenRows, queuedRows] using hold
  have hfirst : takenRows log ++ [row] <+: queuedRows log :=
    ⟨d.q.ringRows uartRequestQueueConfig, by rw [← h.moved, hrows, List.append_assoc]; rfl⟩
  have horder : InOrder StmGood (log ++ [.taken row malloc]) :=
    inOrder_concat.mpr ⟨h.order, hlanded, hfirst⟩
  rw [manager_of_nil (g := { g with requests := d }) hstep]
  cases malloc with
  | true =>
    have hmarks : StmGateway.requestMarks g.uart (uartTaskIdle (some row) true g.uart) = [] := by
      rw [StmGateway.requestMarks, if_pos hnone]
      rfl
    dsimp only
    rw [hmarks]
    refine ⟨hsound, fun hidle => (by cases hidle), hring, ?_, fun f hf _ _ => ?_, fun hping => ?_,
      hmoved, h.shared, horder⟩
    · rw [inFlight_append]
      rfl
    · rw [inFlight_append] at hf
      cases hf
      rfl
    · rw [pingAsker_append]
      exact h.asker (Or.inl (hping.resolve_right Bool.false_ne_true))
  | false =>
    have hmarks : StmGateway.requestMarks g.uart (uartTaskIdle (some row) false g.uart) = [] := by
      rw [StmGateway.requestMarks, if_pos hnone]
      exact if_neg (by change ¬ g.uart.currentIsPing = true; rw [hnoPing]; exact Bool.false_ne_true)
    dsimp only
    rw [hmarks]
    refine ⟨hsound, fun _ => rfl, hring, ?_, fun f hf => ?_, fun hping => ?_, hmoved, h.shared,
      horder⟩
    · rw [inFlight_append, hlanded]
      rfl
    · rw [inFlight_append, hlanded] at hf
      cases hf
    · rw [pingAsker_append]
      exact h.asker hping

/-- A turn of the task. -/
theorem task (h : StmTold log g) (malloc written : Bool) :
    StmTold (log ++ (g.task malloc written).1) (g.task malloc written).2 := by
  unfold StmGateway.task StmGateway.popRequest
  by_cases hidle : g.uart.writeResult = none ∧ g.uart.state = .idle
  · rw [if_pos hidle]
    have hfile : queueHasFile uartRequestQueueConfig = false := rfl
    obtain ⟨hreply, hring, hrows⟩ := queuePop_bounded hfile h.ring 1
    generalize queuePop uartRequestQueueConfig g.requests 1 = p at hreply hring hrows
    obtain ⟨⟨result, popped⟩, d⟩ := p
    cases hwaiting : g.rows with
    | nil =>
      rw [StmGateway.rows] at hwaiting
      rw [hwaiting] at hreply hrows
      obtain ⟨rfl, rfl⟩ := Prod.mk.inj hreply
      have hnext := (h.requests hring (by rw [StmGateway.rows, hwaiting, hrows]; rfl)).taskProbe
        hidle.1 hidle.2 malloc written
      exact hnext
    | cons row rest =>
      rw [StmGateway.rows] at hwaiting
      rw [hwaiting] at hreply hrows
      obtain ⟨rfl, rfl⟩ := Prod.mk.inj hreply
      exact h.taskTakes hidle.1 hidle.2 hring
        (by rw [StmGateway.rows, hwaiting]; exact congrArg (row :: ·) hrows.symm) malloc written
  · rw [if_neg hidle]
    exact h.taskBusy hidle malloc written

/-! ## Frames -/

/-- A row that the queue has room for waits behind the others. -/
theorem push (h : StmTold log g) (row : ModuleMessage) (asker : Option ModuleMessage)
    (hgood : StmGood log (.queued row asker)) :
    StmTold (log ++ if (queuePush uartRequestQueueConfig g.requests row).1 = .success then
        [.queued row asker] else [])
      { g with requests := (queuePush uartRequestQueueConfig g.requests row).2 } := by
  have hfile : queueHasFile uartRequestQueueConfig = false := rfl
  obtain ⟨hresult, hring, hrows⟩ := queuePush_bounded hfile h.ring row
  rw [hresult]
  unfold boundedPush at hrows ⊢
  split_ifs at hrows ⊢ with hfull hsuccess hsuccess
  · cases hsuccess
  · rw [List.append_nil]
    exact h.requests hring hrows
  · refine ⟨h.sound, h.idle, hring, ?_, ?_, ?_, ?_, h.shared,
      inOrder_concat.mpr ⟨h.order, hgood⟩⟩
    · rw [inFlight_append]
      exact h.flight
    · rw [inFlight_append]
      exact h.unwritten
    · rw [pingAsker_append]
      exact h.asker
    · rw [StmGateway.rows, hrows, takenRows_append, queuedRows_append, ← h.moved, StmGateway.rows]
      simp [takenRows, queuedRows]
  · exact absurd rfl hsuccess

/-- What is made of a frame goes to who asked, as the log tells. -/
theorem answered (h : StmTold log g) {origin : ModuleId} {address frame : List Byte}
    (request : Option ModuleMessage)
    (hasked : ∀ f, inFlight log = some f → origin = f.request.sourceModule ∧
      address = cString f.request.address.toList ∧
      (f.request.isRaw = true → stmFrameCmd frame = replyCmd f.request))
    (hunasked : inFlight log = none → origin = .ble) {addressField : CArray 64}
    (haddress : cString addressField.toList = address) :
    StmTold (log ++ (g.handOut request (.reply origin addressField frame)).1)
      (g.handOut request (.reply origin addressField frame)).2 := by
  unfold StmGateway.handOut
  dsimp only
  rw [haddress]
  have hanswered : Answered g.shared.length (uartAnswer origin request frame g.shared) :=
    answered_uartAnswer (by rw [h.shared]; decide) origin request frame
  generalize uartAnswer origin request frame g.shared = r at hanswered
  have hnext : StmTold (log ++ [.answered origin address frame r.1]) { g with shared := r.2 } := by
    have hsame : StmTold (log ++ [.answered origin address frame r.1]) { g with uart := g.uart } :=
      h.next h.sound h.idle h.flight h.unwritten (by rw [pingAsker_append]; exact h.asker) rfl rfl
        (inOrder_concat.mpr ⟨h.order, hasked, hunasked, h.shared ▸ hanswered.fits⟩)
    exact { hsame with shared := hanswered.length.trans h.shared }
  refine keeps_andThen hnext fun log' g' h' => ?_
  cases r.1 with
  | none => cases origin <;> (rw [List.append_nil]; exact h')
  | some answer =>
    cases origin with
    | uart => exact h'.push _ none (by cases answer <;> rfl)
    | _ => rw [List.append_nil]; exact h'

/-- What a frame comes to: the verdict of a test, a reply, or nothing. A request that is held is
taken for answered. -/
theorem uartFrameReceived_cases {m : UartManager} (hm : m.Sound)
    (hidle : m.state = .idle → m.currentRequest = none) (frame : List Byte) :
    (m.currentIsPing = true ∧
      (uartFrameReceived frame m = ([.verdict m.pingRequester m.pingAddr stmOk],
          { m with pingActive := false, state := .responseReceived }) ∨
        uartFrameReceived frame m = ([], { m with state := .responseReceived }))) ∨
    (∃ req, m.currentRequest = some req ∧
      (uartFrameReceived frame m = ([], { m with state := .responseReceived }) ∨
        (req.isRaw = true → stmFrameCmd frame = replyCmd req) ∧
          uartFrameReceived frame m = ([.reply req.sourceModule req.address frame],
            { m with state := .responseReceived }))) ∨
    (m.currentRequest = none ∧ uartFrameReceived frame m =
      ([.reply .ble (CArray.ofList 64 (asciiBytes "STM")) frame], m)) := by
  have hreceived {os : List UartOutput} {m' : UartManager}
      (hdispatch : uartDispatchBinaryFrame frame m = (os, m'))
      (hpending : m'.hasPendingRequest = true) :
      uartFrameReceived frame m = (os, { m' with state := .responseReceived }) := by
    rw [uartFrameReceived, hdispatch]
    exact if_pos hpending
  by_cases hping : m.currentIsPing = true
  · have hpending := hm.pending.mpr (hm.probe hping).2
    refine Or.inl ⟨hping, ?_⟩
    by_cases hreply : stmFrameCmd frame = stmCmdGetDevInfo ||| stmCmdRespBit
    · have hdispatch : uartDispatchBinaryFrame frame m =
          ([.verdict m.pingRequester m.pingAddr stmOk], { m with pingActive := false }) := by
        rw [uartDispatchBinaryFrame, if_pos hping, if_pos hreply]
      exact Or.inl (hreceived hdispatch hpending)
    · have hdispatch : uartDispatchBinaryFrame frame m = ([], m) := by
        rw [uartDispatchBinaryFrame, if_pos hping, if_neg hreply]
      exact Or.inr (hreceived hdispatch hpending)
  rcases Option.eq_none_or_eq_some m.currentRequest with hreq | ⟨req, hreq⟩
  · have hpending : ¬ m.hasPendingRequest = true := fun hpending =>
      hm.request (hm.pending.mp hpending) hreq
    refine Or.inr (Or.inr ⟨hreq, ?_⟩)
    have hdispatch : uartDispatchBinaryFrame frame m =
        ([.reply .ble (CArray.ofList 64 (asciiBytes "STM")) frame], m) := by
      simp only [uartDispatchBinaryFrame, if_neg hping, hreq]
    rw [uartFrameReceived, hdispatch]
    exact if_neg hpending
  · have hpending : m.hasPendingRequest = true := by
      refine hm.pending.mpr fun hstate => ?_
      rw [hidle hstate] at hreq
      cases hreq
    refine Or.inr (Or.inl ⟨req, hreq, ?_⟩)
    by_cases hstale : req.isRaw = true ∧ stmFrameCmd frame ≠ uartRequestCmd req ||| stmCmdRespBit
    · have hdispatch : uartDispatchBinaryFrame frame m = ([], m) := by
        simp only [uartDispatchBinaryFrame, if_neg hping, hreq, if_pos hstale]
      exact Or.inl (hreceived hdispatch hpending)
    · have hdispatch : uartDispatchBinaryFrame frame m =
          ([.reply req.sourceModule req.address frame], m) := by
        simp only [uartDispatchBinaryFrame, if_neg hping, hreq, if_neg hstale]
      exact Or.inr ⟨fun hraw => by_contra fun hne => hstale ⟨hraw, hne⟩,
        hreceived hdispatch hpending⟩

/-- A frame is received. -/
theorem frame (h : StmTold log g) (frame : List Byte) :
    StmTold (log ++ (g.manager (.frame frame)).1) (g.manager (.frame frame)).2 := by
  have hsound := h.sound.frameReceived frame
  have hstep : uartMachine.step g.uart (.frame frame) = uartFrameReceived frame g.uart := rfl
  have hheld (hping : g.uart.currentIsPing = true) : g.uart.currentRequest ≠ none :=
    h.sound.request (h.sound.probe hping).2
  have hreceived : g.uart.currentRequest ≠ none →
      StmGateway.requestMarks g.uart { g.uart with state := .responseReceived } = [] :=
    fun hne => requestMarks_of_eq rfl fun hnone => absurd hnone hne
  rcases uartFrameReceived_cases h.sound h.idle frame with ⟨hping, hverdict | hother⟩ |
    ⟨req, hreq, hstale | ⟨hmatch, hreply⟩⟩ | ⟨hnone, hreply⟩
  · have hmarks : StmGateway.requestMarks g.uart
        { g.uart with pingActive := false, state := .responseReceived } = [] :=
      requestMarks_of_eq rfl fun hnone => absurd hnone (hheld hping)
    rw [manager_of_verdict (hstep.trans hverdict), hmarks]
    rw [hverdict] at hsound
    exact (h.verdict hping (Or.inl rfl)).quiet hsound (fun hidle => by cases hidle) rfl
      (fun hsending => by cases hsending) fun hasker => ⟨hasker, rfl, rfl⟩
  · rw [manager_of_nil (hstep.trans hother), hreceived (hheld hping), List.append_nil]
    rw [hother] at hsound
    exact h.quiet hsound (fun hidle => by cases hidle) rfl (fun hsending => by cases hsending)
      fun hasker => ⟨hasker, rfl, rfl⟩
  · rw [manager_of_nil (hstep.trans hstale), hreceived (by rw [hreq]; simp), List.append_nil]
    rw [hstale] at hsound
    exact h.quiet hsound (fun hidle => by cases hidle) rfl (fun hsending => by cases hsending)
      fun hasker => ⟨hasker, rfl, rfl⟩
  · rw [manager_of_reply (hstep.trans hreply) (hreceived (by rw [hreq]; simp))]
    rw [hreply] at hsound
    have hnext : StmTold log { g with uart := { g.uart with state := .responseReceived } } :=
      h.quiet hsound (fun hidle => by cases hidle) rfl (fun hsending => by cases hsending)
        fun hasker => ⟨hasker, rfl, rfl⟩
    refine hnext.answered _ (fun f hf => ?_) (fun hf => ?_) rfl
    · have hrequest := h.flight.trans hreq
      rw [hf] at hrequest
      cases hrequest
      exact ⟨rfl, rfl, hmatch⟩
    · have hrequest := h.flight.trans hreq
      rw [hf] at hrequest
      cases hrequest
  · rw [manager_of_reply (hstep.trans hreply) (requestMarks_of_eq rfl h.noPing)]
    refine h.answered _ (fun f hf => ?_) (fun _ => rfl) rfl
    have hrequest := h.flight.trans hnone
    rw [hf] at hrequest
    cases hrequest

/-! ## The other tasks -/

/-- A restart is saved behind the request for it. -/
theorem saved (h : StmTold log g) {row request : ModuleMessage}
    (hlast : log.getLast? = some (.queued row (some request))) (source : List Byte) :
    StmTold (log ++ [.saved source]) g :=
  h.next h.sound h.idle h.flight h.unwritten (by rw [pingAsker_append]; exact h.asker) rfl rfl
    (inOrder_concat.mpr ⟨h.order, row, request, hlast⟩)

/-- A request for the STM that finds room is one that names its asker, and a restart is saved right
behind it. -/
theorem checkStmPrefix (h : StmTold log g) (request : ModuleMessage) :
    StmTold (log ++ (g.checkStmPrefix request).1) (g.checkStmPrefix request).2 := by
  unfold StmGateway.checkStmPrefix cmdStateHandleCheckStmPrefix
  rw [if_neg (by simp)]
  cases hrow : stmUartRequest request with
  | none =>
    dsimp only
    rw [Option.toList_none, List.map_nil, Option.toList_none, List.map_nil, List.append_nil,
      List.append_nil]
    exact h
  | some row =>
    have hpush := h.push row (some request) (stmUartRequest_asksFor hrow)
    dsimp only [uartManagerSendRequest]
    by_cases hsuccess : (queuePush uartRequestQueueConfig g.requests row).1 = .success
    · rw [if_pos hsuccess] at hpush ⊢
      rw [if_pos rfl]
      dsimp only
      split
      · rw [← List.append_assoc]
        exact hpush.saved List.getLast?_concat _
      · rw [Option.toList_none, List.map_nil, List.append_nil]
        exact hpush
    · rw [if_neg hsuccess] at hpush ⊢
      rw [if_neg (by simp)]
      exact hpush

/-- A ping test is asked for. -/
theorem startPingTest (h : StmTold log g) (requester : ModuleId) (address : List Byte) :
    StmTold (log ++ (g.startPingTest requester address).1)
      (g.startPingTest requester address).2 := by
  have hsound := h.sound.startPing true requester address
  unfold StmGateway.startPingTest
  unfold uartManagerStartPingTest at hsound ⊢
  rw [if_neg (by simp)] at hsound ⊢
  split_ifs at hsound ⊢ with hactive
  · exact h.next hsound h.idle h.flight h.unwritten (fun hm => by
      rw [pingAsker_append]
      exact h.asker hm) rfl rfl (inOrder_concat.mpr ⟨h.order, trivial⟩)
  · exact h.next hsound h.idle h.flight h.unwritten (fun _ => by rw [pingAsker_append]; rfl) rfl rfl
      (inOrder_concat.mpr ⟨h.order, trivial⟩)

/-- A chunk is buffered. -/
theorem buffered (h : StmTold log g) (c : RxChunk) :
    StmTold (log ++ (g.manager (.buffered c)).1) (g.manager (.buffered c)).2 := by
  have hmarks : StmGateway.requestMarks g.uart
      { g.uart with rx := (uartRxCallback c g.uart.rx).2 } = [] :=
    requestMarks_of_eq rfl h.noPing
  have hmanager : g.manager (.buffered c) =
      ([], { g with uart := { g.uart with rx := (uartRxCallback c g.uart.rx).2 } }) := by
    rw [← hmarks]
    exact manager_of_nil rfl
  rw [hmanager, List.append_nil]
  exact h.quiet (h.sound.step (.buffered c)) h.idle rfl (fun hs hw => ⟨hs, hw⟩)
    fun hasker => ⟨hasker, rfl, rfl⟩

/-- Every step keeps what the log tells. -/
theorem step (h : StmTold log g) (op : StmOp) :
    StmTold (log ++ (stmMachine.step g op).1) (stmMachine.step g op).2 := by
  cases op with
  | command request => exact h.checkStmPrefix request
  | pingTest requester address => exact h.startPingTest requester address
  | task malloc written => exact h.task malloc written
  | received c => exact h.buffered c
  | frame frame => exact h.frame frame

end StmTold

end Steps

/-! ## Runs -/

section Asked

variable {log : List StmOutput}

end Asked

end WalnutGateway
