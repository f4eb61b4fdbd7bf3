import WalnutGateway.Common.Text
import WalnutGateway.Core.Machine

/-!
# HTTPS requests

The adapter configures a session of the kernel client, starts the action on it and waits for
the event that the kernel posts when the action is done. The events of all actions come in
through one queue, and every request uses the same session.
-/

namespace WalnutGateway

/-- `HTTPS_RESP_BUF_SIZE`. -/
def httpsRespBufSize : Nat := 4096

/-- `HTTPS_EVENT_WAIT_MS`. -/
def httpsEventWaitMs : UInt32 := 60000

/-- `HTTPS_REQUEST_SESSION`. -/
def httpsRequestSession : UInt16 := 0

/-- `WM_SDK_HTTPS_EVT_ACTION_DONE`. -/
def httpsEvtActionDone : UInt16 := 0

/-- `wm_SdkHttpsEvent`, as far as the adapter reads it. -/
structure HttpsEvent where
  type : UInt16
  sslIndex : UInt16
  /-- `WM_SDK_RESULT_SUCCESS`. -/
  success : Bool
  httpCode : Int
  /-- The accepted action that the event reports; the adapter does not see it. -/
  action : Option Nat
  deriving DecidableEq

/-- The event that ends the wait. -/
def HttpsEvent.ends (ev : HttpsEvent) : Bool :=
  ev.type = httpsEvtActionDone ∧ ev.sslIndex = httpsRequestSession

/-- The exchange worked and the server answered with a 2xx code. -/
def HttpsEvent.good (ev : HttpsEvent) : Bool := ev.success ∧ 200 ≤ ev.httpCode ∧ ev.httpCode < 300

/-- The arguments of a request; `respBufSize` is 0 where there is no buffer. -/
structure HttpsRequest where
  method : Int
  url : Option (List Byte)
  payload : Option (List Byte)
  contentType : Option (List Byte)
  respBufSize : Nat

/-- `SDK_HTTPS_METHOD_GET`. -/
def sdkHttpsMethodGet : Int := 0

/-- `SDK_HTTPS_METHOD_POST`. -/
def sdkHttpsMethodPost : Int := 1

/-- Where `sdk_walnut_https_request_impl` is. -/
inductive HttpsPc
  | idle
  | init
  | configureSsl
  | setParams
  | setHeader
  | setContentType
  | setData
  | action
  /-- At the head of the loop of `https_wait_action_event`. -/
  | wait (waitedMs : UInt32)
  /-- In `wm_sdk_msgq_recv`, entered at the time `since`. -/
  | recv (waitedMs : UInt32) (since : Nat)
  | read
  | finish
  deriving DecidableEq

/-- The adapter, and the client and the queue of the kernel. -/
structure Https where
  pc : HttpsPc
  request : HttpsRequest
  /-- `g_https_evt_msgq` is there. -/
  created : Bool
  initialized : Bool
  respBuf : List Byte
  respLen : Nat
  queue : List HttpsEvent
  /-- The action that the kernel runs. -/
  inFlight : Option Nat
  /-- The number of the next action that is accepted. -/
  nextAction : Nat
  time : Nat

/-- What the kernel answers to a step. -/
structure HttpsEnv where
  /-- The queue could be created. -/
  created : Bool
  /-- The call succeeds, where no request in flight prevents it. -/
  accepted : Bool
  /-- The next piece of the body. -/
  piece : Option (List Byte)

/-- A call, its steps, and what the kernel does. -/
inductive HttpsInput
  | call (request : HttpsRequest)
  | task (env : HttpsEnv)
  /-- The action in flight is done. -/
  | complete (success : Bool) (httpCode : Int)
  /-- Another event is posted. -/
  | post (type sslIndex : UInt16) (success : Bool) (httpCode : Int)
  | wait (ms : Nat)

/-- What is seen of a step. -/
inductive HttpsOutput
  | none
  | failed
  /-- The call returns 1, with this in its buffer and this length. -/
  | done (body : List Byte) (length : Nat)
  deriving DecidableEq

namespace Https

/-- Before the first call. -/
def boot : Https where
  pc := .idle
  request := ⟨0, none, none, none, 0⟩
  created := false
  initialized := false
  respBuf := []
  respLen := 0
  queue := []
  inFlight := none
  nextAction := 0
  time := 0

/-- `sdk_walnut_https_request_impl` up to the first call of the kernel. -/
def start (request : HttpsRequest) (h : Https) : HttpsOutput × Https :=
  if request.url.elim [] cString = [] then (.failed, h)
  else if request.method = sdkHttpsMethodPost ∧ request.payload.elim [] cString = [] then
    (.failed, h)
  else if request.method ≠ sdkHttpsMethodGet ∧ request.method ≠ sdkHttpsMethodPost then
    (.failed, h)
  else (.none, { h with
    pc := .init
    request := { request with
      contentType := some (request.contentType.getD (asciiBytes
        (if request.method = sdkHttpsMethodPost then "application/json" else "*/*"))) } })

/-- `https_request_abort`, and the return. -/
def requestAbort (h : Https) : HttpsOutput × Https :=
  (.failed, { h with pc := .idle, initialized := false })

/-- `https_client_init_async`. -/
def clientInitAsync (env : HttpsEnv) (h : Https) : Bool × Https :=
  if ¬ h.created ∧ ¬ env.created then (false, h)
  else (env.accepted ∧ h.inFlight = none, { h with created := true })

/-- A call of the kernel that must succeed for the request to go on. -/
def mustAccept (env : HttpsEnv) (next : HttpsPc) (h : Https) : HttpsOutput × Https :=
  if env.accepted then (.none, { h with pc := next }) else h.requestAbort

/-- `wm_sdk_https_action`, the buffer being cleared before it. -/
def action (env : HttpsEnv) (h : Https) : HttpsOutput × Https :=
  let cleared := { h with respBuf := [], respLen := 0 }
  if env.accepted then
    (.none, { cleared with
      pc := .wait 0
      inFlight := some h.nextAction
      nextAction := h.nextAction + 1 })
  else cleared.requestAbort

/-- `wm_sdk_msgq_recv` and the turn of the loop of `https_wait_action_event` after it. -/
def recv (waitedMs : UInt32) (since : Nat) (h : Https) : HttpsOutput × Https :=
  match h.queue with
  | [] =>
    if (httpsEventWaitMs - waitedMs).toNat ≤ h.time - since then h.requestAbort else (.none, h)
  | ev :: queue =>
    let taken := { h with queue := queue }
    if ev.ends then
      if ev.good then (.none, { taken with pc := .read }) else taken.requestAbort
    else (.none, { taken with
      pc := .wait (waitedMs + (UInt32.ofNat h.time - UInt32.ofNat since)) })

/-- A turn of the loop that drains the body. -/
def read (env : HttpsEnv) (h : Https) : HttpsOutput × Https :=
  if h.respBuf.length < httpsRespBufSize - 1 then
    match env.piece with
    | none => { h with respLen := 0 }.requestAbort
    | some piece =>
      let n := piece.take (httpsRespBufSize - 1 - h.respBuf.length)
      if n = [] then (.none, { h with pc := .finish })
      else (.none, { h with respBuf := h.respBuf ++ n })
  else (.none, { h with pc := .finish })

/-- The end of `sdk_walnut_https_request_impl`. -/
def finish (h : Https) : HttpsOutput × Https :=
  let length := h.respBuf.length
  let copyLen := if length < h.request.respBufSize then length else h.request.respBufSize - 1
  let output :=
    if 0 < h.request.respBufSize ∧ 0 < length then
      HttpsOutput.done (h.respBuf.take copyLen) copyLen
    else .done [] length
  (output, { h with pc := .idle, respLen := length, initialized := false })

/-- The next step of `sdk_walnut_https_request_impl`. -/
def requestImpl (env : HttpsEnv) (h : Https) : HttpsOutput × Https :=
  match h.pc with
  | .idle => (.none, h)
  | .init =>
    let ready := h.clientInitAsync env
    if ready.1 then (.none, { ready.2 with pc := .configureSsl, initialized := true })
    else (.failed, { ready.2 with pc := .idle })
  | .configureSsl => h.mustAccept env .setParams
  | .setParams => h.mustAccept env .setHeader
  | .setHeader => h.mustAccept env
    (if h.request.method = sdkHttpsMethodPost then .setContentType else .action)
  | .setContentType => (.none, { h with pc := .setData })
  | .setData => h.mustAccept env .action
  | .action => h.action env
  | .wait waitedMs =>
    if waitedMs < httpsEventWaitMs then (.none, { h with pc := .recv waitedMs h.time })
    else h.requestAbort
  | .recv waitedMs since => h.recv waitedMs since
  | .read => h.read env
  | .finish => h.finish

/-- The kernel reports the action it ran. -/
def complete (success : Bool) (httpCode : Int) (h : Https) : Https :=
  match h.inFlight with
  | some n =>
    { h with
      inFlight := none
      queue := h.queue ++ [⟨httpsEvtActionDone, httpsRequestSession, success, httpCode, some n⟩] }
  | none => h

/-- The kernel posts something else. -/
def post (ev : HttpsEvent) (h : Https) : Https :=
  if ev.ends then h else { h with queue := h.queue ++ [ev] }

end Https

/-- The adapter and the kernel under the calls of one task. -/
def httpsMachine : Machine Https HttpsInput HttpsOutput where
  step h i :=
    match i with
    | .call request => if h.pc = .idle then h.start request else (.none, h)
    | .task env => h.requestImpl env
    | .complete success httpCode => (.none, h.complete success httpCode)
    | .post type sslIndex success httpCode =>
      (.none, h.post ⟨type, sslIndex, success, httpCode, none⟩)
    | .wait ms => (.none, { h with time := h.time + ms })

end WalnutGateway
