import WalnutGateway.Common.Text
import WalnutGateway.Common.Utils
import WalnutGateway.Queue.Bounded

/-!
# Inbound SMS

The kernel posts the notifications of inbound messages and the results of reads and deletes to
one queue, `g_temp_msg_queue`. Whatever the SMS task takes from it that is no result it waits
for, it parks in the module's `urc_q`, a ring without an overflow file; at the end of its cycle
it hands what is parked to `sms_process_urc`, which may read and delete, and so flush again.
-/

namespace WalnutGateway

/-- `SMS_MANAGER_QUEUE_SIZE`. -/
def smsManagerQueueSize : Nat := 16

/-- The capacity of `SMS_URC_Q`. -/
def smsUrcQCapacity : Nat := 5

/-- `SMS_URC_TEXT_MAX`. -/
def smsUrcTextMax : Nat := 256

/-- `SMS_PURGE_MAX_INDEX`. -/
def smsPurgeMaxIndex : Nat := 60

/-- `wm_SdkSmsEventType`. -/
inductive SmsEventType
  | incoming
  | readResult
  | deleteResult
  deriving DecidableEq, Repr

/-- `wm_SdkSmsMessage`. -/
structure SmsMessage where
  type : SmsEventType
  status : Int
  index : Int
  text : Option (List Byte)
  /-- The read request that the kernel answers; the struct does not say. -/
  answers : Option Nat
  deriving DecidableEq

/-- `sms_urc_queued_t`. -/
structure SmsUrcQueued where
  hdr : SmsMessage
  arg3Inline : CArray smsUrcTextMax
  deriving DecidableEq

/-- The element that `sms_park_incoming` queues. -/
def SmsMessage.queued (msg : SmsMessage) : SmsUrcQueued where
  hdr := { msg with text := none }
  arg3Inline := utilsStrncpySafe smsUrcTextMax (msg.text.getD [])

/-- The text is a `+CMGR` response. -/
def hasCmgr (text : List Byte) : Bool := (strstr (asciiBytes "+CMGR:") (cString text)).isSome

/-- A result that `sms_read_message` parses. -/
def SmsMessage.parses (msg : SmsMessage) : Bool :=
  match msg.type, msg.text with
  | .readResult, some text => hasCmgr text
  | _, _ => false

/-- What the SMS task does after `sms_flush_temp_queue`. -/
inductive SmsNext
  /-- The sequence of `sms_configure`. -/
  | setUp
  /-- The delete in the loop of `sms_purge_store`. -/
  | sweep (index deleted used total : Nat)
  /-- The loop over `urc_q`. -/
  | urc
  /-- `wm_sdk_sms_read`. -/
  | read (index : Int)
  /-- `sms_manager_delete`, as nothing was read. -/
  | discard (index : Int)
  /-- `wm_sdk_sms_delete` of `sms_manager_delete`. -/
  | delete (index : Int)
  /-- `wm_sdk_sms_send`. -/
  | send
  deriving DecidableEq, Repr

/-- Where the SMS task is. -/
inductive SmsPlace
  /-- Before `sms_configure`. -/
  | configure
  /-- Before `sms_flush_temp_queue`. -/
  | flush (next : SmsNext)
  /-- The loop of `sms_flush_temp_queue`. -/
  | drain (msgcount : Nat) (next : SmsNext)
  | after (next : SmsNext)
  /-- The loop of `sms_purge_store`. -/
  | purge (index deleted used total : Nat)
  /-- The loop that waits for the result of a read. -/
  | wait (index : Int)
  /-- Before `msg_q` is popped. -/
  | message
  deriving DecidableEq, Repr

/-- The two queues, and the task's place. -/
structure SmsTask where
  /-- `g_temp_msg_queue`. -/
  tempMsgQueue : List SmsMessage
  urcQ : List SmsUrcQueued
  place : SmsPlace
  deriving DecidableEq

/-- What a step of the task finds. -/
structure SmsTaskEnv where
  /-- `sms_configure` gets to its sequence. -/
  configures : Bool
  /-- The used and all slots of the store, where the sequence sweeps it. -/
  store : Option (Nat × Nat)
  /-- `wm_sdk_sms_msgq_poll` succeeds. -/
  polled : Bool
  /-- The SDK accepts the read or the delete. -/
  accepted : Bool
  /-- There is a message to send. -/
  sends : Bool

/-- What is seen of a step. -/
inductive SmsOutput
  | none
  /-- `sms_process_urc` is called. -/
  | processed (urc : SmsUrcQueued)
  /-- `wm_sdk_sms_read` accepts a request. -/
  | requested
  /-- `sms_read_message` parses a result. -/
  | parsed (msg : SmsMessage)
  deriving DecidableEq

namespace SmsTask

/-- `sms_park_incoming`. -/
def parkIncoming (msg : SmsMessage) (t : SmsTask) : SmsTask :=
  if msg.type ≠ .incoming then t
  else { t with urcQ := (boundedPush smsUrcQCapacity t.urcQ msg.queued).2 }

/-- `sms_purge_store`, once the store is known. -/
def purgeStore (used total : Nat) (t : SmsTask) : SmsTask :=
  if used = 0 then { t with place := .flush .urc }
  else if total = 0 ∨ total > smsPurgeMaxIndex then
    { t with place := .purge 1 0 used smsPurgeMaxIndex }
  else { t with place := .purge 1 0 used total }

/-- A step of the loop of `sms_flush_temp_queue`. -/
def drain (msgcount : Nat) (next : SmsNext) (t : SmsTask) : SmsTask :=
  match msgcount, t.tempMsgQueue with
  | 0, _ => { t with place := .after next }
  | _ + 1, [] => { t with place := .after next }
  | n + 1, msg :: rest =>
    parkIncoming msg { t with tempMsgQueue := rest, place := .drain n next }

/-- `sms_process_urc`, as far as what it reads and deletes. -/
def processUrc (urc : SmsUrcQueued) (t : SmsTask) : SmsTask :=
  if urc.hdr.index ≤ 0 then t
  else if hasCmgr urc.arg3Inline.toList then { t with place := .flush (.delete urc.hdr.index) }
  else { t with place := .flush (.read urc.hdr.index) }

/-- A turn of the loop over `urc_q`. -/
def popUrc (t : SmsTask) : SmsOutput × SmsTask :=
  match t.urcQ with
  | [] => (.none, { t with place := .message })
  | urc :: rest =>
    if urc.hdr.type = .incoming then (.processed urc, processUrc urc { t with urcQ := rest })
    else (.none, { t with urcQ := rest })

/-- The end of `sms_read_message` with a result. -/
def readResult (index : Int) (msg : SmsMessage) (t : SmsTask) : SmsOutput × SmsTask :=
  match msg.text with
  | none => (.none, { t with place := .flush (.delete index) })
  | some text =>
    if hasCmgr text then (.parsed msg, { t with place := .flush (.delete index) })
    else (.none, { t with place := .flush (.discard index) })

/-- A turn of the loop that waits; with no message the time runs out. -/
def waitResult (index : Int) (t : SmsTask) : SmsOutput × SmsTask :=
  match t.tempMsgQueue with
  | [] => (.none, { t with place := .flush (.delete index) })
  | msg :: rest =>
    if msg.type = .readResult then readResult index msg { t with tempMsgQueue := rest }
    else (.none, parkIncoming msg { t with tempMsgQueue := rest })

/-- The step after a flush. -/
def goOn (env : SmsTaskEnv) (t : SmsTask) : SmsNext → SmsOutput × SmsTask
  | .setUp =>
    match env.store with
    | none => (.none, { t with place := .flush .urc })
    | some (used, total) => (.none, t.purgeStore used total)
  | .sweep index deleted used total =>
    (.none, { t with place := .purge (index + 1) (deleted + env.accepted.toNat) used total })
  | .urc => t.popUrc
  | .read index =>
    if env.accepted then (.requested, { t with place := .wait index })
    else (.none, { t with place := .flush (.delete index) })
  | .discard index => (.none, { t with place := .flush (.delete index) })
  | .delete _ => (.none, { t with place := .after .urc })
  | .send => (.none, { t with place := .configure })

/-- The next step of `sms_send_task`. -/
def smsSendTask (env : SmsTaskEnv) (t : SmsTask) : SmsOutput × SmsTask :=
  match t.place with
  | .configure => (.none, { t with place := .flush (if env.configures then .setUp else .urc) })
  | .flush next =>
    if env.polled ∧ t.tempMsgQueue ≠ [] then
      (.none, { t with place := .drain t.tempMsgQueue.length next })
    else (.none, { t with place := .after next })
  | .drain msgcount next => (.none, t.drain msgcount next)
  | .after next => t.goOn env next
  | .purge index deleted used total =>
    if index ≤ total ∧ deleted < used then
      (.none, { t with place := .flush (.sweep index deleted used total) })
    else (.none, { t with place := .flush .urc })
  | .wait index => t.waitResult index
  | .message => (.none, { t with place := if env.sends then .flush .send else .configure })

end SmsTask

/-! ## The kernel -/

/-- The task and the kernel, with what went through the queues. -/
structure SmsInbound where
  task : SmsTask
  /-- How many reads were requested. -/
  requests : Nat
  /-- The latest of them. -/
  current : Nat
  /-- Those that the kernel has not answered. -/
  unanswered : List Nat
  /-- The notifications that were posted. -/
  arrived : List SmsMessage
  /-- What was handed to `sms_process_urc`. -/
  processed : List SmsUrcQueued
  /-- Of each text that was parsed, the request and the one that the kernel answered. -/
  parsed : List (Nat × Option Nat)

/-- A step of the task, or a post of the kernel. -/
inductive SmsInboundEvent
  | task (env : SmsTaskEnv)
  | incoming (status index : Int) (text : Option (List Byte))
  /-- The result of a request that is not answered yet. -/
  | readResult (request : Nat) (status index : Int) (text : Option (List Byte))
  | deleteResult (status index : Int)

namespace SmsInbound

/-- Before the first cycle. -/
def boot : SmsInbound where
  task := ⟨[], [], .configure⟩
  requests := 0
  current := 0
  unanswered := []
  arrived := []
  processed := []
  parsed := []

/-- A post; the kernel's queue takes no message when it is full. -/
def post (msg : SmsMessage) (r : SmsInbound) : SmsInbound :=
  if smsManagerQueueSize ≤ r.task.tempMsgQueue.length then r
  else
    { r with
      task := { r.task with tempMsgQueue := r.task.tempMsgQueue ++ [msg] }
      arrived := if msg.type = .incoming then r.arrived ++ [msg] else r.arrived }

/-- What a step of the task adds to the record. -/
def record (r : SmsInbound) : SmsOutput × SmsTask → SmsInbound
  | (.none, task) => { r with task := task }
  | (.processed urc, task) => { r with task := task, processed := r.processed ++ [urc] }
  | (.requested, task) =>
    { r with
      task := task
      requests := r.requests + 1
      current := r.requests
      unanswered := r.requests :: r.unanswered }
  | (.parsed msg, task) =>
    { r with task := task, parsed := r.parsed ++ [(r.current, msg.answers)] }

/-- The task and the kernel, step by step. -/
def machine : Machine SmsInbound SmsInboundEvent Unit where
  step r e :=
    ((), match e with
      | .task env => r.record (r.task.smsSendTask env)
      | .incoming status index text => r.post ⟨.incoming, status, index, text, none⟩
      | .readResult request status index text =>
        if request ∈ r.unanswered then
          { r with unanswered := r.unanswered.erase request }.post
            ⟨.readResult, status, index, text, some request⟩
        else r
      | .deleteResult status index => r.post ⟨.deleteResult, status, index, none, none⟩)

end SmsInbound

end WalnutGateway
