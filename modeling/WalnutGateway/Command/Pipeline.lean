import WalnutGateway.Command.Authorize
import WalnutGateway.Config.GetStrings
import WalnutGateway.Core.Flow
import WalnutGateway.Queue.Producers
import WalnutGateway.Sms.Outbound

/-!
# From a request to its reply

Tasks put requests into `CMD_REQUEST_Q`. The command task takes one a turn, processes it and
routes the response back to the queue of the module the request came from; the SMS task takes
the replies from its own queue and hands them to the modem. The tasks step in any order, and
what the rest of the device does in between is an input.
-/

namespace WalnutGateway

/-! ## Routing -/

/-- A text that is routed back to where a command came from. -/
structure Reply where
  source : ModuleId
  address : List Byte
  response : List Byte
  deriving DecidableEq

/-- The message queues of the modules that have one and are enabled. -/
structure ReplyQueues where
  cmd : Device ModuleMessage
  tcp : Device ModuleMessage
  sms : Device ModuleMessage

/-- The row that a reply makes for a module other than the TCP module. -/
def Reply.row (r : Reply) (sender : ModuleId) : ModuleMessage :=
  { ModuleMessage.ofPayload (if sender.toNat ≠ 0 then sender else .cmd) r.source [] with
    address := utilsStrncpySafe 64 r.address
    message := utilsStrncpySafe moduleMessageInlineSize r.response
    dataLen := ((cString r.response).take (moduleMessageInlineSize - 1)).length }

/-- `utils_route_response_to_module` for any module: one that is disabled or has no queue gets
nothing. -/
def ReplyQueues.utilsRouteResponseToModule (q : ReplyQueues) (r : Reply) (sender : ModuleId) :
    ReplyQueues :=
  if r.response.length = 0 then q else
  match r.source with
  | .cmd => { q with cmd := (queuePush cmdRequestQueueConfig q.cmd (r.row sender)).2 }
  | .tcp =>
    { q with tcp := WalnutGateway.utilsRouteResponseToModule q.tcp r.address r.response sender }
  | .sms => { q with sms := (queuePush smsSendQueueConfig q.sms (r.row sender)).2 }
  | _ => q

/-! ## The tasks -/

variable {σ : Type}

/-- The queues, the counters, and the rest of the device. -/
structure CommandSystem (σ : Type) where
  queues : ReplyQueues
  stats : CmdHandlerStats
  smsStats : SmsSendStats
  world : σ

/-- A request that the command task took, the functions it called for it, and the reply it
routed, unless it threw the request away. -/
structure ServedCommand where
  request : ModuleMessage
  calls : List HandlerCall
  reply : Option Reply

/-- A request that is thrown away: not for the command module, or without a payload. -/
def ModuleMessage.Discarded (m : ModuleMessage) : Prop :=
  m.destinationModule ≠ .cmd ∨ m.payloadPtr.isNone ∨ m.dataLen = 0

instance (m : ModuleMessage) : Decidable m.Discarded := inferInstanceAs (Decidable (_ ∨ _))

/-- What can happen to the tasks and their queues. -/
inductive CommandOp (σ : Type)
  /-- `command_manager_accept_request`. -/
  | accept (request : ModuleMessage)
  | command
  /-- The outbound part of a turn of the SMS task. -/
  | sms (ready sendOk : Bool)
  /-- The UART task routes the reply of a request it sent. -/
  | uartReply (reply : Reply)
  /-- The other users of `TCP_SEND_Q` leave it so. -/
  | tcp (d : Device ModuleMessage)
  /-- The rest of the device is now so. -/
  | other (world : σ)

/-- A request as the tasks that make requests build it: the TCP task with the address of the
server, the SMS task with the number of the sender. -/
structure FromProducer (m : ModuleMessage) : Prop where
  source : m.sourceModule = .tcp ∨ m.sourceModule = .sms
  terminated : (cString m.address.toList).length < 64
  sender : m.sourceModule = .sms → cString m.address.toList ≠ []

/-- Requests come from the two tasks, and the replies of the UART task go back to them. -/
def ProducedStep (_ : CommandSystem σ) : CommandOp σ → Prop
  | .accept m => FromProducer m
  | .uartReply r => r.source = .tcp ∨ r.source = .sms
  | _ => True

/-- A reply of the UART task that a text message can carry. -/
structure Reply.FitsSms (r : Reply) : Prop where
  address_ne_nil : r.address ≠ []
  address_length : r.address.length < 64
  address_no_nul : ∀ b ∈ r.address, b ≠ 0
  response_length : r.response.length ≤ smsManagerMaxMessageLength
  response_no_nul : ∀ b ∈ r.response, b ≠ 0

/-- Such a step that finds room in `SMS_SEND_Q` for the replies it routes there, the SMS
task being ready. -/
def RoomyStep (s : CommandSystem σ) : CommandOp σ → Prop
  | .accept m => FromProducer m
  | .command => s.queues.sms.q.count < smsSendQueueConfig.capacity
  | .sms ready _ => ready = true
  | .uartReply r => r.source = .tcp ∨
    (r.source = .sms ∧ r.FitsSms ∧ s.queues.sms.q.count < smsSendQueueConfig.capacity)
  | _ => True

/-! ## Routing a reply -/

section Routing

variable {q : ReplyQueues} {r : Reply} {sender : ModuleId}

/-- What a row of `SMS_SEND_Q` will be handed on as. -/
def ModuleMessage.textMessage (m : ModuleMessage) : SmsText :=
  ⟨cString m.address.toList, cString m.payload⟩

/-- The rows of `SMS_SEND_Q`. -/
def ReplyQueues.smsRows (q : ReplyQueues) : List ModuleMessage :=
  q.sms.q.ringRows smsSendQueueConfig

end Routing

/-! ## A turn of the command task -/

section Turn

variable (w : CommandWorld σ) {s : CommandSystem σ}

end Turn

/-! ## What a response says -/

section Response

variable {w : CommandWorld σ}

/-- A request that is not for the STM. -/
def ModuleMessage.IsLocal (m : ModuleMessage) : Prop :=
  strncaseEq (asciiBytes "STM:") (cString (m.payloadPtr.getD [])) = false

end Response

end WalnutGateway
