import WalnutGateway.Command.Pipeline

/-!
# Requests and replies over whole runs

Every request that is accepted is taken once, in its turn, and answered once, to the sender it
came from. The replies to text messages leave through the SMS task in the same order and
unaltered, as long as its queue has room. The counters account for every request.
-/

namespace WalnutGateway

variable {σ : Type}

/-! ## Where requests come from -/

/-- The request that `tcp_try_recv_once_and_dispatch` makes of what one read of the socket gave;
less than five bytes are skipped. -/
def tcpRequest (server : Option (List Byte × Nat)) (received : List Byte) :
    Option ModuleMessage :=
  let text := received.take 255
  let address := server.elim [] fun (ip, port) =>
    (cString ip ++ asciiBytes ":" ++ decimalBytes port).take 31
  if text.length < 5 then none else some
    { ModuleMessage.ofPayload .tcp .cmd [] with
      address := utilsStrncpySafe 64 address
      message := utilsStrncpySafe moduleMessageInlineSize text
      dataLen := ((cString text).take (moduleMessageInlineSize - 1)).length }

/-- The address field of a message that was copied into it is a string. -/
theorem length_cString_utilsStrncpySafe (src : List Byte) :
    (cString (utilsStrncpySafe 64 src).toList).length < 64 := by
  rw [cString_utilsStrncpySafe (by decide), List.length_take]
  omega

theorem fromProducer_tcpRequest {server : Option (List Byte × Nat)} {received : List Byte}
    {request : ModuleMessage} (h : request ∈ tcpRequest server received) :
    FromProducer request := by
  unfold tcpRequest at h
  dsimp only at h
  split_ifs at h
  · cases h
  · obtain rfl := Option.mem_some_iff.mp h
    exact ⟨Or.inl rfl, length_cString_utilsStrncpySafe _, fun hsms => by cases hsms⟩

/-- What is due to a request: one reply, to where it came from, unless it was thrown away. -/
structure ServedCommand.Answered (c : ServedCommand) : Prop where
  produced : FromProducer c.request
  thrown : c.reply = none ↔ c.request.Discarded
  source : ∀ r ∈ c.reply, r.source = c.request.sourceModule
  address : ∀ r ∈ c.reply, r.address = cString c.request.address.toList
  length : ∀ r ∈ c.reply, r.response.length < cmdHandlerMaxResponseLength
  no_nul : ∀ r ∈ c.reply, ∀ b ∈ r.response, b ≠ 0
  ne_nil : ∀ r ∈ c.reply, c.request.IsLocal →
    (∀ args, HandlerCall.special .hardReset args ∉ c.calls) → r.response ≠ []

/-- The tasks before their first turn. -/
def CommandSystem.start : CommandSystem Unit where
  queues := ⟨freshSendQueue, freshSendQueue, freshSendQueue⟩
  stats := ⟨0, 0, 0, 0, 0⟩
  smsStats := ⟨0, 0⟩
  world := ()

/-- The text message a reply is due to become. -/
def Reply.texts (r : Reply) : List SmsText :=
  if r.source = .sms ∧ r.response ≠ [] then [⟨r.address, r.response⟩] else []

/-- The text messages that wait. -/
def CommandSystem.texts (s : CommandSystem σ) : List SmsText :=
  s.queues.smsRows.map ModuleMessage.textMessage

/-- A step with room is one of the two tasks. -/
theorem RoomyStep.produced {s : CommandSystem σ} {op : CommandOp σ} (h : RoomyStep s op) :
    ProducedStep s op := by
  cases op with
  | accept request => exact h
  | uartReply reply => exact h.imp id And.left
  | command | sms ready sendOk | tcp d | other world => trivial

/-- Every request that was counted was processed, and the errors are among them, and what was
wrong with a request is among the errors. -/
structure CmdHandlerStats.Consistent (stats : CmdHandlerStats) : Prop where
  processed : stats.totalProcessed = stats.totalReceived
  errors : stats.errorCount ≤ stats.totalProcessed
  causes : stats.invalidCmdCount + stats.authFailures ≤ stats.errorCount

/-- A served request that the counters count. -/
def ServedCommand.Counted (c : ServedCommand) : Prop :=
  c.reply.isSome ∧ c.request.sourceModule ≠ .log ∧ c.request.sourceModule ≠ .count

instance (c : ServedCommand) : Decidable c.Counted := inferInstanceAs (Decidable (_ ∧ _))

/-- What one request does to the counters: it is received and processed; it is an error or it is
not, and if it is one, it may have a cause. -/
theorem CmdHandlerStats.Consistent.update {stats : CmdHandlerStats} (h : stats.Consistent)
    (invalid auth : Nat) {result : Result}
    (hcause : invalid + auth ≤ if result.isError then 1 else 0) :
    (CmdHandlerStats.update
      { stats with
        totalReceived := stats.totalReceived + 1
        invalidCmdCount := stats.invalidCmdCount + invalid
        authFailures := stats.authFailures + auth } result).Consistent := by
  obtain ⟨hprocessed, herrors, hcauses⟩ := h
  constructor <;> simp only [CmdHandlerStats.update] <;> split_ifs at hcause ⊢ <;> omega

end WalnutGateway
