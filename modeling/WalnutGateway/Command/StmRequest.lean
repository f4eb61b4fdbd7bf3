import WalnutGateway.Config.GetStrings
import WalnutGateway.Queue.Operations
import WalnutGateway.Sms.Extract
import WalnutGateway.Uart.Codec
import WalnutGateway.Uart.CommandMap

/-!
# Requests for the STM

`cmd_state_handle_check_stm_prefix`: a text behind `STM:` becomes a frame that names who asked, and
waits in the queue of the UART task. Before a restart of the whole device the reset is saved.
-/

namespace WalnutGateway

/-- `UART_REQUEST_Q`. -/
def uartRequestQueueConfig : QueueConfig ModuleMessage where
  name := "UART_REQUEST_Q"
  element := messageRow
  capacity := 5
  threadSafe := false
  maxFileSize := 0
  persistOnReboot := false

/-- `STM_SRC_TYPE_TCP`. -/
def stmSrcTypeTcp : Byte := 0x01

/-- `STM_SRC_TYPE_SMS`. -/
def stmSrcTypeSms : Byte := 0x02

/-- The command behind the prefix and the blanks that follow it. -/
def cmdWithoutPrefix (text : List Byte) : List Byte := (text.drop 4).dropWhile isspace

/-- `SRC_TYPE` and `SRC_ADDR` of who asked: the number of a text message, nothing of a server. -/
def stmSource (source : ModuleId) (address : List Byte) : Byte × List Byte :=
  if source = .sms then (stmSrcTypeSms, address.take stmSrcLenMax) else (stmSrcTypeTcp, [])

/-- The request for the UART task, if the text is one of its commands. -/
def stmUartRequest (request : ModuleMessage) : Option ModuleMessage :=
  let text := cString (request.payloadPtr.getD [])
  let address := cString request.address.toList
  let source := stmSource request.sourceModule address
  match stmCmdBuildFromAscii (cmdWithoutPrefix text) source.1 source.2 moduleMessageInlineSize with
  | .frame frame =>
    some { ModuleMessage.ofPayload request.sourceModule .uart frame with
      address := utilsStrncpySafe 64 address
      isRaw := true }
  | _ => none

/-- `uart_manager_send_request` of a manager that runs. -/
def uartManagerSendRequest (d : Device ModuleMessage) (r : ModuleMessage) :
    Result × Device ModuleMessage :=
  let pushed := queuePush uartRequestQueueConfig d r
  (if pushed.1 = .success then .success else .busy, pushed.2)

/-- What the check makes of a text behind `STM:`. -/
structure StmCheck where
  result : Result
  response : List Byte
  /-- The request that found room. -/
  queued : Option ModuleMessage
  /-- Who a restart of the device is saved for. -/
  saved : Option (List Byte)
  requests : Device ModuleMessage

/-- `cmd_state_handle_check_stm_prefix` of a text behind `STM:`, where the UART manager may not
run. -/
def cmdStateHandleCheckStmPrefix (running : Bool) (request : ModuleMessage)
    (d : Device ModuleMessage) : StmCheck :=
  if ¬ running then ⟨.error, [], none, none, d⟩
  else
    match stmUartRequest request with
    | none =>
      ⟨.error, responseText cmdHandlerMaxResponseLength
        (asciiBytes "ERROR: STM command not supported"), none, none, d⟩
    | some r =>
      let pushed := uartManagerSendRequest d r
      if pushed.1 = .success then
        let address := cString request.address.toList
        let restart := strncaseEq (asciiBytes "system-restart")
          (cmdWithoutPrefix (cString (request.payloadPtr.getD [])))
        ⟨.success, [], some r,
          if restart then
            some (if address ≠ [] then address else asciiBytes "STM system-restart")
          else none, pushed.2⟩
      else ⟨.error, [], none, none, pushed.2⟩

/-! ## What the UART task gets -/

/-- A request for the UART task goes back to who asked, and is a whole frame that names them. -/
structure AsksFor (request r : ModuleMessage) : Prop where
  source : r.sourceModule = request.sourceModule
  address : cString r.address.toList = (cString request.address.toList).take 63
  raw : r.isRaw = true
  static : r.useDynamicBuffer = false
  frame : ∃ cmd data, stmBuildFrameSrc moduleMessageInlineSize
    (stmSource request.sourceModule (cString request.address.toList)).1
    (stmSource request.sourceModule (cString request.address.toList)).2 cmd data = some r.payload

/-- A text that is taken is built into a frame. -/
theorem stmCmdBuildFromAscii_frame {text srcAddr frame : List Byte} {srcType : Byte} {outCap : Nat}
    (h : stmCmdBuildFromAscii text srcType srcAddr outCap = .frame frame) :
    ∃ cmd data, stmBuildFrameSrc outCap srcType srcAddr cmd data = some frame := by
  unfold stmCmdBuildFromAscii at h
  dsimp only at h
  cases hfind : kCmdTable.find? (cmdNameToken text 40 = ·.name) with
  | none =>
    rw [hfind] at h
    cases h
  | some e =>
    rw [hfind] at h
    dsimp only at h
    split at h
    · cases h
    · split at h
      · cases h
      · rename_i data hdata built hbuilt
        cases h
        exact ⟨e.opcode, _, hbuilt⟩

theorem stmUartRequest_asksFor {request r : ModuleMessage} (h : stmUartRequest request = some r) :
    AsksFor request r := by
  unfold stmUartRequest at h
  dsimp only at h
  split at h
  · rename_i frame hframe
    cases h
    obtain ⟨cmd, data, hbuilt⟩ := stmCmdBuildFromAscii_frame hframe
    have hfits : frame.length ≤ moduleMessageInlineSize := by
      obtain ⟨-, -, hcap, -⟩ := stmBuildFrameSrc_eq_some.mp hbuilt
      have hlength := (stmBuildFrameSrc_frameAt hbuilt).2
      omega
    refine ⟨rfl, ?_, rfl, rfl, cmd, data, hbuilt.trans (congrArg some ?_)⟩
    · change cString (utilsStrncpySafe 64 _).toList = _
      rw [cString_utilsStrncpySafe (by decide),
        cString_of_ne_zero fun b => ne_zero_of_mem_cString]
    · exact (ModuleMessage.payload_ofPayload request.sourceModule .uart hfits).symm
  · cases h

end WalnutGateway
