import WalnutGateway.Common.Search
import WalnutGateway.Sms.Inbound

/-!
# The sender and the text of an SMS

`sms_extract_fields` takes the sender from between the third and the fourth quote of a `+CMGR`
response. For the text it looks for an empty string where the line breaks are, finds it at once,
and copies nothing; `sms_is_valid_content` refuses what has no characters. So a message is never
forwarded to the command manager.
-/

namespace WalnutGateway

/-- `SMS_MANAGER_MAX_MESSAGE_LENGTH`. -/
def smsManagerMaxMessageLength : Nat := 160

/-- `SMS_MANAGER_MAX_ADDRESS_LENGTH`. -/
def smsManagerMaxAddressLength : Nat := 21

/-- `sms_message_t`, as far as it is forwarded. -/
structure SmsReceived where
  senderNumber : CArray (smsManagerMaxAddressLength + 1)
  messageContent : CArray (smsManagerMaxMessageLength + 1)
  deriving DecidableEq

/-! ## Taking a response apart -/

/-- `utils_strncpy_safe` of `size` bytes into a zeroed array of `n`. -/
def copyZeroed (n size : Nat) (src : List Byte) : CArray n :=
  CArray.ofList n ((cString src).take (size - 1))

/-- What stands between the third and the fourth quote. -/
def quotedSender (cmgr : List Byte) : Option (List Byte) := do
  let p ← strchr cmgr 0x22
  let p ← strchr (p.drop 1) 0x22
  let p ← strchr (p.drop 1) 0x22
  let quoteStart := p.drop 1
  let p ← strchr quoteStart 0x22
  some (quoteStart.take (quoteStart.length - p.length))

/-- How many bytes of the body are taken, before they are trimmed. -/
def bodyLen (body : List Byte) : Nat :=
  match strstr [] body with
  | some bodyEnd => body.length - bodyEnd.length
  | none => ((body.takeWhile fun c => c ≠ 0x0D && c ≠ 0x0A).take smsManagerMaxMessageLength).length

/-- `sms_extract_fields` into zeroed arrays. -/
def smsExtractFields (raw : Option (List Byte)) : SmsReceived :=
  match raw with
  | none =>
    ⟨copyZeroed _ smsManagerMaxAddressLength (asciiBytes "UNKNOWN"), CArray.ofList _ []⟩
  | some raw =>
    let raw := cString raw
    match strstr (asciiBytes "+CMGR:") raw with
    | none =>
      ⟨copyZeroed _ smsManagerMaxAddressLength (asciiBytes "UNKNOWN"),
        copyZeroed _ smsManagerMaxMessageLength raw⟩
    | some cmgr =>
      let sender := ((quotedSender cmgr).getD []).take (smsManagerMaxAddressLength - 1)
      let content :=
        match strstr [] raw with
        | none => []
        | some body =>
          let body := body.drop 2
          let trimmed := (body.take (bodyLen body)).rdropWhile fun c => c = 0x0D || c = 0x0A
          trimmed.take (smsManagerMaxMessageLength - 1)
      ⟨if sender = [] then copyZeroed _ smsManagerMaxAddressLength (asciiBytes "UNKNOWN")
        else CArray.ofList _ sender, CArray.ofList _ content⟩

/-! ## What is done with a message -/

/-- `sms_is_valid_sender`. -/
def smsIsValidSender (num : List Byte) : Bool :=
  num ≠ [] && num ≠ asciiBytes "UNKNOWN" &&
    num.all fun c => isdigit c || (asciiBytes "+- ()").contains c

/-- `sms_is_valid_content`. -/
def smsIsValidContent (msg : List Byte) : Bool :=
  0 < msg.length && msg.length ≤ smsManagerMaxMessageLength

/-- `msg_q_config` of the command module. -/
def cmdRequestQueueConfig : QueueConfig ModuleMessage where
  name := "CMD_REQUEST_Q"
  element := messageRow
  capacity := 5
  threadSafe := true
  maxFileSize := 0
  persistOnReboot := false

/-- What the command manager takes requests with. -/
structure CommandInbox where
  initialized : Bool
  device : Device ModuleMessage

namespace CommandInbox

/-- The requests that wait. -/
def requests (cm : CommandInbox) : List ModuleMessage :=
  cm.device.q.ringRows cmdRequestQueueConfig

/-- The command manager runs, and its queue has room. -/
structure HasRoom (cm : CommandInbox) : Prop where
  initialized : cm.initialized = true
  ringOk : cm.device.q.RingOk cmdRequestQueueConfig
  count_lt : cm.device.q.count < cmdRequestQueueConfig.capacity

end CommandInbox

/-- `command_manager_accept_request`. -/
def commandManagerAcceptRequest (cm : CommandInbox) (request : ModuleMessage) :
    Result × CommandInbox :=
  if ¬ cm.initialized then (.error, cm) else
  let pushed := queuePush cmdRequestQueueConfig cm.device request
  (if pushed.1 = .success then .success else .busy, { cm with device := pushed.2 })

/-- The request that `sms_forward_inbound` makes of a message. -/
def smsRequest (sender content : List Byte) : ModuleMessage :=
  { ModuleMessage.ofPayload .sms .cmd [] with
    address := utilsStrncpySafe 64 sender
    message := utilsStrncpySafe moduleMessageInlineSize content
    dataLen := ((cString content).take (moduleMessageInlineSize - 1)).length }

/-- `sms_forward_inbound`. -/
def smsForwardInbound (sms : SmsReceived) (cm : CommandInbox) : CommandInbox :=
  (commandManagerAcceptRequest cm
    (smsRequest sms.senderNumber.toList sms.messageContent.toList)).2

/-- The message that `sms_read_message` makes of the response it gets, if it gets one. -/
def smsReadMessage (response : Option (List Byte)) : Option SmsReceived :=
  match response with
  | none => none
  | some text => if hasCmgr text then some (smsExtractFields (some text)) else none

/-- `sms_process_urc`: the message that is deleted, and the command manager; `read` is what
reading an index brings. -/
def smsProcessUrc (read : Int → Option (List Byte)) (msg : SmsMessage) (cm : CommandInbox) :
    Option Int × CommandInbox :=
  if msg.type ≠ .incoming then (none, cm) else
  if msg.index ≤ 0 then (none, cm) else
  let sms :=
    match msg.text with
    | some text =>
      if hasCmgr text then some (smsExtractFields (some text)) else smsReadMessage (read msg.index)
    | none => smsReadMessage (read msg.index)
  match sms with
  | none => (some msg.index, cm)
  | some sms =>
    if smsIsValidSender (cString sms.senderNumber.toList) ∧
        smsIsValidContent (cString sms.messageContent.toList) then
      (some msg.index, smsForwardInbound sms cm)
    else (some msg.index, cm)

/-! ## The sender's field -/

/-- The field between the third and the fourth quote. -/
theorem quotedSender_eq {a status addr rest : List Byte} (ha : ∀ b ∈ a, b ≠ 0x22)
    (hstatus : ∀ b ∈ status, b ≠ 0x22) (haddr : ∀ b ∈ addr, b ≠ 0x22) :
    quotedSender (a ++ 0x22 :: (status ++ 0x22 :: 0x2C :: 0x22 :: (addr ++ 0x22 :: rest))) =
      some addr := by
  have hcomma : strchr (0x2C :: 0x22 :: (addr ++ 0x22 :: rest)) 0x22 =
      some (0x22 :: (addr ++ 0x22 :: rest)) := strchr_append (u := [0x2C]) (by decide +kernel) _
  rw [quotedSender, strchr_append ha]
  simp only [Option.bind_eq_bind, Option.bind_some, List.drop_succ_cons, List.drop_zero]
  rw [strchr_append hstatus]
  simp only [Option.bind_some, List.drop_succ_cons, List.drop_zero]
  rw [hcomma]
  simp only [Option.bind_some, List.drop_succ_cons, List.drop_zero]
  rw [strchr_append haddr, Option.bind_some, List.length_append, Nat.add_sub_cancel,
    List.take_left]

/-! ## A response that names a message -/

/-- A `+CMGR` response. -/
structure CmgrResponse where
  before : List Byte
  status : List Byte
  addr : List Byte
  rest : List Byte
  body : List Byte
  trailer : List Byte
  before_free : strstr (asciiBytes "+CMGR:") before = none
  status_free : ∀ b ∈ status, b ≠ 0x22
  addr_free : ∀ b ∈ addr, b ≠ 0x22
  addr_length : 1 ≤ addr.length ∧ addr.length ≤ 20
  header_free : ∀ b ∈ status ++ addr ++ rest, b ≠ 0x0D ∧ b ≠ 0x0A
  body_length : 1 ≤ body.length ∧ body.length ≤ smsManagerMaxMessageLength
  body_free : ∀ b ∈ body, b ≠ 0x0D ∧ b ≠ 0x0A
  no_nul : ∀ b ∈ before ++ status ++ addr ++ rest ++ body ++ trailer, b ≠ 0

namespace CmgrResponse

/-- The text of a response. -/
def text (r : CmgrResponse) : List Byte :=
  r.before ++ (asciiBytes "+CMGR:" ++ (asciiBytes " \"" ++ r.status ++ asciiBytes "\",\"" ++
    r.addr ++ asciiBytes "\"," ++ r.rest ++ [0x0D, 0x0A] ++ r.body ++ [0x0D, 0x0A] ++ r.trailer))

/-- The fields that are taken from a response are its address and its body. -/
structure Extracted (r : CmgrResponse) : Prop where
  sender : cString (smsExtractFields (some r.text)).senderNumber.toList = r.addr
  content : cString (smsExtractFields (some r.text)).messageContent.toList = r.body

/-- The call that processes the notification of a response hands its body, from its sender, to
the command manager. -/
def Forwarded (r : CmgrResponse) (read : Int → Option (List Byte)) (status index : Int)
    (cm : CommandInbox) : Prop :=
  (smsProcessUrc read ⟨.incoming, status, index, some r.text, none⟩ cm).2.requests =
    cm.requests ++ [smsRequest r.addr r.body]

end CmgrResponse

/-! ## What is extracted and forwarded -/

/-- No text is taken from a response. -/
theorem smsExtractFields_content {raw : List Byte} (h : hasCmgr raw = true) :
    cString (smsExtractFields (some raw)).messageContent.toList = [] := by
  obtain ⟨cmgr, hcmgr⟩ := Option.isSome_iff_exists.mp h
  have hlen (body : List Byte) : bodyLen body = 0 := by
    rw [bodyLen, strstr_nil]
    exact Nat.sub_self _
  unfold smsExtractFields
  dsimp only
  rw [hcmgr, strstr_nil]
  dsimp only
  rw [hlen, List.take_zero, List.rdropWhile_nil, List.take_nil]
  rfl

/-- No message is forwarded: what was taken from a response has no text. -/
theorem smsProcessUrc_requests (read : Int → Option (List Byte)) (msg : SmsMessage)
    (cm : CommandInbox) : (smsProcessUrc read msg cm).2 = cm := by
  have hreject {raw : List Byte} (h : hasCmgr raw = true) (cm' : CommandInbox) :
      (if smsIsValidSender (cString (smsExtractFields (some raw)).senderNumber.toList) ∧
          smsIsValidContent (cString (smsExtractFields (some raw)).messageContent.toList) then
        (some msg.index, cm') else (some msg.index, cm)).2 = cm := by
    rw [smsExtractFields_content h, if_neg fun hvalid => Bool.false_ne_true hvalid.2]
  have hread (response : Option (List Byte)) (sms : SmsReceived)
      (h : smsReadMessage response = some sms) :
      ∃ text, hasCmgr text = true ∧ sms = smsExtractFields (some text) := by
    cases response with
    | none => cases h
    | some text =>
      rw [smsReadMessage] at h
      split_ifs at h with hcmgr
      exact ⟨text, hcmgr, (Option.some.inj h).symm⟩
  have hagain : (match smsReadMessage (read msg.index) with
      | none => (some msg.index, cm)
      | some sms =>
        if smsIsValidSender (cString sms.senderNumber.toList) ∧
            smsIsValidContent (cString sms.messageContent.toList) then
          (some msg.index, smsForwardInbound sms cm)
        else (some msg.index, cm)).2 = cm := by
    cases hsms : smsReadMessage (read msg.index) with
    | none => rfl
    | some sms =>
      obtain ⟨text, hcmgr, rfl⟩ := hread _ _ hsms
      exact hreject hcmgr _
  unfold smsProcessUrc
  split_ifs
  · rfl
  · rfl
  · cases msg.text with
    | none => exact hagain
    | some text =>
      dsimp only
      by_cases hcmgr : hasCmgr text = true
      · rw [if_pos hcmgr]
        exact hreject hcmgr _
      · rw [if_neg hcmgr]
        exact hagain

section Response

variable (r : CmgrResponse)

theorem CmgrResponse.text_ne_zero : ∀ b ∈ r.text, b ≠ 0 := by
  intro b hb
  have hall := r.no_nul b
  simp only [text, List.mem_append] at hb hall
  have hlit : ∀ b ∈ asciiBytes "+CMGR:" ++ asciiBytes " \"" ++ asciiBytes "\",\"" ++
      asciiBytes "\"," ++ [0x0D, 0x0A], b ≠ 0 := by decide +kernel
  have hliteral := hlit b
  simp only [List.mem_append] at hliteral
  grind

/-- The response is found, behind whatever stands before it. -/
theorem CmgrResponse.strstr_text : strstr (asciiBytes "+CMGR:") (cString r.text) =
    some (r.text.drop r.before.length) := by
  have hneedle : asciiBytes "+CMGR:" = 0x2B :: asciiBytes "CMGR:" := rfl
  have hbefore := r.before_free
  rw [hneedle] at hbefore
  rw [cString_of_ne_zero r.text_ne_zero, text, List.drop_left, hneedle]
  exact strstr_append (by decide) hbefore _

/-- The sender is the address. -/
theorem CmgrResponse.sender_eq :
    cString (smsExtractFields (some r.text)).senderNumber.toList = r.addr := by
  obtain ⟨hpos, hlen⟩ := r.addr_length
  have hquoted : quotedSender (r.text.drop r.before.length) = some r.addr := by
    have hsplit : r.text.drop r.before.length = asciiBytes "+CMGR: " ++ 0x22 :: (r.status ++
        0x22 :: 0x2C :: 0x22 :: (r.addr ++ 0x22 :: (0x2C :: r.rest ++ [0x0D, 0x0A] ++ r.body ++
          [0x0D, 0x0A] ++ r.trailer))) := by
      rw [text, List.drop_left]
      simp [asciiBytes]
    rw [hsplit, quotedSender_eq (by decide +kernel) r.status_free r.addr_free]
  have haddr : ∀ b ∈ r.addr, b ≠ 0 := fun b hb => r.no_nul b (by simp [hb])
  have htake : r.addr.take (smsManagerMaxAddressLength - 1) = r.addr :=
    List.take_of_length_le hlen
  unfold smsExtractFields
  dsimp only
  rw [r.strstr_text]
  dsimp only
  rw [hquoted, Option.getD_some, htake, if_neg (List.length_pos_iff.mp hpos)]
  exact cString_ofList haddr (by rw [smsManagerMaxAddressLength]; omega)

/-- Of no response the body is extracted, and none is forwarded, though the sender is the right
one. -/
theorem sms_body_lost (read : Int → Option (List Byte)) (status index : Int) (cm : CommandInbox) :
    cString (smsExtractFields (some r.text)).senderNumber.toList = r.addr ∧ ¬ r.Extracted ∧
      ¬ r.Forwarded read status index cm := by
  refine ⟨r.sender_eq, fun hextracted => ?_, fun hforwarded => ?_⟩
  · have hcmgr : hasCmgr r.text = true := by rw [hasCmgr, r.strstr_text, Option.isSome_some]
    have hbody := r.body_length.1
    rw [← hextracted.content, smsExtractFields_content hcmgr] at hbody
    exact Nat.not_succ_le_zero _ hbody
  · rw [CmgrResponse.Forwarded, smsProcessUrc_requests] at hforwarded
    have hlength := congrArg List.length hforwarded
    rw [List.length_append, List.length_singleton] at hlength
    omega

end Response

/-- A response that starts with its own line break and asks for the status. -/
def statusSms : CmgrResponse where
  before := [0x0D, 0x0A]
  status := asciiBytes "REC UNREAD"
  addr := asciiBytes "+491700"
  rest := asciiBytes ",\"24/01/01,00:00:00+00\""
  body := asciiBytes "STATUS"
  trailer := asciiBytes "\r\nOK\r\n"
  before_free := by decide
  status_free := by decide +kernel
  addr_free := by decide +kernel
  addr_length := by decide
  header_free := by decide +kernel
  body_length := by decide
  body_free := by decide +kernel
  no_nul := by decide +kernel

/-- The status request has a valid sender, and its text is lost. -/
theorem status_sms_lost :
    (¬ ∀ r : CmgrResponse, r.Extracted ∧ ∀ read status index cm, 0 < index →
      smsIsValidSender r.addr = true → cm.HasRoom → r.Forwarded read status index cm) ∧
    smsIsValidSender statusSms.addr = true ∧
    smsExtractFields (some statusSms.text) =
      ⟨CArray.ofList _ (asciiBytes "+491700"), CArray.ofList _ []⟩ := by
  have hfields : smsExtractFields (some statusSms.text) =
      ⟨CArray.ofList _ (asciiBytes "+491700"), CArray.ofList _ []⟩ := by decide +kernel
  refine ⟨fun hall => ?_, by decide, hfields⟩
  have hcontent := (hall statusSms).1.content
  rw [hfields] at hcontent
  exact absurd hcontent (by decide +kernel)

end WalnutGateway
