import WalnutGateway.Queue.ReplyRouting
import WalnutGateway.Uart.Codec
import WalnutGateway.Uart.Manager
import WalnutGateway.Uart.UserReplySafe

/-!
# What is made of a frame

`uart_dispatch_binary_frame` once it knows whom a frame answers: users get a text to read, other
modules what their code parses, as text or as bytes. Both are put together in one shared buffer.
-/

namespace WalnutGateway

/-- `UART_SHARED_BUF_SIZE`. -/
def uartSharedBufSize : Nat := 1280

/-- `STM_CMD_SYSTEM_UPDATE`. -/
def stmCmdSystemUpdate : Byte := 0x06

/-- `STM_CMD_GW_HEALTH`. -/
def stmCmdGwHealth : Byte := 0x30

/-- `STM_CMD_STM_OTA`. -/
def stmCmdStmOta : Byte := 0x40

/-- `STM_CMD_PERI_OTA`. -/
def stmCmdPeriOta : Byte := 0x41

/-- `STM_OTA_CHUNK_CRC`. -/
def stmOtaChunkCrc : Byte := 0x01

/-- What is routed: through `uart_route_to_module_queue` or `uart_route_binary_to_module_queue`. -/
inductive UartAnswer
  | text (message : List Byte)
  | binary (data : List Byte)
  deriving DecidableEq

/-- A text put into the shared buffer and routed from there. -/
def sharedText (shared text : List Byte) : Option UartAnswer × List Byte :=
  let written := writeText shared 0 text
  (some (.text (cString written)), written)

/-- The reply of `uart_build_user_resp`, routed if its result is positive. -/
def userAnswer (cmd : Byte) (pl : List Byte) (reqDevId : Byte) (shared : List Byte) :
    Option UartAnswer × List Byte :=
  match uartBuildUserResp cmd pl reqDevId shared with
  | some (n, written) => (if 0 < n then some (.text (cString written)) else none, written)
  | none => (none, shared)

/-- `0xB0`: the flag and the data as they are. -/
def healthAnswer (pl shared : List Byte) : Option UartAnswer × List Byte :=
  let dlen := beUint16 pl 2
  if pl.length < 4 ∨ pl.getD 0 0 ≠ 0 then (none, shared)
  else if dlen = 0 ∨ pl.length < 4 + dlen then (none, shared)
  else if moduleMessageInlineSize < 1 + dlen then (none, shared)
  else
    let data := (if pl.getD 1 0 ≠ 0 then 1 else 0) :: (pl.drop 4).take dlen
    (some (.binary data), data ++ shared.drop data.length)

/-- `0xC0`: an acknowledgement of a chunk, or of the checksum. -/
def stmOtaAnswer (pl shared : List Byte) : Option UartAnswer × List Byte :=
  if pl.length < 6 then (none, shared)
  else if pl.getD 1 0 = stmOtaChunkCrc then
    sharedText shared (asciiBytes (if pl.getD 0 0 = 0 then "crc ok" else "crc fail"))
  else
    sharedText shared (asciiBytes (if pl.getD 0 0 = 0 then "ok" else "fail") ++
      asciiBytes ",chunk," ++ decimalBytes (beNat ((pl.drop 2).take 4)))

/-- The digits of what a peripheral said, if it said something and they fit. -/
def periOtaHex (pl : List Byte) (room : Nat) : Option (List Byte) :=
  let rlen := if 3 ≤ pl.length then beUint16 pl 1 else 0
  if 0 < rlen ∧ 3 + rlen ≤ pl.length then utilsBytesToHexStr ((pl.drop 3).take rlen) room
  else none

/-- `0xC1`: the acknowledgement with these digits. -/
def periOtaAnswer (pl shared : List Byte) : Option UartAnswer × List Byte :=
  if pl.length < 1 ∨ pl.getD 0 0 ≠ 0 then (some (.text (asciiBytes "fail")), shared)
  else
    let head := writeText shared 0 (asciiBytes "ok,")
    let written := (periOtaHex pl (shared.length - 3)).elim head (writeText head 3)
    (some (.text (cString written)), written)

/-- The `switch` for the modules that are no users. -/
def internalAnswer (cmd : Byte) (pl shared : List Byte) : Option UartAnswer × List Byte :=
  if cmd = stmCmdGetDevInfo ||| stmCmdRespBit then
    if pl.length < 3 ∨ pl.getD 0 0 ≠ 0 ∨ beUint16 pl 1 = 0 then (none, shared)
    else sharedText shared (asciiBytes "FW Version: " ++ decimalBytes (beUint16 pl 1))
  else if cmd = stmCmdSystemUpdate ||| stmCmdRespBit then
    (some (.text (asciiBytes (if 1 ≤ pl.length ∧ pl.getD 0 0 = 0 then "OK" else "FAIL"))), shared)
  else if cmd = stmCmdGwHealth ||| stmCmdRespBit then healthAnswer pl shared
  else if cmd = 0x28 ||| stmCmdRespBit then userAnswer cmd pl 0 shared
  else if cmd = stmCmdStmOta ||| stmCmdRespBit then stmOtaAnswer pl shared
  else if cmd = stmCmdPeriOta ||| stmCmdRespBit then periOtaAnswer pl shared
  else (none, shared)

/-- The device of a request: the first byte of its payload. -/
def reqDevId (request : Option ModuleMessage) : Byte :=
  match request.bind fun r => if r.isRaw then r.payloadPtr else none with
  | some rf => if 1 ≤ stmFramePayloadLen rf then (stmFramePayload rf).getD 0 0 else 0
  | none => 0

/-- `uart_dispatch_binary_frame` behind the choice of whom a frame answers. -/
def uartAnswer (origin : ModuleId) (request : Option ModuleMessage) (frame shared : List Byte) :
    Option UartAnswer × List Byte :=
  let cmd := stmFrameCmd frame
  let pl := (stmFramePayload frame).take (stmFramePayloadLen frame)
  if origin = .sms ∨ origin = .tcp then userAnswer cmd pl (reqDevId request) shared
  else internalAnswer cmd pl shared

/-! ## The shared buffer -/

/-- A text is a string of the buffer, and bytes are as many as a message has room for. -/
def UartAnswer.Fits (size : Nat) : UartAnswer → Prop
  | text message => message.length < size ∧ ∀ b ∈ message, b ≠ 0
  | binary data => 0 < data.length ∧ data.length ≤ moduleMessageInlineSize

/-- An answer and the buffer behind it: the buffer keeps its size, and the answer fits. -/
structure Answered (size : Nat) (a : Option UartAnswer × List Byte) : Prop where
  length : a.2.length = size
  fits : ∀ answer ∈ a.1, answer.Fits size

section Answers

variable {shared : List Byte}

theorem answered_none : Answered shared.length (none, shared) := ⟨rfl, by simp⟩

/-- A string in a buffer that has a NUL. -/
theorem answered_buffer {size : Nat} {written : List Byte} (hlength : written.length = size)
    (hzero : (0 : Byte) ∈ written) :
    Answered size (some (.text (cString written)), written) where
  length := hlength
  fits answer hanswer := by
    cases hanswer
    refine ⟨?_, fun b => ne_zero_of_mem_cString⟩
    rw [← hlength]
    apply lt_of_le_of_ne (List.takeWhile_sublist _).length_le
    intro hall
    have hwhole : cString written = written := (List.takeWhile_prefix _).eq_of_length hall
    rw [← hwhole] at hzero
    exact ne_zero_of_mem_cString hzero rfl

theorem answered_sharedText (h : 0 < shared.length) (text : List Byte) :
    Answered shared.length (sharedText shared text) :=
  answered_buffer (length_writeText ..) (zero_mem_writeText h text)

/-- A text that is routed from a literal. -/
theorem answered_literal {message : List Byte} (hlength : message.length < shared.length)
    (htext : ∀ b ∈ message, b ≠ 0) :
    Answered shared.length (some (.text message), shared) where
  length := rfl
  fits answer hanswer := by
    cases hanswer
    exact ⟨hlength, htext⟩

theorem answered_userAnswer (h : 0 < shared.length) (cmd : Byte) (pl : List Byte)
    (reqDevId : Byte) : Answered shared.length (userAnswer cmd pl reqDevId shared) := by
  obtain ⟨n, written, hbuild, hlength, hzero⟩ := rendered_uartBuildUserResp h cmd pl reqDevId
  rw [userAnswer, hbuild]
  dsimp only
  split
  · exact answered_buffer hlength hzero
  · exact ⟨hlength, by simp⟩

theorem answered_healthAnswer (hsize : moduleMessageInlineSize ≤ shared.length)
    (pl : List Byte) : Answered shared.length (healthAnswer pl shared) := by
  unfold healthAnswer
  generalize (if pl.getD 1 0 ≠ 0 then (1 : Byte) else 0) = flag
  dsimp only
  split_ifs with hstatus hdata hlong
  · exact answered_none
  · exact answered_none
  · exact answered_none
  rw [not_or, not_lt] at hdata
  have htake : ((pl.drop 4).take (beUint16 pl 2)).length = beUint16 pl 2 := by
    rw [List.length_take, List.length_drop]
    omega
  refine ⟨?_, fun answer hanswer => ?_⟩
  · simp only [List.length_append, List.length_cons, htake, List.length_drop]
    omega
  · cases hanswer
    rw [UartAnswer.Fits, List.length_cons, htake]
    omega

theorem answered_stmOtaAnswer (h : 0 < shared.length) (pl : List Byte) :
    Answered shared.length (stmOtaAnswer pl shared) := by
  unfold stmOtaAnswer
  split
  · exact answered_none
  · split
    · exact answered_sharedText h _
    · exact answered_sharedText h _

theorem answered_periOtaAnswer (hsize : moduleMessageInlineSize ≤ shared.length)
    (pl : List Byte) : Answered shared.length (periOtaAnswer pl shared) := by
  rw [moduleMessageInlineSize] at hsize
  unfold periOtaAnswer
  split
  · exact answered_literal (lt_of_lt_of_le (by decide : _ < 256) hsize) (by decide)
  · dsimp only
    have hhead : (writeText shared 0 (asciiBytes "ok,")).length = shared.length :=
      length_writeText ..
    have hzero : (0 : Byte) ∈ writeText shared 0 (asciiBytes "ok,") :=
      zero_mem_writeText (by omega) _
    cases periOtaHex pl (shared.length - 3) with
    | none => exact answered_buffer hhead hzero
    | some hex =>
      exact answered_buffer ((length_writeText ..).trans hhead) (zero_mem_writeText (by omega) _)

/-- Whatever frame comes, the answer is one that can be routed. -/
theorem answered_uartAnswer (hsize : moduleMessageInlineSize ≤ shared.length) (origin : ModuleId)
    (request : Option ModuleMessage) (frame : List Byte) :
    Answered shared.length (uartAnswer origin request frame shared) := by
  have hpos : 0 < shared.length := lt_of_lt_of_le (by decide) hsize
  unfold uartAnswer
  dsimp only
  split
  · exact answered_userAnswer hpos _ _ _
  unfold internalAnswer
  split_ifs
  · exact answered_none
  · exact answered_sharedText hpos _
  · exact answered_literal (lt_of_lt_of_le (by decide) hsize) (by decide)
  · exact answered_literal (lt_of_lt_of_le (by decide) hsize) (by decide)
  · exact answered_healthAnswer hsize _
  · exact answered_userAnswer hpos _ _ _
  · exact answered_stmOtaAnswer hpos _
  · exact answered_periOtaAnswer hsize _
  · exact answered_none

end Answers

end WalnutGateway
