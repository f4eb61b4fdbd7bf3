import WalnutGateway.Common.TimeConversion
import WalnutGateway.Core.BigEndian
import WalnutGateway.Core.Decimal
import WalnutGateway.Core.TextBuffer
import WalnutGateway.Uart.Protocol

/-!
# Replies for the user

`uart_build_user_resp` makes a text out of the payload of a reply. Every read of the payload may
miss it, which the model takes for a fault, and the text goes into a buffer of some size. Two of
the replies are lists, whose records are appended while they fit.
-/

namespace WalnutGateway

/-! ## Formats -/

/-- A hex digit, its letters starting at `a`. -/
def hexChar (a : Byte) (d : Nat) : Byte :=
  UInt8.ofNat (if d < 10 then 0x30 + d else a.toNat + d - 10)

/-- `%02X`. -/
def hexUpper (b : Byte) : List Byte := [hexChar 0x41 (b.toNat / 16), hexChar 0x41 (b.toNat % 16)]

/-- `%02x`. -/
def hexLower (b : Byte) : List Byte := [hexChar 0x61 (b.toNat / 16), hexChar 0x61 (b.toNat % 16)]

/-- `%u` of a byte. -/
def byteDecimal (b : Byte) : List Byte := decimalBytes b.toNat

/-! ## The payload -/

/-- `n` bytes of the payload from a place on; `none` where they are not there. -/
def payloadSlice (pl : List Byte) (i n : Nat) : Option (List Byte) :=
  if i + n ≤ pl.length then some ((pl.drop i).take n) else none

/-- A big-endian number of `n` bytes. -/
def payloadWord (pl : List Byte) (i n : Nat) : Option Nat := (payloadSlice pl i n).map beNat

/-- What is returned, and the memory behind it; `none` where the payload was read past its end. -/
abbrev UserReply := Option (Nat × List Byte)

/-- `return snprintf(out, size, …)`. -/
def replyText (out text : List Byte) : UserReply := some (text.length, writeText out 0 text)

/-- `return (int)strlen(out)` behind the hex data, or `Fail` where it does not fit. -/
def replyHex (out head data : List Byte) : UserReply :=
  let written := writeText out 0 head
  if head.length ≥ out.length then some (head.length, written)
  else if out.length - head.length < data.length * 2 + 1 then
    replyText written (asciiBytes "Fail")
  else
    let whole := writeText written head.length (data.flatMap hexUpper)
    some ((cString whole).length, whole)

/-! ## The replies -/

/-- The device that `set-ble-peri-info` and `del-ble-peri-info` name, if its layout is there. -/
def deviceText (pl : List Byte) (done : String) : Option (Option (List Byte)) :=
  if pl.length ≥ 3 then do
    let devid ← pl[1]?
    let nl ← pl[2]?
    if 3 + nl.toNat + 6 ≤ pl.length then
      let nm ← payloadSlice pl 3 nl.toNat
      let mac ← payloadSlice pl (3 + nl.toNat) 6
      some (some ([byteDecimal devid, asciiBytes "-", cString nm, asciiBytes "-",
        List.intercalate [colon] (mac.map hexLower), asciiBytes done].flatten))
    else some none
  else some none

/-- `0xA2`. -/
def respSetBlePeri (pl : List Byte) (status reqDevId : Byte) (out : List Byte) : UserReply := do
  let device ← if status = 0x00 then deviceText pl "-configured-OK" else some none
  match device with
  | some text => replyText out text
  | none =>
    if status = 0x02 then
      replyText out (asciiBytes "Device is already configured for id " ++ byteDecimal reqDevId ++
        asciiBytes ", first delete it.")
    else if status = 0x04 then
      let id ← if pl.length ≥ 2 then pl[1]? else some 0
      replyText out (asciiBytes "Device already configured with same MAC at id " ++ byteDecimal id)
    else replyText out (asciiBytes "Fail")

/-- `0xA4`. -/
def respDelBlePeri (pl : List Byte) (status : Byte) (out : List Byte) : UserReply := do
  let device ← if status = 0x00 then deviceText pl "-delete-OK" else some none
  replyText out (device.getD (asciiBytes "Fail"))

/-- `0x84`. -/
def respDevInfo (pl : List Byte) (status : Byte) (out : List Byte) : UserReply :=
  if status = 0x00 ∧ pl.length ≥ 1 + 2 + 2 + 6 + 1 + 1 + 1 + 2 then do
    let fw ← payloadWord pl 1 2
    let hw ← payloadWord pl 3 2
    let mac ← payloadSlice pl 5 6
    let ble ← pl[11]?
    let cfg ← pl[12]?
    let rr ← pl[13]?
    let rc ← payloadWord pl 14 2
    replyText out [asciiBytes "Ok,", decimalBytes fw, [comma], decimalBytes hw, [comma],
      mac.flatMap hexUpper, [comma], byteDecimal ble, [comma], byteDecimal cfg, [comma],
      byteDecimal rr, [comma], decimalBytes rc].flatten
  else replyText out (asciiBytes "Fail")

/-- `HEALTH_STM_BLOCK_LEN`. -/
def healthStmBlockLen : Nat := 42

/-- `0x86`. -/
def respSystemUpdate (pl : List Byte) (status : Byte) (out : List Byte) : UserReply :=
  if status = 0x00 ∧ pl.length ≥ 1 + healthStmBlockLen then do
    let fw ← payloadWord pl 1 2
    let reboots ← payloadWord pl 3 2
    let flags1 ← pl[5]?
    let flags2 ← pl[6]?
    let masks ← payloadWord pl 7 2
    let uptime ← payloadWord pl 9 2
    let rest ← payloadSlice pl 11 7
    let bits (shift : Nat) := hexUpper (UInt8.ofNat (masks / 2 ^ shift % 32))
    let level (i : Nat) := byteDecimal (rest.getD i 0)
    replyText out [asciiBytes "Ok,fw:", decimalBytes fw, asciiBytes ",rc:", decimalBytes reboots,
      asciiBytes ",rr:", decimalBytes (flags1.toNat / 16), asciiBytes ",pl:",
      decimalBytes (flags1.toNat / 8 % 2), asciiBytes ",up:", decimalBytes (uptime * 2),
      asciiBytes ",cfg:", bits 10, asciiBytes ",con:", bits 5, asciiBytes ",seen:", bits 0,
      asciiBytes ",heap:", level 0, asciiBytes ",stk:", level 1, asciiBytes "/", level 2,
      asciiBytes "/", level 3, asciiBytes ",lf:", level 4, asciiBytes ",hci:", level 5,
      asciiBytes ",age:", level 6, asciiBytes ",f2:", hexUpper flags2].flatten
  else replyText out (asciiBytes "Fail")

/-- `peri_cmd_err_str`. -/
def periCmdErrStr (code : Byte) : Option String :=
  [(0x01, "Fail: BLE scan off"), (0x02, "Fail: payload too short"),
    (0x03, "Fail: bad device id (1-5)"), (0x04, "Fail: no id or MAC given"),
    (0x05, "Fail: MAC not found"), (0x06, "Fail: data length overflow"),
    (0x07, "Fail: device not connected"), (0x08, "Fail: bad packet format"),
    (0x09, "Fail: BLE send failed"), (0x0A, "Fail: no response (timeout)")].lookup code

/-- `0xA5`, `0xA6` and `0xA7`. -/
def respHexData (cmd : Byte) (pl : List Byte) (status : Byte) (out : List Byte) : UserReply :=
  let unknown := asciiBytes "Fail: error 0x" ++ hexUpper status
  if status ≠ 0x00 then
    if cmd = 0xA6 ∨ cmd = 0xA7 then
      if status = 0x01 then replyText out (asciiBytes "Fail: BLE scan off")
      else if status = 0x02 then
        replyText out (asciiBytes (if cmd = 0xA7 then "Fail: no fuel data" else "Fail: no ag data"))
      else replyText out unknown
    else replyText out (((periCmdErrStr status).map asciiBytes).getD unknown)
  else if pl.length < 3 then replyText out (asciiBytes "Fail")
  else do
    let dlen ← payloadWord pl 1 2
    if 3 + dlen > pl.length then replyText out (asciiBytes "Fail")
    else
      let data ← payloadSlice pl 3 dlen
      replyHex out (asciiBytes "Ok,") data

/-- `0xA8`. -/
def respPeriInfo (pl : List Byte) (status : Byte) (out : List Byte) : UserReply :=
  if status ≠ 0x00 ∨ pl.length < 4 then replyText out (asciiBytes "Fail")
  else do
    let fwv ← payloadWord pl 1 2
    let hwl ← pl[3]?
    if 4 + hwl.toNat + 6 > pl.length then replyText out (asciiBytes "Fail")
    else
      let hw ← payloadSlice pl 4 hwl.toNat
      let mac ← payloadSlice pl (4 + hwl.toNat) 6
      replyText out [asciiBytes "Ok,", decimalBytes fwv, [comma], cString hw, [comma],
        mac.flatMap hexUpper].flatten

/-- `0xB2`. -/
def respBleData (pl : List Byte) (status : Byte) (out : List Byte) : UserReply :=
  if status ≠ 0x00 ∨ pl.length < 4 then replyText out (asciiBytes "Fail")
  else do
    let count ← pl[1]?
    let tlen ← payloadWord pl 2 2
    if 4 + tlen > pl.length then replyText out (asciiBytes "Fail")
    else
      let data ← payloadSlice pl 4 tlen
      replyHex out [asciiBytes "Ok,", byteDecimal count, [comma]].flatten data

/-- `0xA9`. -/
def respPeriLink (pl : List Byte) (status : Byte) (out : List Byte) : UserReply :=
  if status ≠ 0x00 ∨ pl.length < 2 then replyText out (asciiBytes "Fail")
  else do
    let link ← payloadSlice pl 1 (pl.length - 1)
    replyText out (asciiBytes "Ok," ++ cString link)

/-- `0xA0`. -/
def respScanOn (status : Byte) (out : List Byte) : UserReply :=
  if status = 0x00 then replyText out (asciiBytes "OK")
  else if status = 0x02 then replyText out (asciiBytes "ble-scan-on fail, no device configured")
  else replyText out (asciiBytes "Fail")

/-! ## The lists -/

/-- The head of a list. -/
def listHead (count : Byte) : List Byte := asciiBytes "Ok," ++ byteDecimal count

/-- The record of a reboot; the buffer for its time has 24 bytes. -/
def rebootText (reason : Byte) (epoch : Nat) : List Byte :=
  [[comma], byteDecimal reason, asciiBytes "/", fmtIstDatetime (UInt32.ofNat epoch) 24].flatten

/-- The loop of `0x85` with as many rounds left. -/
def rebootLoop (pl : List Byte) : Nat → Nat → Nat → List Byte → UserReply
  | 0, _, off, out => some (off, out)
  | n + 1, i, off, out =>
    let base := 2 + i * 5
    if base + 5 > pl.length then some (off, out)
    else do
      let reason ← pl[base]?
      let epoch ← payloadWord pl (base + 1) 4
      let text := rebootText reason epoch
      let written := writeText out off text
      if text.length = 0 ∨ off + text.length ≥ out.length then some (off, written)
      else rebootLoop pl n (i + 1) (off + text.length) written

/-- `0x85`. -/
def respRebootInfo (pl : List Byte) (status : Byte) (out : List Byte) : UserReply :=
  if status ≠ 0x00 ∨ pl.length < 2 then replyText out (asciiBytes "Fail")
  else do
    let count ← pl[1]?
    let head := listHead count
    let written := writeText out 0 head
    if head.length = 0 ∨ head.length ≥ out.length then some (head.length, written)
    else rebootLoop pl count.toNat 0 head.length written

/-- The record of a device from the fields of its layout. -/
def blePeriText (devid : Byte) (mac nm : List Byte) (interval : Nat) (dtype offl gps conn : Byte) :
    List Byte :=
  [[comma], byteDecimal devid, asciiBytes "/", mac.flatMap hexUpper, asciiBytes "/", cString nm,
    asciiBytes "/", decimalBytes interval, asciiBytes "/",
    asciiBytes (if dtype = 0x33 then "1" else "0"), asciiBytes "/", byteDecimal offl,
    asciiBytes "/", byteDecimal gps, asciiBytes "/", byteDecimal conn].flatten

/-- The loop of `0xA3` with as many rounds left. -/
def blePeriLoop (pl : List Byte) : Nat → Nat → Nat → List Byte → UserReply
  | 0, _, off, out => some (off, out)
  | n + 1, idx, off, out =>
    if idx + 8 > pl.length then some (off, out)
    else do
      let devid ← pl[idx]?
      let nl ← pl[idx + 7]?
      let dnext := idx + 8 + nl.toNat + 4 + 1 + 1 + 1 + 1
      if dnext > pl.length then some (off, out)
      else
        let mac ← payloadSlice pl (idx + 1) 6
        let nm ← payloadSlice pl (idx + 8) nl.toNat
        let interval ← payloadWord pl (idx + 8 + nl.toNat) 4
        let dtype ← pl[idx + 8 + nl.toNat + 4]?
        let offl ← pl[idx + 8 + nl.toNat + 5]?
        let gps ← pl[idx + 8 + nl.toNat + 6]?
        let conn ← pl[idx + 8 + nl.toNat + 7]?
        let text := blePeriText devid mac nm interval dtype offl gps conn
        let written := writeText out off text
        if text.length = 0 ∨ off + text.length ≥ out.length then some (off, written)
        else blePeriLoop pl n dnext (off + text.length) written

/-- `0xA3`. -/
def respBlePeriList (pl : List Byte) (status reqDevId : Byte) (out : List Byte) : UserReply :=
  if status = 0x02 then replyText out (asciiBytes "Invalid device id, use 1-5")
  else if status = 0x01 then replyText out (byteDecimal reqDevId ++ asciiBytes "-Not-configured")
  else if status ≠ 0x00 ∨ pl.length < 2 then
    replyText out (byteDecimal reqDevId ++ asciiBytes "-Fail")
  else do
    let count ← pl[1]?
    let head := listHead count
    let written := writeText out 0 head
    if head.length = 0 ∨ head.length ≥ out.length then some (head.length, written)
    else blePeriLoop pl count.toNat 2 head.length written

/-- The `switch` of `uart_build_user_resp`. -/
def respOfCmd (cmd : Byte) (pl : List Byte) (status reqDevId : Byte) (out : List Byte) :
    UserReply :=
  if cmd = 0xA2 then respSetBlePeri pl status reqDevId out
  else if cmd = 0xA4 then respDelBlePeri pl status out
  else if cmd = 0x84 then respDevInfo pl status out
  else if cmd = 0x86 then respSystemUpdate pl status out
  else if cmd = 0x85 then respRebootInfo pl status out
  else if cmd = 0xA5 ∨ cmd = 0xA6 ∨ cmd = 0xA7 then respHexData cmd pl status out
  else if cmd = 0xA8 then respPeriInfo pl status out
  else if cmd = 0xB2 then respBleData pl status out
  else if cmd = 0xA9 then respPeriLink pl status out
  else if cmd = 0xA3 then respBlePeriList pl status reqDevId out
  else if cmd = 0xA0 then respScanOn status out
  else replyText out (asciiBytes (if status = 0x00 then "OK" else "Fail"))

/-- `uart_build_user_resp` into the memory `out`. -/
def uartBuildUserResp (cmd : Byte) (pl : List Byte) (reqDevId : Byte) (out : List Byte) :
    UserReply :=
  (if pl.length ≥ 1 then pl[0]? else some 0xFF).bind fun status =>
    respOfCmd cmd pl status reqDevId out

end WalnutGateway
