import WalnutGateway.Common.Text
import WalnutGateway.Core.BigEndian
import WalnutGateway.Uart.Codec

/-!
# Commands for the STM

`common/stm_command_map.c`: a command text is looked up by its name, and the text behind the
first comma becomes the payload of a frame. An encoder is readers for the fields, each of which
starts behind a comma, and bytes for what they have read.
-/

namespace WalnutGateway

/-! ## Fields -/

/-- `hex_nibble`; `none` for -1. -/
def stmHexNibble (c : Byte) : Option Nat :=
  if 0x30 ≤ c ∧ c ≤ 0x39 then some (c.toNat - 0x30)
  else if 0x61 ≤ c ∧ c ≤ 0x66 then some (c.toNat - 0x61 + 10)
  else if 0x41 ≤ c ∧ c ≤ 0x46 then some (c.toNat - 0x41 + 10)
  else none

/-- The byte of two hex digits. -/
def stmHexPair (a b : Byte) : Option Byte := do
  let hi ← stmHexNibble a
  let lo ← stmHexNibble b
  some (UInt8.ofNat (16 * hi + lo))

/-- The loop of `mac_to_bytes` with as many rounds left. -/
def macPairs : Nat → List Byte → Option (List Byte)
  | 0, _ => some []
  | 1, a :: b :: _ => (stmHexPair a b).map ([·])
  | n + 2, a :: b :: c :: s =>
    (stmHexPair a b).bind fun v =>
      if c ≠ colon then none else (macPairs (n + 1) s).map (v :: ·)
  | _, _ => none

/-- `mac_to_bytes`; `none` for 0. -/
def macToBytes (s : List Byte) : Option (List Byte) := macPairs 6 s

/-- `parse_dev_id`; `none` for -1. -/
def parseDevId (args : List Byte) (lo hi : Nat) : Option Nat :=
  if args = [] then none
  else if atol args < lo ∨ atol args > hi then none
  else some (atol args).toNat

/-- `parse_bool` of the command map; `none` for -1. -/
def stmParseBool (s : List Byte) : Option Bool :=
  if strncaseEq (asciiBytes "true") s then some true
  else if strncaseEq (asciiBytes "false") s then some false
  else if s.head? = some 0x31 then some true
  else if s.head? = some 0x30 then some false
  else none

/-- The pointers that the loop of `enc_set_ble_peri` sets: at most as many, behind the commas. -/
def fieldStarts : Nat → List Byte → List (List Byte)
  | 0, _ => []
  | _ + 1, [] => []
  | n + 1, c :: s => if c = comma then s :: fieldStarts n s else fieldStarts (n + 1) s

/-- `strtoul` where no end is asked for. -/
def strtoulValue (s : List Byte) : Nat := (strtoul s).elim 0 Prod.fst

/-- The hex loop of `enc_peri_cmd` with the digit kept and the room left. -/
def hexData : Option Nat → Nat → List Byte → Option (List Byte)
  | hi, _, [] => if hi.isSome then none else some []
  | hi, room, c :: s =>
    if c = 0x0D ∨ c = 0x0A then if hi.isSome then none else some []
    else if isBlank c then hexData hi room s
    else
      match stmHexNibble c, hi with
      | none, _ => none
      | some nib, none => hexData (some nib) room s
      | some nib, some hi =>
        if room = 0 then none
        else (hexData none (room - 1) s).map (UInt8.ofNat (16 * hi + nib) :: ·)

/-! ## Encoders -/

/-- `enc_dev_id_1_5`. -/
def encDevId15 (args : Option (List Byte)) (cap : Nat) : Option (List Byte) :=
  if cap < 1 then none
  else args.bind fun args => (parseDevId args 1 5).map fun id => [UInt8.ofNat id]

/-- `enc_dev_id_get_peri`. -/
def encDevIdGetPeri (args : Option (List Byte)) (cap : Nat) : Option (List Byte) :=
  if cap < 1 then none
  else
    match args with
    | none | some [] => some [0x00]
    | some args => some [if 1 ≤ atol args ∧ atol args ≤ 5 then intByte (atol args) else 0xFF]

/-- `enc_gsm_status`. -/
def encGsmStatus (args : Option (List Byte)) (cap : Nat) : Option (List Byte) :=
  if cap < 1 then none
  else
    match args with
    | none | some [] => none
    | some args => some [if atol args ≠ 0 then 0x01 else 0x00]

/-- `enc_set_ble_peri`. -/
def encSetBlePeri (args : Option (List Byte)) (cap : Nat) : Option (List Byte) := do
  let args ← args
  match args :: fieldStarts 6 args with
  | [f0, f1, f2, f3, f4, f5, f6] =>
    let id ← parseDevId f0 1 5
    let mac ← macToBytes f1
    let name := f2.takeWhile (· ≠ comma)
    if comma ∉ f2 then none else
    if name.length = 0 ∨ name.length > 15 then none else
    let interval := strtoulValue f3
    let log ← stmParseBool f4
    let gps ← stmParseBool f5
    let type ← stmParseBool f6
    if cap < 1 + 6 + 1 + name.length + 4 + 1 + 1 + 1 then none else
    some ([UInt8.ofNat id] ++ mac ++ [UInt8.ofNat name.length] ++ name ++ beBytes 4 interval ++
      [if log then 0x01 else 0x00, if gps then 0x01 else 0x00, if type then 0x33 else 0x34])
  | _ => none

/-- The MAC field of `enc_peri_cmd`: zeros where it is empty. -/
def periMac (macS : List Byte) : Option (List Byte) :=
  if macS.head? = some comma then some (List.replicate 6 0) else macToBytes macS

/-- `enc_peri_cmd`. -/
def encPeriCmd (args : Option (List Byte)) (cap : Nat) : Option (List Byte) := do
  let args ← args
  let id ← parseDevId args 0 5
  match fieldStarts 3 args with
  | [macS, _, hex] =>
    let mac ← periMac macS
    if cap < 1 + 6 + 2 then none else
    let data ← hexData none (cap - 9) hex
    some ([UInt8.ofNat id] ++ mac ++ beBytes 2 data.length ++ data)
  | _ => none

/-! ## The table -/

/-- `StmCmdEntry`. -/
structure StmCmdEntry where
  name : List Byte
  opcode : Byte
  encode : Option (Option (List Byte) → Nat → Option (List Byte))

/-- `k_cmd_table`. -/
def kCmdTable : List StmCmdEntry :=
  [⟨asciiBytes "set-stm-reboot", 0x01, none⟩,
    ⟨asciiBytes "system-restart", 0x02, none⟩,
    ⟨asciiBytes "set-stm-factory-reset", 0x03, none⟩,
    ⟨asciiBytes "get-device-info", 0x04, none⟩,
    ⟨asciiBytes "get-reboot-info", 0x05, none⟩,
    ⟨asciiBytes "system_alive", 0x06, none⟩,
    ⟨asciiBytes "set-ble-scan-on", 0x20, none⟩,
    ⟨asciiBytes "set-ble-scan-off", 0x21, none⟩,
    ⟨asciiBytes "get-ag-data", 0x26, none⟩,
    ⟨asciiBytes "get-fuel-data", 0x27, none⟩,
    ⟨asciiBytes "get-ble-data", 0x32, none⟩,
    ⟨asciiBytes "get-peri-link", 0x29, none⟩,
    ⟨asciiBytes "set-ble-peri-info", 0x22, some encSetBlePeri⟩,
    ⟨asciiBytes "get-ble-peri-info", 0x23, some encDevIdGetPeri⟩,
    ⟨asciiBytes "del-ble-peri-info", 0x24, some encDevId15⟩,
    ⟨asciiBytes "peri-cmd", 0x25, some encPeriCmd⟩,
    ⟨asciiBytes "set-ble-peri-cmd", 0x25, some encPeriCmd⟩,
    ⟨asciiBytes "get-peri-info", 0x28, some encDevId15⟩,
    ⟨asciiBytes "set-gsm-status", 0x31, some encGsmStatus⟩]

/-- `cmd_name_token` into a buffer of the given size. -/
def cmdNameToken (asciiCmd : List Byte) (cap : Nat) : List Byte :=
  (asciiCmd.takeWhile (· ≠ comma)).take (cap - 1)

/-- What `stm_cmd_build_from_ascii` returns: `STM_CMD_UNKNOWN`, `STM_CMD_BUILD_ERR` or a frame. -/
inductive StmCmdBuild where
  | unknown
  | err
  | frame (bytes : List Byte)
deriving DecidableEq

/-- `stm_cmd_build_from_ascii` of a text into a buffer of `outCap` bytes. -/
def stmCmdBuildFromAscii (asciiCmd : List Byte) (srcType : Byte) (srcAddr : List Byte)
    (outCap : Nat) : StmCmdBuild :=
  let name := cmdNameToken asciiCmd 40
  match kCmdTable.find? (name = ·.name) with
  | none => .unknown
  | some e =>
    let payload :=
      match e.encode with
      | none => some []
      | some encode => encode (fieldStarts 1 asciiCmd).head? stmMaxPayload
    match payload with
    | none => .err
    | some payload =>
      match stmBuildFrameSrc outCap srcType srcAddr e.opcode payload with
      | none => .err
      | some frame => .frame frame

/-- Slot 5 is to be deleted. -/
example : stmCmdBuildFromAscii (asciiBytes "del-ble-peri-info,5") 0x03 [] 64 =
    .frame [0xAA, 0x55, 0x01, 0x01, 0x03, 0x00, 0x24, 0x00, 0x01, 0x05, 0x22, 0xAE] := by
  decide +kernel

end WalnutGateway
