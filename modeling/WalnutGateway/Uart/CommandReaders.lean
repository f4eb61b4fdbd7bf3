import WalnutGateway.Uart.CommandMap

/-!
# The readers of the STM commands

An encoder takes a text for some values and writes them as the payload of a frame. Taken apart:
what the readers take a text for, the payload of some values, and what the STM finds in it. The
encoders do the first two in one pass, and the STM finds what was taken.
-/

namespace WalnutGateway

/-! ## Values -/

/-- The commands with arguments that are checked. -/
inductive StmCommand where
  | setBlePeriInfo
  | periCmd
  | setBlePeriCmd
  | delBlePeriInfo
  | getPeriInfo
  | setGsmStatus
deriving DecidableEq

/-- The name in the text of a command. -/
def StmCommand.name : StmCommand → List Byte
  | .setBlePeriInfo => asciiBytes "set-ble-peri-info"
  | .periCmd => asciiBytes "peri-cmd"
  | .setBlePeriCmd => asciiBytes "set-ble-peri-cmd"
  | .delBlePeriInfo => asciiBytes "del-ble-peri-info"
  | .getPeriInfo => asciiBytes "get-peri-info"
  | .setGsmStatus => asciiBytes "set-gsm-status"

/-- What `set-ble-peri-info` sets: the last three are offline logging, position, and whether the
device is connectable. -/
structure BlePeri where
  id : Nat
  mac : List Byte
  name : List Byte
  interval : Nat
  log : Bool
  gps : Bool
  type : Bool
deriving DecidableEq

/-- What `peri-cmd` sends, and to whom. -/
structure PeriCmd where
  id : Nat
  mac : List Byte
  data : List Byte
deriving DecidableEq

/-- The values of a command. -/
inductive StmValues where
  | devId (id : Nat)
  | gsmStatus (status : Bool)
  | blePeri (v : BlePeri)
  | periCmd (v : PeriCmd)
deriving DecidableEq

/-- The payload of some values. -/
def StmValues.payload : StmValues → List Byte
  | .devId id => [UInt8.ofNat id]
  | .gsmStatus status => [if status then 0x01 else 0x00]
  | .blePeri v =>
    [UInt8.ofNat v.id] ++ v.mac ++ [UInt8.ofNat v.name.length] ++ v.name ++ beBytes 4 v.interval ++
      [if v.log then 0x01 else 0x00, if v.gps then 0x01 else 0x00, if v.type then 0x33 else 0x34]
  | .periCmd v => [UInt8.ofNat v.id] ++ v.mac ++ beBytes 2 v.data.length ++ v.data

/-- The hex loop without a bound on the room. -/
def hexRead : Option Nat → List Byte → Option (List Byte)
  | hi, [] => if hi.isSome then none else some []
  | hi, c :: s =>
    if c = 0x0D ∨ c = 0x0A then if hi.isSome then none else some []
    else if isBlank c then hexRead hi s
    else
      match stmHexNibble c, hi with
      | none, _ => none
      | some nib, none => hexRead (some nib) s
      | some nib, some hi => (hexRead none s).map (UInt8.ofNat (16 * hi + nib) :: ·)

/-- What the readers of `enc_set_ble_peri` take a text for. -/
def readBlePeri (args : List Byte) : Option BlePeri :=
  match args :: fieldStarts 6 args with
  | [f0, f1, f2, f3, f4, f5, f6] => do
    let id ← parseDevId f0 1 5
    let mac ← macToBytes f1
    let name := f2.takeWhile (· ≠ comma)
    if comma ∉ f2 ∨ name.length = 0 ∨ name.length > 15 then none else
    let log ← stmParseBool f4
    let gps ← stmParseBool f5
    let type ← stmParseBool f6
    some ⟨id, mac, name, strtoulValue f3, log, gps, type⟩
  | _ => none

/-- What the readers of `enc_peri_cmd` take a text for. -/
def readPeriCmd (args : List Byte) : Option PeriCmd :=
  match fieldStarts 3 args with
  | [macS, _, hex] => do
    let id ← parseDevId args 0 5
    let mac ← periMac macS
    let data ← hexRead none hex
    some ⟨id, mac, data⟩
  | _ => none

/-- What the readers of a command take a text for. -/
def StmCommand.read (c : StmCommand) (args : List Byte) : Option StmValues :=
  match c with
  | .delBlePeriInfo | .getPeriInfo => (parseDevId args 1 5).map .devId
  | .setGsmStatus => if args = [] then none else some (.gsmStatus (atol args ≠ 0))
  | .setBlePeriInfo => (readBlePeri args).map .blePeri
  | .periCmd | .setBlePeriCmd => (readPeriCmd args).map .periCmd

/-- Pairs of hex digits with colons between them. -/
inductive MacText : List Byte → List Byte → Prop
  | last {a b v : Byte} (h : stmHexPair a b = some v) : MacText [a, b] [v]
  | pair {a b v : Byte} {t mac : List Byte} (h : stmHexPair a b = some v) (ht : MacText t mac) :
    MacText (a :: b :: colon :: t) (v :: mac)

theorem MacText.length {t mac : List Byte} (h : MacText t mac) :
    t.length + 1 = 3 * mac.length := by
  induction h with
  | last => rfl
  | pair _ _ ih =>
    simp only [List.length_cons]
    omega

/-- The opcode of a command. -/
def StmCommand.opcode : StmCommand → Byte
  | .setBlePeriInfo => 0x22
  | .periCmd | .setBlePeriCmd => 0x25
  | .delBlePeriInfo => 0x24
  | .getPeriInfo => 0x28
  | .setGsmStatus => 0x31

/-- The encoder of a command. -/
def StmCommand.encode : StmCommand → Option (List Byte) → Nat → Option (List Byte)
  | .setBlePeriInfo => encSetBlePeri
  | .periCmd | .setBlePeriCmd => encPeriCmd
  | .delBlePeriInfo | .getPeriInfo => encDevId15
  | .setGsmStatus => encGsmStatus

/-- The text of a command. -/
def StmCommand.text (c : StmCommand) (args : List Byte) : List Byte := c.name ++ comma :: args

theorem StmCommand.comma_notMem_name (c : StmCommand) : comma ∉ c.name := by
  cases c <;> decide

theorem takeWhile_field {t : List Byte} (h : comma ∉ t) (s : List Byte) :
    (t ++ comma :: s).takeWhile (· ≠ comma) = t := by
  rw [List.takeWhile_append_of_pos, List.takeWhile_cons_of_neg (by simp), List.append_nil]
  intro b hb
  exact decide_eq_true (ne_of_mem_of_not_mem hb h)

/-- A command is found by its name. -/
theorem StmCommand.find (c : StmCommand) (args : List Byte) :
    kCmdTable.find? (cmdNameToken (c.text args) 40 = ·.name) =
      some ⟨c.name, c.opcode, some c.encode⟩ := by
  have hname : cmdNameToken (c.text args) 40 = c.name := by
    rw [cmdNameToken, StmCommand.text, takeWhile_field c.comma_notMem_name]
    cases c <;> rfl
  rw [hname]
  cases c <;> rfl

end WalnutGateway
