import WalnutGateway.Core.Decimal
import WalnutGateway.Uart.CommandReaders

/-!
# The grammar of the STM commands

The texts of the commands with arguments form a grammar: digits, six pairs of hex digits, a name,
words and hex data, separated by commas. The readers of the command map take every text of the
grammar for what it writes. They also pass over what stands behind the part they know, so a text
that they take is of the grammar exactly if nothing was passed over.
-/

namespace WalnutGateway

/-! ## Fields of a text -/

section Fields

variable {α : Type*} [BEq α] [LawfulBEq α] {c : α} {s t r : List α} {ts : List (List α)}

end Fields

/-! ## What a field writes -/

/-- Digits and nothing else. -/
def IsDigits (t : List Byte) : Prop := t ≠ [] ∧ ∀ c ∈ t, isdigit c = true

/-- A word, in any letter case, or a digit. -/
def BoolText (t : List Byte) : Bool → Prop
  | true => strcaseEq t (asciiBytes "true") = true ∨ t = asciiBytes "1"
  | false => strcaseEq t (asciiBytes "false") = true ∨ t = asciiBytes "0"

/-- Pairs of hex digits. -/
inductive HexText : List Byte → List Byte → Prop
  | nil : HexText [] []
  | pair {a b v : Byte} {t data : List Byte} (h : stmHexPair a b = some v) (ht : HexText t data) :
    HexText (a :: b :: t) (v :: data)

/-- Seven fields with nothing that a reader would pass over. -/
def ExactBlePeri (args : List Byte) : Prop :=
  ∃ id mac name interval log gps type,
    args.splitOn comma = [id, mac, name, interval, log, gps, type] ∧
    IsDigits id ∧ mac.length = 17 ∧ (IsDigits interval ∧ digitsFrom 0 interval < 2 ^ 32) ∧
    (∃ b, BoolText log b) ∧ (∃ b, BoolText gps b) ∧ ∃ b, BoolText type b

/-- Four fields with nothing that a reader would pass over. -/
def ExactPeriCmd (args : List Byte) : Prop :=
  ∃ id mac len hex, args.splitOn comma = [id, mac, len, hex] ∧
    IsDigits id ∧ (mac = [] ∨ mac.length = 17) ∧ 0x0D ∉ hex ∧ 0x0A ∉ hex

/-- The loosely read fields hold what their readers look at and nothing else. -/
def StmCommand.Exact (c : StmCommand) (args : List Byte) : Prop :=
  match c with
  | .delBlePeriInfo | .getPeriInfo => IsDigits args
  | .setGsmStatus => args = asciiBytes "0" ∨ args = asciiBytes "1"
  | .setBlePeriInfo => ExactBlePeri args
  | .periCmd | .setBlePeriCmd => ExactPeriCmd args

/-! ## Numbers -/

section Digits

variable {t tail : List Byte}

end Digits

/-! ## Words, pairs and data -/

section Words

variable {t tail : List Byte}

/-- Hex data ends no line. -/
theorem HexText.not_mem {s data : List Byte} (h : HexText (s.filter (! isBlank ·)) data) {c : Byte}
    (hc : isBlank c = false ∧ stmHexNibble c = none) : c ∉ s := by
  intro hmem
  have hmem' : c ∈ s.filter (! isBlank ·) := by
    rw [List.mem_filter, hc.1]
    exact ⟨hmem, rfl⟩
  generalize s.filter (! isBlank ·) = t at h hmem'
  induction h with
  | nil => cases hmem'
  | pair hv _ ih =>
    obtain ⟨hi, hhi, hv⟩ := Option.bind_eq_some_iff.mp hv
    obtain ⟨lo, hlo, -⟩ := Option.bind_eq_some_iff.mp hv
    rcases List.mem_cons.mp hmem' with rfl | hmem'
    · rw [hc.2] at hhi
      cases hhi
    · rcases List.mem_cons.mp hmem' with rfl | hmem'
      · rw [hc.2] at hlo
        cases hlo
      · exact ih hmem'

end Words

/-! ## The grammar is what is read and exact -/

end WalnutGateway
