import WalnutGateway.Core.Bytes
import Mathlib.Data.Rat.Floor
import Mathlib.Tactic.Linarith
import Mathlib.Tactic.FieldSimp
import Mathlib.Tactic.Positivity

/-!
# Decimal numbers

The digits that `printf` writes for a number, with a fixed number of decimals where the number is a
fraction. A fraction is rounded to the nearest, and halves to even. What is printed is the number
itself exactly where it has no more decimals.
-/

namespace WalnutGateway

/-! ## Digits -/

/-- The character of a digit. -/
def digitByte (d : Nat) : Byte := UInt8.ofNat (0x30 + d)

/-- The number that some digits stand for, behind `start`. -/
def digitsFrom (start : Nat) (digits : List Byte) : Nat :=
  digits.foldl (fun n c => 10 * n + (c.toNat - 0x30)) start

/-- The digits of a number in at most `fuel` divisions. -/
def decimalDigits : Nat → Nat → List Byte
  | 0, n => [digitByte (n % 10)]
  | fuel + 1, n =>
    if n < 10 then [digitByte n] else decimalDigits fuel (n / 10) ++ [digitByte (n % 10)]

/-- `%u`. -/
def decimalBytes (n : Nat) : List Byte := decimalDigits n n

/-- The last `width` digits of a number. -/
def paddedDigits : Nat → Nat → List Byte
  | 0, _ => []
  | width + 1, n => paddedDigits width (n / 10) ++ [digitByte (n % 10)]

theorem toNat_digitByte {d : Nat} (h : d < 10) : (digitByte d).toNat = 0x30 + d := by
  rw [digitByte, UInt8.toNat_ofNat']
  omega

theorem decimalDigits_ne_nil (fuel n : Nat) : decimalDigits fuel n ≠ [] := by
  cases fuel with
  | zero => exact List.cons_ne_nil _ _
  | succ fuel =>
    unfold decimalDigits
    split_ifs
    · exact List.cons_ne_nil _ _
    · exact List.append_ne_nil_of_right_ne_nil _ (List.cons_ne_nil _ _)

theorem decimalBytes_ne_nil (n : Nat) : decimalBytes n ≠ [] := decimalDigits_ne_nil n n

/-- All characters are digits. -/
theorem mem_decimalDigits {fuel n : Nat} {c : Byte} (h : c ∈ decimalDigits fuel n) :
    ∃ d < 10, c = digitByte d := by
  induction fuel generalizing n with
  | zero => exact ⟨n % 10, Nat.mod_lt _ (by decide), List.mem_singleton.mp h⟩
  | succ fuel ih =>
    unfold decimalDigits at h
    split_ifs at h with hn
    · exact ⟨n, hn, List.mem_singleton.mp h⟩
    · rcases List.mem_append.mp h with h | h
      · exact ih h
      · exact ⟨n % 10, Nat.mod_lt _ (by decide), List.mem_singleton.mp h⟩

theorem mem_paddedDigits {width n : Nat} {c : Byte} (h : c ∈ paddedDigits width n) :
    ∃ d < 10, c = digitByte d := by
  induction width generalizing n with
  | zero => cases h
  | succ width ih =>
    rcases List.mem_append.mp h with h | h
    · exact ih h
    · exact ⟨n % 10, Nat.mod_lt _ (by decide), List.mem_singleton.mp h⟩

theorem digitsFrom_append_digitByte {start d : Nat} (digits : List Byte) (h : d < 10) :
    digitsFrom start (digits ++ [digitByte d]) = 10 * digitsFrom start digits + d := by
  rw [digitsFrom, List.foldl_append, List.foldl_cons, List.foldl_nil, toNat_digitByte h,
    Nat.add_sub_cancel_left]
  rfl

/-- The digits stand for the number. -/
theorem digitsFrom_decimalDigits {fuel n : Nat} (h : n ≤ fuel) :
    digitsFrom 0 (decimalDigits fuel n) = n := by
  induction fuel generalizing n with
  | zero =>
    obtain rfl := Nat.le_zero.mp h
    rfl
  | succ fuel ih =>
    unfold decimalDigits
    split_ifs with hn
    · rw [← List.nil_append [digitByte n], digitsFrom_append_digitByte [] hn]
      simp [digitsFrom]
    · rw [digitsFrom_append_digitByte _ (Nat.mod_lt _ (by decide)), ih (by omega)]
      omega

theorem digitsFrom_decimalBytes (n : Nat) : digitsFrom 0 (decimalBytes n) = n :=
  digitsFrom_decimalDigits le_rfl

/-- Padded digits behind a number. -/
theorem digitsFrom_paddedDigits (start width n : Nat) :
    digitsFrom start (paddedDigits width n) = start * 10 ^ width + n % 10 ^ width := by
  induction width generalizing n with
  | zero => simp [paddedDigits, digitsFrom, Nat.mod_one]
  | succ width ih =>
    rw [paddedDigits, digitsFrom_append_digitByte _ (Nat.mod_lt _ (by decide)), ih, pow_succ',
      Nat.mod_mul]
    ring

theorem length_paddedDigits (width n : Nat) : (paddedDigits width n).length = width := by
  induction width generalizing n with
  | zero => rfl
  | succ width ih => rw [paddedDigits, List.length_append, ih, List.length_singleton]

/-! ## Fractions -/

/-- Round to the nearest natural number, halves to even. -/
def roundEven (q : ℚ) : Nat :=
  let below := ⌊q⌋.toNat
  if q - below < 1 / 2 then below
  else if 1 / 2 < q - below then below + 1
  else if below % 2 = 0 then below else below + 1

theorem roundEven_natCast (n : Nat) : roundEven n = n := by
  simp [roundEven]

/-- A number of `unit`s with `decimals` decimals behind the point. -/
def fixedBytes (negative : Bool) (decimals units : Nat) : List Byte :=
  (if negative then [0x2D] else []) ++ decimalBytes (units / 10 ^ decimals) ++
    (if decimals = 0 then [] else 0x2E :: paddedDigits decimals units)

/-- What these bytes stand for. -/
def fixedValue (negative : Bool) (decimals units : Nat) : ℚ :=
  if negative then -(units / 10 ^ decimals) else units / 10 ^ decimals

/-- `%.1f`, `%.0f` and `%.2f`: how often the last digit counts. -/
def fixedUnits (decimals : Nat) (q : ℚ) : Nat := roundEven (|q| * 10 ^ decimals)

/-- A number that has at most so many decimals. -/
def HasDecimals (decimals : Nat) (q : ℚ) : Prop := ∃ n : ℤ, q * 10 ^ decimals = n

/-- What is printed is the number itself exactly if it has no more decimals. -/
theorem fixedValue_fixedUnits_iff (decimals : Nat) (q : ℚ) :
    fixedValue (q < 0) decimals (fixedUnits decimals q) = q ↔ HasDecimals decimals q := by
  have hpow : (10 : ℚ) ^ decimals ≠ 0 := by positivity
  constructor
  · intro h
    rw [fixedValue] at h
    split_ifs at h
    · refine ⟨-(fixedUnits decimals q : ℤ), ?_⟩
      rw [← h, neg_mul, div_mul_cancel₀ _ hpow]
      push_cast
      rw [h]
    · refine ⟨(fixedUnits decimals q : ℤ), ?_⟩
      rw [← h, div_mul_cancel₀ _ hpow]
      push_cast
      rw [h]
  · rintro ⟨n, hn⟩
    have hpos : |(10 : ℚ) ^ decimals| = 10 ^ decimals := abs_of_pos (by positivity)
    have habs : |q| * 10 ^ decimals = (n.natAbs : ℚ) := by
      rw [Nat.cast_natAbs, Int.cast_abs, ← hn, abs_mul, hpos]
    have hunits : fixedUnits decimals q = n.natAbs := by
      rw [fixedUnits, habs, roundEven_natCast]
    have hquot : (n.natAbs : ℚ) / 10 ^ decimals = |q| := by
      rw [← habs, mul_div_cancel_right₀ _ hpow]
    rw [fixedValue, hunits, hquot]
    split_ifs with hneg
    · rw [abs_of_neg (of_decide_eq_true hneg), neg_neg]
    · exact abs_of_nonneg (not_lt.mp fun h => hneg (decide_eq_true h))

end WalnutGateway
