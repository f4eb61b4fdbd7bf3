import Mathlib.Data.List.Basic
import Mathlib.Data.Nat.Bitwise

/-!
# Shift-register checksums

A register of `w` bits takes a message bit by bit: it moves down by one place, and a polynomial
is added where the bit that falls out and the message bit differ. The register is linear, so two
messages of one length are told apart by what the register makes of their difference. If the
polynomial has its top bit, no difference within `w` bits in a row goes unnoticed, however long
the messages are.
-/

namespace WalnutGateway

namespace ShiftRegister

variable {w : Nat} (poly : BitVec w)

/-- The register takes a bit. -/
def step (s : BitVec w) (b : Bool) : BitVec w :=
  if (s.getLsbD 0 ^^ b) then (s >>> 1) ^^^ poly else s >>> 1

/-- The register takes a message. -/
def run (s : BitVec w) (bits : List Bool) : BitVec w := bits.foldl (step poly) s

/-- Some bit from place `m` on is set. -/
def Reaches (m : Nat) (s : BitVec w) : Prop := ∃ i, m ≤ i ∧ s.getLsbD i = true

variable {poly} {s t : BitVec w}

@[simp] theorem run_nil (s : BitVec w) : run poly s [] = s := rfl

@[simp] theorem run_cons (s : BitVec w) (b : Bool) (bits : List Bool) :
    run poly s (b :: bits) = run poly (step poly s b) bits := rfl

theorem run_append (s : BitVec w) (u v : List Bool) :
    run poly s (u ++ v) = run poly (run poly s u) v := List.foldl_append

/-! ## Linearity -/

theorem step_xor (s t : BitVec w) (a b : Bool) :
    step poly (s ^^^ t) (a ^^ b) = step poly s a ^^^ step poly t b := by
  apply BitVec.eq_of_getLsbD_eq
  intro i hi
  unfold step
  cases hs : s.getLsbD 0 <;> cases ht : t.getLsbD 0 <;> cases a <;> cases b <;>
    simp [hs, ht, BitVec.getLsbD_ushiftRight, Bool.xor_left_comm, Bool.xor_comm]

/-- Two messages of one length and what the register makes of their difference. -/
theorem run_xor (s t : BitVec w) {u v : List Bool} (h : u.length = v.length) :
    run poly (s ^^^ t) (List.zipWith xor u v) = run poly s u ^^^ run poly t v := by
  induction u generalizing s t v with
  | nil =>
    obtain rfl : v = [] := List.length_eq_zero_iff.mp h.symm
    rfl
  | cons a u ih =>
    cases v with
    | nil => cases h
    | cons b v =>
      rw [List.zipWith_cons_cons, run_cons, run_cons, run_cons, step_xor]
      exact ih _ _ (Nat.succ.inj h)

/-- A word added to the register and moved through it is taken bit by bit. -/
theorem repeat_step_xor (s x : BitVec w) (n : Nat) :
    Nat.repeat (fun s => step poly s false) n (s ^^^ x) =
      run poly s ((List.range n).map x.getLsbD) ^^^ (x >>> n) := by
  induction n with
  | zero => simp [Nat.repeat]
  | succ n ih =>
    have hlow : (x >>> n).getLsbD 0 = x.getLsbD n := by
      rw [BitVec.getLsbD_ushiftRight, Nat.add_zero]
    have hshift : step poly (x >>> n) (x.getLsbD n) = x >>> (n + 1) := by
      rw [step, hlow, Bool.xor_self, if_neg Bool.false_ne_true, ← BitVec.shiftRight_add]
    rw [Nat.repeat, ih, List.range_succ, List.map_append, List.map_singleton, run_append, run_cons,
      run_nil, ← hshift, ← step_xor, Bool.xor_self]

/-! ## Bursts -/

theorem Reaches.ne_zero {m : Nat} (h : Reaches m s) : s ≠ 0#w := by
  rintro rfl
  obtain ⟨i, -, hi⟩ := h
  rw [BitVec.getLsbD_zero] at hi
  cases hi

/-- Where the polynomial is added, the top bit is set. -/
theorem reaches_step_top (hpoly : poly.getLsbD (w - 1) = true) {b : Bool}
    (h : (s.getLsbD 0 ^^ b) = true) {m : Nat} (hm : m ≤ w - 1) : Reaches m (step poly s b) := by
  have hw : w - 1 < w := BitVec.lt_of_getLsbD hpoly
  refine ⟨w - 1, hm, ?_⟩
  rw [step, if_pos h, BitVec.getLsbD_xor, hpoly, BitVec.getLsbD_ushiftRight,
    BitVec.getLsbD_of_ge s (1 + (w - 1)) (by omega)]
  rfl

/-- A set bit moves down by at most one place. -/
theorem Reaches.step (hpoly : poly.getLsbD (w - 1) = true) {m : Nat} (h : Reaches (m + 1) s)
    (b : Bool) : Reaches m (step poly s b) := by
  obtain ⟨i, hi, hbit⟩ := h
  have hw : i < w := BitVec.lt_of_getLsbD hbit
  by_cases hfeed : (s.getLsbD 0 ^^ b) = true
  · exact reaches_step_top hpoly hfeed (by omega)
  · refine ⟨i - 1, by omega, ?_⟩
    rw [ShiftRegister.step, if_neg hfeed, BitVec.getLsbD_ushiftRight, Nat.add_sub_of_le (by omega)]
    exact hbit

/-- A register that is not empty stays so. -/
theorem Reaches.step_false (hpoly : poly.getLsbD (w - 1) = true) (h : Reaches 0 s) :
    Reaches 0 (ShiftRegister.step poly s false) := by
  cases hlow : s.getLsbD 0 with
  | true => exact reaches_step_top hpoly (by rw [hlow]; rfl) (Nat.zero_le _)
  | false =>
    obtain ⟨i, -, hbit⟩ := h
    have hpos : i ≠ 0 := by
      rintro rfl
      rw [hlow] at hbit
      cases hbit
    exact Reaches.step hpoly ⟨i, by omega, hbit⟩ false

theorem Reaches.run (hpoly : poly.getLsbD (w - 1) = true) (bits : List Bool) {m : Nat}
    (h : Reaches (m + bits.length) s) : Reaches m (run poly s bits) := by
  induction bits generalizing s with
  | nil => exact h
  | cons b bits ih =>
    rw [run_cons]
    exact ih (Reaches.step hpoly (by rwa [List.length_cons, ← Nat.add_assoc] at h) b)

theorem run_replicate_false_zero (n : Nat) :
    ShiftRegister.run poly 0#w (List.replicate n false) = 0#w := by
  induction n with
  | zero => rfl
  | succ n ih =>
    rw [List.replicate_succ, run_cons]
    have hzero : ShiftRegister.step poly 0#w false = 0#w := by simp [ShiftRegister.step]
    rw [hzero, ih]

/-- A difference within `w` bits in a row is noticed. -/
theorem run_burst_ne_zero (hpoly : poly.getLsbD (w - 1) = true) (before : Nat) {bits : List Bool}
    (hbits : bits.length < w) (after : Nat) :
    ShiftRegister.run poly 0#w
      (List.replicate before false ++ true :: (bits ++ List.replicate after false)) ≠ 0#w := by
  rw [run_append, run_replicate_false_zero, run_cons, run_append]
  have hfirst : Reaches (0 + bits.length) (ShiftRegister.step poly 0#w true) :=
    reaches_step_top hpoly (by simp) (by omega)
  have hwindow : Reaches 0 (ShiftRegister.run poly (ShiftRegister.step poly 0#w true) bits) :=
    hfirst.run hpoly bits
  generalize ShiftRegister.run poly (ShiftRegister.step poly 0#w true) bits = s at hwindow
  refine Reaches.ne_zero (?_ : Reaches 0 _)
  induction after generalizing s with
  | zero => exact hwindow
  | succ n ih =>
    rw [List.replicate_succ, run_cons]
    exact ih _ (hwindow.step_false hpoly)

/-- Bits of which those set lie within `n` in a row: nothing, the first of them, fewer than `n`
more, and nothing. -/
theorem exists_burst {e : List Bool} {first n : Nat} (hset : ∃ i : Nat, e[i]? = some true)
    (hwindow : ∀ i : Nat, e[i]? = some true → first ≤ i ∧ i < first + n) :
    ∃ before bits after, bits.length < n ∧
      e = List.replicate before false ++ true :: (bits ++ List.replicate after false) := by
  induction e generalizing first with
  | nil =>
    obtain ⟨i, hi⟩ := hset
    rw [List.getElem?_nil] at hi
    cases hi
  | cons b e ih =>
    cases b with
    | true =>
      have hhere := hwindow 0 rfl
      have hrest : e.drop (n - 1) = List.replicate (e.drop (n - 1)).length false := by
        rw [List.eq_replicate_iff]
        refine ⟨rfl, fun c hc => ?_⟩
        obtain ⟨j, hj⟩ := List.mem_iff_getElem?.mp hc
        cases c with
        | false => rfl
        | true =>
          rw [List.getElem?_drop] at hj
          have hlate := hwindow (n - 1 + j + 1) (by rwa [List.getElem?_cons_succ])
          omega
      refine ⟨0, e.take (n - 1), (e.drop (n - 1)).length, ?_, ?_⟩
      · rw [List.length_take]
        omega
      · rw [← hrest, List.take_append_drop]
        rfl
    | false =>
      obtain ⟨i, hi⟩ := hset
      have hnext : ∃ i : Nat, e[i]? = some true := by
        cases i with
        | zero => cases hi
        | succ i => exact ⟨i, by rwa [List.getElem?_cons_succ] at hi⟩
      have hlater (i : Nat) (hi : e[i]? = some true) : first - 1 ≤ i ∧ i < first - 1 + n := by
        have hnext := hwindow (i + 1) (by rwa [List.getElem?_cons_succ])
        omega
      obtain ⟨before, bits, after, hlen, rfl⟩ := ih hnext hlater
      exact ⟨before + 1, bits, after, hlen, by rw [List.replicate_succ, List.cons_append]⟩

/-- Messages of one length that differ, and only within `w` bits in a row, leave the register
in different states. -/
theorem run_ne_of_burst (hpoly : poly.getLsbD (w - 1) = true) (s : BitVec w) {u v : List Bool}
    (hlen : u.length = v.length) (first : Nat) (hset : ∃ i : Nat, u[i]? ≠ v[i]?)
    (hwindow : ∀ i : Nat, u[i]? ≠ v[i]? → first ≤ i ∧ i < first + w) :
    ShiftRegister.run poly s u ≠ ShiftRegister.run poly s v := by
  have hdiffer (i : Nat) : (List.zipWith xor u v)[i]? = some true ↔ u[i]? ≠ v[i]? := by
    rw [List.getElem?_zipWith]
    by_cases hi : i < u.length
    · rw [List.getElem?_eq_getElem hi, List.getElem?_eq_getElem (hlen ▸ hi)]
      cases u[i] <;> cases v[i] <;> simp
    · rw [List.getElem?_eq_none (by omega), List.getElem?_eq_none (by omega)]
      simp
  obtain ⟨before, bits, after, hbits, hburst⟩ := exists_burst
    (hset.imp fun i => (hdiffer i).mpr) fun i hi => hwindow i ((hdiffer i).mp hi)
  intro hsame
  have hxor : ShiftRegister.run poly (s ^^^ s) (List.zipWith xor u v) = _ := run_xor s s hlen
  rw [BitVec.xor_self, hsame, BitVec.xor_self, hburst] at hxor
  exact run_burst_ne_zero hpoly before hbits after hxor

end ShiftRegister

end WalnutGateway
