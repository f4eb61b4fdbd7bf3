import Mathlib.Algebra.GroupWithZero.Nat
import WalnutGateway.Core.Machine

/-!
# What flows through a machine

A machine that keeps things takes them in and gives them out; the answers of its steps say
which. Where every step gives out and keeps together what it held and took in, in order, so
does a run. The law of `Machine.conservation` is for intakes that the inputs alone decide.
-/

namespace WalnutGateway.Machine

variable {σ ι ω : Type} {M : Machine σ ι ω} {P : σ → ι → Prop} {I : σ → Prop}

/-- A queue that is looked into again and again: while something waits, a turn lowers the measure of
what is left to do before the next look, and a thing that is served raises it by less than `period`.
Then all that waited is served, or no more turns were taken than its share. -/
theorem paced (turn : ι → Bool) (served : ω → Nat) (waits left : σ → Nat) {period : Nat}
    (hstep : ∀ s i, I s → P s i → I (M.step s i).2 ∧
      waits s ≤ served (M.step s i).1 + waits (M.step s i).2 ∧
      (0 < waits s → (if turn i then 1 else 0) + left (M.step s i).2 ≤
        left s + period * served (M.step s i).1))
    {s : σ} {is : List ι} (hs : I s) (h : M.Along P s is) :
    waits s ≤ ((M.run s is).1.map served).sum ∨
      is.countP turn + left (M.run s is).2 ≤
        left s + period * ((M.run s is).1.map served).sum := by
  induction is generalizing s with
  | nil => exact Or.inr (by simp)
  | cons i is ih =>
    obtain ⟨hnext, hwaits, hturn⟩ := hstep s i hs h.1
    rcases Nat.eq_zero_or_pos (waits s) with hnone | hsome
    · exact Or.inl (by omega)
    simp only [run, List.map_cons, List.sum_cons, List.countP_cons, Nat.mul_add]
    have hhere := hturn hsome
    rcases ih hnext h.2 with hall | hrest
    · exact Or.inl (by omega)
    · exact Or.inr (by omega)

end WalnutGateway.Machine
