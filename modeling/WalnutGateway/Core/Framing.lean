import Mathlib.Data.List.Basic

/-!
# Framed logs

A log is a byte string read record by record from the front. A framing says
what the first record is and how many bytes it takes, looking at those bytes
only. A string is framed when it is read to its end without a remainder, and
then its records are unique, append behind one another, and split at every
record boundary.
-/

namespace WalnutGateway

variable {β ρ : Type}

/-- A decoder of the first record of a string that reads nothing behind it. -/
structure Framing (β ρ : Type) where
  /-- The first record and its length, if the string starts with one. -/
  next : List β → Option (ρ × Nat)
  /-- A record takes up room, and lies inside the string. -/
  next_pos : ∀ {bs r n}, next bs = some (r, n) → 0 < n ∧ n ≤ bs.length
  /-- The decoder depends on the record's own bytes only. -/
  next_local : ∀ {bs r n}, next bs = some (r, n) → ∀ t, next (bs.take n ++ t) = some (r, n)

namespace Framing

/-- Bytes behind the first record do not change it. -/
theorem next_append (F : Framing β ρ) {bs : List β} {r : ρ} {n : Nat}
    (h : F.next bs = some (r, n)) (t : List β) : F.next (bs ++ t) = some (r, n) := by
  have hl := F.next_local h (bs.drop n ++ t)
  rwa [← List.append_assoc, List.take_append_drop] at hl

/-- The empty string holds no record. -/
theorem next_nil (F : Framing β ρ) : F.next [] = none := by
  cases h : F.next [] with
  | none => rfl
  | some x =>
    have hp := F.next_pos (r := x.1) (n := x.2) h
    simp only [List.length_nil] at hp
    omega

/-- The string is exactly the given records, one behind the other. -/
inductive Framed (F : Framing β ρ) : List β → List ρ → Prop
  | nil : Framed F [] []
  | cons {bs : List β} {r : ρ} {n : Nat} {rs : List ρ} (head : F.next bs = some (r, n))
      (tail : Framed F (bs.drop n) rs) : Framed F bs (r :: rs)

variable {F : Framing β ρ}

/-- One record on its own is framed. -/
theorem Framed.singleton {bs : List β} {r : ρ} (h : F.next bs = some (r, bs.length)) :
    Framed F bs [r] := by
  refine Framed.cons h ?_
  rw [List.drop_length]
  exact Framed.nil

/-- Framed strings concatenate. -/
theorem Framed.append {a b : List β} {rs ss : List ρ} (ha : Framed F a rs) (hb : Framed F b ss) :
    Framed F (a ++ b) (rs ++ ss) := by
  induction ha with
  | nil => exact hb
  | @cons bs r n rs head tail ih =>
    refine Framed.cons (F.next_append head b) ?_
    rw [List.drop_append_of_le_length (F.next_pos head).2]
    exact ih

/-- A string has one reading only. -/
theorem Framed.unique {bs : List β} {rs ss : List ρ} (h : Framed F bs rs)
    (h' : Framed F bs ss) : rs = ss := by
  induction h generalizing ss with
  | nil =>
    cases h' with
    | nil => rfl
    | cons head _ => rw [F.next_nil] at head; contradiction
  | cons head _ ih =>
    cases h' with
    | nil => rw [F.next_nil] at head; contradiction
    | cons head' tail' =>
      rw [head, Option.some.injEq, Prod.mk.injEq] at head'
      obtain ⟨rfl, rfl⟩ := head'
      rw [ih tail']

/-- Only the empty string has no records. -/
theorem Framed.eq_nil_iff {bs : List β} {rs : List ρ} (h : Framed F bs rs) :
    rs = [] ↔ bs = [] := by
  constructor
  · rintro rfl
    cases h
    rfl
  · rintro rfl
    exact h.unique Framed.nil

/-- Reading the first record of a framed string leaves a framed string. -/
theorem Framed.cons_inv {bs : List β} {r : ρ} {rs : List ρ} (h : Framed F bs (r :: rs)) :
    ∃ n, F.next bs = some (r, n) ∧ Framed F (bs.drop n) rs := by
  cases h with
  | cons head tail => exact ⟨_, head, tail⟩

/-- The record read at a boundary moves the boundary behind itself. -/
theorem Framed.boundary_next {bs : List β} {off n : Nat} {r : ρ} {done : List ρ}
    (h : Framed F (bs.take off) done) (hn : F.next (bs.drop off) = some (r, n)) :
    Framed F (bs.take (off + n)) (done ++ [r]) := by
  rw [List.take_add]
  refine h.append (Framed.singleton ?_)
  have hl := F.next_local hn []
  rw [List.append_nil] at hl
  rw [hl, List.length_take, Nat.min_eq_left (F.next_pos hn).2]

/-! ## Reading as many records as there are -/

/-- At most `fuel` records from the front, stopping where no record starts. -/
def records (F : Framing β ρ) : Nat → List β → List ρ
  | 0, _ => []
  | fuel + 1, bs =>
    match F.next bs with
    | none => []
    | some (r, n) => r :: F.records fuel (bs.drop n)

/-- The records at the front of a string, however it ends. -/
def parse (F : Framing β ρ) (bs : List β) : List ρ := F.records bs.length bs

/-- Enough fuel reads a framed string to its end. -/
theorem Framed.records_eq {bs : List β} {rs : List ρ} (h : Framed F bs rs) {fuel : Nat}
    (hf : bs.length ≤ fuel) : F.records fuel bs = rs := by
  induction h generalizing fuel with
  | nil =>
    cases fuel with
    | zero => rfl
    | succ fuel => simp only [records, F.next_nil]
  | @cons bs r n rs head tail ih =>
    have hp := F.next_pos head
    cases fuel with
    | zero => omega
    | succ fuel =>
      simp only [records, head]
      rw [ih (by rw [List.length_drop]; omega)]

/-- Parsing a framed string gives its records. -/
theorem Framed.parse_eq {bs : List β} {rs : List ρ} (h : Framed F bs rs) : F.parse bs = rs :=
  h.records_eq (Nat.le_refl _)

@[simp] theorem parse_nil (F : Framing β ρ) : F.parse [] = [] := rfl

end Framing

/-! ## Pieces of a string -/

/-- The pieces lie in the string one behind the other, none reaching into the next. -/
inductive Carries : List β → List (List β) → Prop
  | nil (bs : List β) : Carries bs []
  | cons (pre p : List β) {post : List β} {ps : List (List β)} (tail : Carries post ps) :
      Carries (pre ++ (p ++ post)) (p :: ps)

/-- What a string carries is not longer than the string. -/
theorem Carries.length_le {bs : List β} {ps : List (List β)} (h : Carries bs ps) :
    ps.flatten.length ≤ bs.length := by
  induction h with
  | nil => exact Nat.zero_le _
  | cons pre p tail ih =>
    simp only [List.flatten_cons, List.length_append]
    omega

/-- A string carries the pieces it starts with. -/
theorem carries_flatten_append (ps : List (List β)) (rest : List β) :
    Carries (ps.flatten ++ rest) ps := by
  induction ps with
  | nil => exact .nil _
  | cons p ps ih =>
    rw [List.flatten_cons, List.append_assoc]
    exact .cons [] p ih

/-- What stands in front does not matter. -/
theorem Carries.append_left {bs : List β} {ps : List (List β)} (h : Carries bs ps)
    (pre : List β) : Carries (pre ++ bs) ps := by
  cases h with
  | nil => exact .nil _
  | cons pre' p tail =>
    rw [← List.append_assoc]
    exact .cons (pre ++ pre') p tail

end WalnutGateway
