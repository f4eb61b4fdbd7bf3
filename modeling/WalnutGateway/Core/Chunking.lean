import Mathlib.Data.List.DropRight
import WalnutGateway.Core.Reassembly

/-!
# Reassembly of any stream

A receiver that also meets bytes that are no record drops them up to the next element that can
start one. If what it finds to be no record stays none whatever follows, then the records it
hands out do not depend on how the stream was cut. What is left over does, by elements at its
front that start nothing.
-/

namespace WalnutGateway

variable {β : Type}

/-- A recognizer that goes on at the next element that can start a record. -/
structure Resynchronizer (β : Type) extends Recognizer β where
  starts : β → Bool
  resync_eq : ∀ bs, resync bs = (bs.drop 1).dropWhile (! starts ·)
  /-- What is no record stays none. -/
  bad_append : ∀ {bs}, check bs = .bad → ∀ t, check (bs ++ t) = .bad
  /-- Two elements are enough to see that the first starts nothing. -/
  check_of_not_starts : ∀ {b}, starts b = false → ∀ bs,
    check (b :: bs) = .bad ∨ (bs = [] ∧ check [b] = .needMore)

namespace Resynchronizer

variable (R : Resynchronizer β)

/-- The string from the first element that can start a record. -/
def trim (bs : List β) : List β := bs.dropWhile (! R.starts ·)

/-- The chunks one behind the other, each appended to what the one before left over. -/
def feed : List β → List (List β) → List (List β) × List β
  | left, [] => ([], left)
  | left, c :: cs =>
    let here := R.split (left ++ c)
    let later := feed here.2 cs
    (here.1 ++ later.1, later.2)

variable {R} {bs a t : List β}

/-! ## Splitting, look by look -/

/-- More looks than elements find nothing new. -/
theorem splitLoop_of_le {fuel : Nat} (h : bs.length ≤ fuel) :
    R.splitLoop fuel bs = R.split bs := by
  suffices hall : ∀ m (bs : List β), bs.length ≤ m → ∀ n, bs.length ≤ n →
      R.splitLoop n bs = R.splitLoop m bs from hall _ bs le_rfl fuel h
  intro m
  induction m with
  | zero =>
    intro bs hm n _
    obtain rfl : bs = [] := List.length_eq_zero_iff.mp (Nat.le_zero.mp hm)
    cases n <;> rfl
  | succ m ih =>
    intro bs hm n hn
    cases n with
    | zero =>
      obtain rfl : bs = [] := List.length_eq_zero_iff.mp (Nat.le_zero.mp hn)
      rfl
    | succ n =>
      rw [Recognizer.splitLoop, Recognizer.splitLoop]
      split
      · rfl
      · rename_i hne
        have hne : bs ≠ [] := by simpa using hne
        cases hcheck : R.check bs with
        | needMore => rfl
        | bad =>
          have hlt := R.resync_lt hne
          exact ih _ (by omega) n (by omega)
        | complete k =>
          have hpos := R.complete_pos hcheck
          have hlen : (bs.drop k).length ≤ m := by
            rw [List.length_drop]
            omega
          have hlen' : (bs.drop k).length ≤ n := by
            rw [List.length_drop]
            omega
          dsimp only
          rw [ih _ hlen n hlen']

theorem split_nil : R.split [] = ([], []) := rfl

theorem split_of_needMore (h : R.check bs = .needMore) : R.split bs = ([], bs) := by
  cases bs with
  | nil => rfl
  | cons b bs => rw [Recognizer.split, List.length_cons, Recognizer.splitLoop, h]; rfl

theorem split_of_bad (hne : bs ≠ []) (h : R.check bs = .bad) :
    R.split bs = R.split (R.resync bs) := by
  have hlt := R.resync_lt hne
  cases bs with
  | nil => exact absurd rfl hne
  | cons b bs =>
    rw [List.length_cons] at hlt
    rw [Recognizer.split, List.length_cons, Recognizer.splitLoop, h]
    exact splitLoop_of_le (by omega)

theorem split_of_complete {n : Nat} (h : R.check bs = .complete n) :
    R.split bs = (bs.take n :: (R.split (bs.drop n)).1, (R.split (bs.drop n)).2) := by
  have hpos := R.complete_pos h
  have hlen : (bs.drop n).length ≤ bs.length - 1 := by
    rw [List.length_drop]
    omega
  cases bs with
  | nil =>
    rw [List.length_nil] at hpos
    omega
  | cons b bs =>
    rw [List.length_cons, Nat.add_sub_cancel] at hlen
    rw [Recognizer.split, List.length_cons, Recognizer.splitLoop, h]
    dsimp only
    rw [splitLoop_of_le hlen]
    rfl

/-- What is left over settles. -/
theorem settled_split (bs : List β) : R.Settled (R.split bs).2 := by
  induction hn : bs.length using Nat.strong_induction_on generalizing bs with
  | _ n ih =>
    by_cases hnil : bs = []
    · subst hnil
      exact Or.inl rfl
    · cases hcheck : R.check bs with
      | needMore =>
        rw [split_of_needMore hcheck]
        exact Or.inr hcheck
      | bad =>
        have hlt := R.resync_lt hnil
        rw [split_of_bad hnil hcheck]
        exact ih _ (by omega) _ rfl
      | complete k =>
        have hpos := R.complete_pos hcheck
        rw [split_of_complete hcheck]
        exact ih _ (by rw [List.length_drop]; omega) _ rfl

theorem split_of_settled (h : R.Settled bs) : R.split bs = ([], bs) := by
  rcases h with rfl | h
  · rfl
  · exact split_of_needMore h

/-! ## Elements that start nothing -/

/-- The records do not depend on the elements in front that start none. -/
theorem split_trim (bs : List β) :
    (R.split (R.trim bs)).1 = (R.split bs).1 ∧
      R.trim (R.split (R.trim bs)).2 = R.trim (R.split bs).2 := by
  cases bs with
  | nil => exact ⟨rfl, rfl⟩
  | cons b bs =>
    cases hb : R.starts b with
    | true =>
      rw [trim, List.dropWhile_cons_of_neg (by simp [hb])]
      exact ⟨rfl, rfl⟩
    | false =>
      have htrim : R.trim (b :: bs) = R.trim bs := List.dropWhile_cons_of_pos (by simp [hb])
      rcases R.check_of_not_starts hb bs with hbad | ⟨rfl, hmore⟩
      · have hresync : R.resync (b :: bs) = R.trim bs := R.resync_eq (b :: bs)
        rw [split_of_bad (List.cons_ne_nil b bs) hbad, hresync, htrim]
        exact ⟨rfl, rfl⟩
      · rw [split_of_needMore hmore, htrim]
        exact ⟨rfl, rfl⟩

/-- A string that is cut is split in two steps. -/
theorem split_append (a t : List β) :
    (R.split (a ++ t)).1 = (R.split a).1 ++ (R.split ((R.split a).2 ++ t)).1 ∧
      R.trim (R.split (a ++ t)).2 = R.trim (R.split ((R.split a).2 ++ t)).2 := by
  induction hn : a.length using Nat.strong_induction_on generalizing a with
  | _ n ih =>
    by_cases hnil : a = []
    · subst hnil
      exact ⟨rfl, rfl⟩
    · cases hcheck : R.check a with
      | needMore =>
        rw [split_of_needMore hcheck]
        exact ⟨rfl, rfl⟩
      | bad =>
        have hne : a ++ t ≠ [] := fun h => hnil (List.append_eq_nil_iff.mp h).1
        have hlt := R.resync_lt hnil
        rw [split_of_bad hne (R.bad_append hcheck t), split_of_bad hnil hcheck]
        have hdrop : (a ++ t).drop 1 = a.drop 1 ++ t := by
          have hpos := List.length_pos_iff.mpr hnil
          exact List.drop_append_of_le_length hpos
        by_cases hflush : R.resync a = []
        · -- all of the first part is dropped, and the search goes on in the second
          have hnext : R.resync (a ++ t) = R.trim t := by
            rw [R.resync_eq] at hflush ⊢
            rw [hdrop, List.dropWhile_append, hflush]
            rfl
          rw [hnext, hflush, split_nil, List.nil_append, List.nil_append]
          exact split_trim t
        · have hnext : R.resync (a ++ t) = R.resync a ++ t := by
            rw [R.resync_eq] at hflush ⊢
            rw [R.resync_eq, hdrop, List.dropWhile_append,
              if_neg (by rwa [List.isEmpty_iff])]
          rw [hnext]
          exact ih _ (by omega) _ rfl
      | complete k =>
        have hpos := R.complete_pos hcheck
        have hwhole : R.check (a ++ t) = .complete k := by
          have hext := R.check_extend hcheck (a.drop k ++ t)
          rwa [← List.append_assoc, List.take_append_drop] at hext
        have hrest := ih (a.drop k).length (by rw [List.length_drop]; omega) (a.drop k) rfl
        rw [split_of_complete hwhole, split_of_complete hcheck,
          List.take_append_of_le_length hpos.2, List.drop_append_of_le_length hpos.2, hrest.1]
        exact ⟨rfl, hrest.2⟩

/-! ## Any chunks -/

/-- However a stream is cut, its records are those of the whole, and so is what is left over
but for elements in front that start nothing. -/
theorem feed_eq {left : List β} (hleft : R.Settled left) (cs : List (List β)) :
    (R.feed left cs).1 = (R.split (left ++ cs.flatten)).1 ∧
      R.trim (R.feed left cs).2 = R.trim (R.split (left ++ cs.flatten)).2 := by
  induction cs generalizing left with
  | nil =>
    rw [List.flatten_nil, List.append_nil, split_of_settled hleft]
    exact ⟨rfl, rfl⟩
  | cons c cs ih =>
    have hlater := ih (settled_split (left ++ c))
    have hcut := split_append (R := R) (left ++ c) cs.flatten
    rw [List.flatten_cons, ← List.append_assoc, hcut.1, hcut.2]
    exact ⟨congrArg _ hlater.1, hlater.2⟩

end Resynchronizer

end WalnutGateway
