import Mathlib.Data.List.Basic

/-!
# Sweeping a list in batches

Items leave a list when an attempt on them succeeds. A round attempts the first items of the
list, as many as a batch holds, each of them once, and passes over those it does not try; the
next round starts over with what is left. Whether an attempt succeeds may depend on the item
and on the number of attempts before it.
-/

namespace WalnutGateway

variable {α : Type} {tries : α → Bool} {removes : Nat → α → Bool}

/-- What a round leaves of its batch, after a number of attempts. -/
def survivors (tries : α → Bool) (removes : Nat → α → Bool) : Nat → List α → List α
  | _, [] => []
  | k, a :: as =>
    if ¬ tries a then a :: survivors tries removes k as
    else if removes k a then survivors tries removes (k + 1) as
    else a :: survivors tries removes (k + 1) as

theorem survivors_sublist (k : Nat) (l : List α) : (survivors tries removes k l).Sublist l := by
  induction l generalizing k with
  | nil => exact List.Sublist.refl _
  | cons a as ih =>
    unfold survivors
    split
    · exact (ih k).cons_cons a
    · split
      · exact (ih (k + 1)).cons a
      · exact (ih (k + 1)).cons_cons a

theorem survivors_append (k : Nat) (l l' : List α) :
    survivors tries removes k (l ++ l') =
      survivors tries removes k l ++
        survivors tries removes (k + (l.filter tries).length) l' := by
  induction l generalizing k with
  | nil => rfl
  | cons a as ih =>
    by_cases htries : tries a = true
    · rw [List.filter_cons_of_pos htries, List.length_cons, Nat.add_comm _ 1, ← Nat.add_assoc]
      rw [List.cons_append, survivors, survivors, if_neg (not_not.mpr htries),
        if_neg (not_not.mpr htries), ih]
      split <;> rfl
    · rw [List.filter_cons_of_neg htries, List.cons_append, survivors, survivors,
        if_pos htries, if_pos htries, ih]
      rfl

/-- An item that leaves was tried and removed. -/
theorem mem_survivors_or {k : Nat} {l : List α} {a : α} (h : a ∈ l) :
    a ∈ survivors tries removes k l ∨ tries a = true ∧ ∃ n, removes n a = true := by
  induction l generalizing k with
  | nil => exact absurd h List.not_mem_nil
  | cons b bs ih =>
    unfold survivors
    rcases List.mem_cons.mp h with rfl | htail
    · split
      · exact .inl List.mem_cons_self
      · rename_i htries
        split
        · rename_i hremoved
          exact .inr ⟨not_not.mp htries, k, hremoved⟩
        · exact .inl List.mem_cons_self
    · split
      · exact (ih htail).imp_left fun hmem => List.mem_cons_of_mem b hmem
      · split
        · exact ih htail
        · exact (ih htail).imp_left fun hmem => List.mem_cons_of_mem b hmem

theorem survivors_eq_nil {k : Nat} {l : List α}
    (h : ∀ a ∈ l, tries a = true ∧ ∀ n, removes n a = true) : survivors tries removes k l = [] := by
  induction l generalizing k with
  | nil => rfl
  | cons a as ih =>
    obtain ⟨htries, hremoves⟩ := h a List.mem_cons_self
    unfold survivors
    rw [if_neg (not_not.mpr htries), if_pos (hremoves k)]
    exact ih fun b hb => h b (List.mem_cons_of_mem a hb)

/-- What a round leaves of the whole list. -/
def afterRound (tries : α → Bool) (removes : Nat → α → Bool) (size k : Nat) (l : List α) :
    List α :=
  survivors tries removes k (l.take size) ++ l.drop size

theorem afterRound_sublist (size k : Nat) (l : List α) :
    (afterRound tries removes size k l).Sublist l := by
  have hbatch : (survivors tries removes k (l.take size)).Sublist (l.take size) :=
    survivors_sublist k (l.take size)
  have h := hbatch.append (List.Sublist.refl (l.drop size))
  rwa [List.take_append_drop] at h

theorem mem_afterRound_or {size k : Nat} {l : List α} {a : α} (h : a ∈ l) :
    a ∈ afterRound tries removes size k l ∨ tries a = true ∧ ∃ n, removes n a = true := by
  rw [← List.take_append_drop size l, List.mem_append] at h
  rcases h with hbatch | hrest
  · exact (mem_survivors_or hbatch).imp_left fun hmem => List.mem_append_left _ hmem
  · exact .inl (List.mem_append_right _ hrest)

/-- The attempts of a round. -/
def roundAttempts (tries : α → Bool) (size : Nat) (l : List α) : Nat :=
  ((l.take size).filter tries).length

/-- The rounds empty the list, and each of them removes an item. -/
inductive SweptInBatches (tries : α → Bool) (removes : Nat → α → Bool) (size : Nat) :
    Nat → List α → Prop
  | empty (k : Nat) : SweptInBatches tries removes size k []
  | round {k : Nat} {l : List α}
    (hprogress : (afterRound tries removes size k l).length < l.length)
    (hrest : SweptInBatches tries removes size (k + roundAttempts tries size l)
      (afterRound tries removes size k l)) : SweptInBatches tries removes size k l

/-- A list that is cleared is cleared by its first round or goes on being cleared. -/
theorem SweptInBatches.next {size k : Nat} {l : List α} (h : SweptInBatches tries removes size k l)
    (hl : l ≠ []) :
    (afterRound tries removes size k l).length < l.length ∧
      SweptInBatches tries removes size (k + roundAttempts tries size l)
        (afterRound tries removes size k l) := by
  cases h with
  | empty => exact absurd rfl hl
  | round hprogress hrest => exact ⟨hprogress, hrest⟩

/-- Every item of a list that is cleared was tried, and removed once. -/
theorem SweptInBatches.removed {size k : Nat} {l : List α}
    (h : SweptInBatches tries removes size k l) :
    ∀ a ∈ l, tries a = true ∧ ∃ n, removes n a = true := by
  induction h with
  | empty => exact fun a ha => absurd ha List.not_mem_nil
  | round _ _ ih => exact fun a ha => (mem_afterRound_or ha).elim (ih a) id

/-- A list whose items are all removed when they are tried is cleared. -/
theorem sweptInBatches_of_forall {size : Nat} (hsize : 0 < size) {k : Nat} {l : List α}
    (h : ∀ a ∈ l, tries a = true ∧ ∀ n, removes n a = true) :
    SweptInBatches tries removes size k l := by
  generalize hn : l.length = n
  induction n using Nat.strongRecOn generalizing k l with
  | _ n ih =>
    by_cases hl : l = []
    · subst hl
      exact .empty k
    · have hafter : afterRound tries removes size k l = l.drop size := by
        rw [afterRound, survivors_eq_nil fun a ha => h a (List.mem_of_mem_take ha), List.nil_append]
      have hpos := List.length_pos_iff.mpr hl
      have hshorter : (afterRound tries removes size k l).length < l.length := by
        rw [hafter, List.length_drop]
        omega
      refine .round hshorter (ih _ (hn ▸ hshorter) (fun a ha => h a ?_) rfl)
      exact (afterRound_sublist size k l).subset ha

/-- Where it depends on the item alone whether an attempt succeeds, the list is cleared when
every item is tried and removed. -/
theorem sweptInBatches_iff_forall {size : Nat} (hsize : 0 < size) {removable : α → Bool} {k : Nat}
    {l : List α} :
    SweptInBatches tries (fun _ => removable) size k l ↔
      ∀ a ∈ l, tries a = true ∧ removable a = true := by
  constructor
  · intro h a ha
    obtain ⟨htries, -, hremoved⟩ := h.removed a ha
    exact ⟨htries, hremoved⟩
  · intro h
    exact sweptInBatches_of_forall hsize fun a ha => ⟨(h a ha).1, fun _ => (h a ha).2⟩

end WalnutGateway
