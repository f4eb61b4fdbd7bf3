import WalnutGateway.Common.Text

/-!
# Searching a text

`strchr` and `strstr`, and where they find something: in what order the parts of a text are
searched, and what is found when the text is cut.
-/

namespace WalnutGateway

/-- `strchr` for a character that is not NUL. -/
def strchr (s : List Byte) (c : Byte) : Option (List Byte) :=
  let found := s.dropWhile (· ≠ c)
  if found = [] then none else some found

theorem strstr_nil (s : List Byte) : strstr [] s = some s := by
  cases s <;> rfl

/-- The first occurrence of a text whose first character is not repeated in it stands where the
text was put behind something that does not have it. -/
theorem strstr_append {c : Byte} {tail before : List Byte} (hc : c ∉ tail)
    (hbefore : strstr (c :: tail) before = none) (t : List Byte) :
    strstr (c :: tail) (before ++ (c :: tail ++ t)) = some (c :: tail ++ t) := by
  induction before with
  | nil =>
    rw [List.nil_append, List.cons_append, strstr, ← List.cons_append, if_pos]
    exact List.isPrefixOf_iff_prefix.mpr (List.prefix_append _ _)
  | cons b before ih =>
    rw [strstr] at hbefore
    split_ifs at hbefore with hhere
    rw [List.cons_append, strstr, ih hbefore, if_neg]
    intro hat
    have hstart := List.isPrefixOf_iff_prefix.mp hat
    rw [← List.cons_append] at hstart
    by_cases hlong : (c :: tail).length ≤ (b :: before).length
    · exact hhere (List.isPrefixOf_iff_prefix.mpr
        (List.prefix_of_prefix_length_le hstart (List.prefix_append _ _) hlong))
    · -- the occurrence would reach into the second one, whose first character it has not
      have hinto : b :: before ++ [c] <+: c :: tail := by
        refine List.prefix_of_prefix_length_le ?_ hstart ?_
        · exact (List.prefix_append_right_inj _).mpr ⟨tail ++ t, rfl⟩
        · rw [List.length_append, List.length_singleton]
          omega
      obtain ⟨u, hu⟩ := hinto
      obtain ⟨-, htail⟩ := List.cons.inj hu
      rw [← htail] at hc
      simp at hc

/-- The first occurrence of a character. -/
theorem strchr_append {c : Byte} {u : List Byte} (h : ∀ b ∈ u, b ≠ c) (t : List Byte) :
    strchr (u ++ c :: t) c = some (c :: t) := by
  have hdrop : (u ++ c :: t).dropWhile (· ≠ c) = c :: t := by
    rw [List.dropWhile_append_of_pos (by simpa using h), List.dropWhile_cons_of_neg (by simp)]
  rw [strchr, hdrop]
  rfl

/-- What is found starts with the text and ends the searched text. -/
theorem strstr_some {p l s : List Byte} (h : strstr p l = some s) : p <+: s ∧ s <:+ l := by
  induction l with
  | nil =>
    rw [strstr] at h
    split_ifs at h with hp
    cases h
    exact ⟨hp ▸ List.nil_prefix, List.suffix_rfl⟩
  | cons b bs ih =>
    rw [strstr] at h
    split_ifs at h with hhere
    · cases h
      exact ⟨List.isPrefixOf_iff_prefix.mp hhere, List.suffix_rfl⟩
    · obtain ⟨hstart, hsuffix⟩ := ih h
      exact ⟨hstart, hsuffix.trans (List.suffix_cons b bs)⟩

/-- A search passes over what does not have the first character. -/
theorem strstr_skip {c : Byte} {p u : List Byte} (h : ∀ b ∈ u, b ≠ c) (t : List Byte) :
    strstr (c :: p) (u ++ t) = strstr (c :: p) t := by
  induction u with
  | nil => rfl
  | cons b u ih =>
    rw [List.cons_append, strstr, if_neg, ih fun x hx => h x (List.mem_cons_of_mem b hx)]
    intro hat
    have hhead := (List.cons_prefix_cons.mp (List.isPrefixOf_iff_prefix.mp hat)).1
    exact h b List.mem_cons_self hhead.symm

/-- A search finds a text that stands at the front. -/
theorem strstr_front (p t : List Byte) : strstr p (p ++ t) = some (p ++ t) := by
  cases p with
  | nil => exact strstr_nil t
  | cons b p =>
    rw [List.cons_append, strstr, if_pos]
    exact List.isPrefixOf_iff_prefix.mpr (List.prefix_append (b :: p) t)

/-- A search fails where the text stands nowhere. -/
theorem strstr_eq_none_iff {p l : List Byte} : strstr p l = none ↔ ¬ p <:+: l := by
  constructor
  · rintro h ⟨u, t, rfl⟩
    rw [List.append_assoc] at h
    induction u with
    | nil =>
      rw [List.nil_append, strstr_front] at h
      cases h
    | cons b u ih =>
      rw [List.cons_append, strstr] at h
      split_ifs at h
      exact ih h
  · intro h
    by_contra hsome
    obtain ⟨s, hs⟩ := Option.ne_none_iff_exists'.mp hsome
    obtain ⟨hstart, hsuffix⟩ := strstr_some hs
    exact h (hstart.isInfix.trans hsuffix.isInfix)

/-! ## Occurrences in parts of a text -/

section Parts

variable {c : Byte} {p u v : List Byte}

/-- What a text begins with ends before a character of it, or goes on through it. -/
theorem prefix_or_through (h : p <+: u ++ c :: v) : p <+: u ∨ u ++ [c] <+: p := by
  have hthrough : u ++ [c] <+: u ++ c :: v := ⟨v, by simp⟩
  rcases List.prefix_or_prefix_of_prefix h hthrough with hp | hp
  · rcases List.prefix_concat_iff.mp hp with rfl | hp
    · exact .inr List.prefix_rfl
    · exact .inl hp
  · exact .inr hp

/-- A text stands before or behind a character that it does not have. -/
theorem infix_append_cons_of_not_mem (hc : c ∉ p) : p <:+: u ++ c :: v ↔ p <:+: u ∨ p <:+: v := by
  constructor
  · intro h
    induction u with
    | nil =>
      rcases List.infix_cons_iff.mp h with h | h
      · rcases prefix_or_through (u := []) h with h | h
        · exact .inl h.isInfix
        · exact absurd (h.subset List.mem_cons_self) hc
      · exact .inr h
    | cons b u ih =>
      rcases List.infix_cons_iff.mp h with h | h
      · rcases prefix_or_through (u := b :: u) h with h | h
        · exact .inl h.isInfix
        · exact absurd (h.subset (List.mem_append_right _ List.mem_cons_self)) hc
      · exact (ih h).imp_left fun h => List.infix_cons h
  · rintro (h | h)
    · exact h.trans (List.prefix_append u _).isInfix
    · exact h.trans ⟨u ++ [c], [], by simp⟩

/-- A text whose first character is not repeated in it stands before the next place of this
character, at it, or behind it. -/
theorem infix_append_cons (hc : c ∉ p) :
    c :: p <:+: u ++ c :: v ↔ c :: p <:+: u ∨ c :: p <+: c :: v ∨ c :: p <:+: v := by
  constructor
  · intro h
    induction u with
    | nil => exact .inr (List.infix_cons_iff.mp h)
    | cons b u ih =>
      rcases List.infix_cons_iff.mp h with h | h
      · rcases prefix_or_through (u := b :: u) h with h | h
        · exact .inl h.isInfix
        · obtain ⟨rfl, h⟩ := List.cons_prefix_cons.mp h
          exact absurd (h.subset (List.mem_append_right _ List.mem_cons_self)) hc
      · exact (ih h).imp_left fun h => List.infix_cons h
  · rintro (h | h | h)
    · exact h.trans (List.prefix_append u _).isInfix
    · exact h.isInfix.trans (List.suffix_append u _).isInfix
    · exact h.trans ⟨u ++ [c], [], by simp⟩

/-- An occurrence is not where its first character is not. -/
theorem infix_append_of_not_mem (hc : c ∉ u) : c :: p <:+: u ++ v ↔ c :: p <:+: v := by
  constructor
  · intro h
    by_contra hno
    have hskip : ∀ b ∈ u, b ≠ c := by
      rintro b hb rfl
      exact hc hb
    exact strstr_eq_none_iff.mp ((strstr_skip hskip v).trans (strstr_eq_none_iff.mpr hno)) h
  · exact fun h => h.trans (List.suffix_append u v).isInfix

/-- Two texts without a character, which stands behind both. -/
theorem prefix_append_cons_iff {s t : List Byte} (hs : c ∉ s) (ht : c ∉ t) :
    s ++ c :: u <+: t ++ c :: v ↔ s = t ∧ u <+: v := by
  induction s generalizing t with
  | nil =>
    cases t with
    | nil => simp
    | cons b t =>
      have hne : ¬ c = b := fun h => ht (h ▸ List.mem_cons_self)
      simp [hne]
  | cons a s ih =>
    cases t with
    | nil =>
      have hne : ¬ a = c := fun h => hs (h ▸ List.mem_cons_self)
      simp [hne]
    | cons b t =>
      rw [List.cons_append, List.cons_append, List.cons_prefix_cons, List.cons.injEq,
        ih (fun h => hs (List.mem_cons_of_mem a h)) (fun h => ht (List.mem_cons_of_mem b h)),
        and_assoc]

end Parts

end WalnutGateway
