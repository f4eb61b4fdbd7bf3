import Mathlib.Data.List.Nodup
import Mathlib.Logic.Function.Basic

/-!
# Assignments to fields

A list of assignments is staged one after the other, and each may be refused. Where each sets its
own field to the value that was parsed and no other, the fields that were assigned end with their
last value, and the others as they were.
-/

namespace WalnutGateway

variable {ι τ σ V : Type} [DecidableEq ι]

/-- The value that a field is assigned last. -/
def lastValue : List (ι × τ) → ι → Option τ
  | [], _ => none
  | a :: as, i => (lastValue as i).or (if a.1 = i then some a.2 else none)

omit [DecidableEq ι] in
/-- All assignments in a row, if none is refused. -/
def stageAll (stage : ι → τ → σ → Option σ) : List (ι × τ) → σ → Option σ
  | [], s => some s
  | a :: as, s => (stage a.1 a.2 s).bind (stageAll stage as)

omit [DecidableEq ι] in
/-- Assignments that change nothing. -/
theorem stageAll_self {stage : ι → τ → σ → Option σ} {as : List (ι × τ)} {s : σ}
    (h : ∀ a ∈ as, stage a.1 a.2 s = some s) : stageAll stage as s = some s := by
  induction as with
  | nil => rfl
  | cons a as ih =>
    rw [List.forall_mem_cons] at h
    rw [stageAll, h.1, Option.bind_some, ih h.2]

/-- Assignments to different fields of a function: each field has the parsed value, and the others
are as they were. -/
theorem stageAll_update {parse : ι → τ → Option V} {stage : ι → τ → (ι → V) → Option (ι → V)}
    {as : List (ι × τ)}
    (hstage : ∀ a ∈ as, ∀ s, stage a.1 a.2 s = (parse a.1 a.2).map (Function.update s a.1))
    (hnodup : (as.map Prod.fst).Nodup) {s s' : ι → V} (h : stageAll stage as s = some s') :
    (∀ a ∈ as, parse a.1 a.2 = some (s' a.1)) ∧ ∀ j ∉ as.map Prod.fst, s' j = s j := by
  induction as generalizing s with
  | nil =>
    cases h
    exact ⟨nofun, fun _ _ => rfl⟩
  | cons a as ih =>
    rw [List.forall_mem_cons] at hstage
    rw [List.map_cons, List.nodup_cons] at hnodup
    obtain ⟨next, hnext, hrest⟩ := Option.bind_eq_some_iff.mp h
    rw [hstage.1] at hnext
    obtain ⟨value, hvalue, rfl⟩ := Option.map_eq_some_iff.mp hnext
    obtain ⟨hparsed, hothers⟩ := ih hstage.2 hnodup.2 hrest
    refine ⟨List.forall_mem_cons.mpr ⟨?_, hparsed⟩, fun j hj => ?_⟩
    · rw [hothers a.1 hnodup.1, Function.update_self, hvalue]
    · rw [List.map_cons, List.mem_cons, not_or] at hj
      rw [hothers j hj.2, Function.update_of_ne hj.1]

/-- Such assignments change nothing exactly if each parses to what its field holds. -/
theorem stageAll_update_self_iff (parse : ι → τ → Option V)
    {stage : ι → τ → (ι → V) → Option (ι → V)} {as : List (ι × τ)}
    (hstage : ∀ a ∈ as, ∀ s, stage a.1 a.2 s = (parse a.1 a.2).map (Function.update s a.1))
    (hnodup : (as.map Prod.fst).Nodup) {s : ι → V} :
    stageAll stage as s = some s ↔ ∀ a ∈ as, parse a.1 a.2 = some (s a.1) := by
  refine ⟨fun h => (stageAll_update hstage hnodup h).1, fun h => stageAll_self fun a ha => ?_⟩
  rw [hstage a ha, h a ha, Option.map_some, Function.update_eq_self]

omit [DecidableEq ι] in
/-- What each assignment keeps holds after all of them. -/
theorem stageAll_invariant {stage : ι → τ → σ → Option σ} {as : List (ι × τ)} {Good : σ → Prop}
    (hkept : ∀ a ∈ as, ∀ s s', Good s → stage a.1 a.2 s = some s' → Good s') {s s' : σ}
    (h : stageAll stage as s = some s') (hgood : Good s) : Good s' := by
  induction as generalizing s with
  | nil =>
    cases h
    exact hgood
  | cons a as ih =>
    rw [List.forall_mem_cons] at hkept
    obtain ⟨next, hnext, hrest⟩ := Option.bind_eq_some_iff.mp h
    exact ih hkept.2 hrest (hkept.1 s next hgood hnext)

/-- Each field that is assigned holds the parsed value of its last assignment, and the others hold
what they held. -/
def Assigned (fields : List ι) (get : σ → ι → V) (parse : ι → τ → Option V) (as : List (ι × τ))
    (s s' : σ) : Prop :=
  ∀ i ∈ fields, match lastValue as i with
    | some value => parse i value = some (get s' i)
    | none => get s' i = get s i

/-- The assignments may be read off other states with the same fields. -/
theorem Assigned.congr {ρ : Type} {fields : List ι} {get : σ → ι → V} {get' : ρ → ι → V}
    {parse : ι → τ → Option V} {as : List (ι × τ)} {s t : σ} {s' t' : ρ}
    (h : Assigned fields get parse as s t) (hs : ∀ i ∈ fields, get' s' i = get s i)
    (ht : ∀ i ∈ fields, get' t' i = get t i) : Assigned fields get' parse as s' t' := by
  intro i hi
  rw [hs i hi, ht i hi]
  exact h i hi

omit [DecidableEq ι] in
/-- An assignment sets its field to the parsed value and leaves the others, and keeps what holds of
all states. -/
structure Stages (fields : List ι) (get : σ → ι → V) (parse : ι → τ → Option V)
    (stage : ι → τ → σ → Option σ) (Good : σ → Prop) (Allowed : τ → Prop) : Prop where
  good : ∀ {i value s s'}, Good s → Allowed value → stage i value s = some s' → Good s'
  taken : ∀ {i value s s'}, i ∈ fields → Good s → Allowed value → stage i value s = some s' →
    parse i value = some (get s' i)
  kept : ∀ {i j value s s'}, j ∈ fields → j ≠ i → Good s → Allowed value →
    stage i value s = some s' → get s' j = get s j

theorem Stages.run {fields : List ι} {get : σ → ι → V} {parse : ι → τ → Option V}
    {stage : ι → τ → σ → Option σ} {Good : σ → Prop} {Allowed : τ → Prop}
    (h : Stages fields get parse stage Good Allowed) {as : List (ι × τ)}
    (hallowed : ∀ a ∈ as, Allowed a.2) {s s' : σ} (hgood : Good s)
    (hstage : stageAll stage as s = some s') : Good s' ∧ Assigned fields get parse as s s' := by
  induction as generalizing s with
  | nil =>
    cases hstage
    exact ⟨hgood, fun _ _ => rfl⟩
  | cons a as ih =>
    obtain ⟨next, hnext, hrest⟩ := Option.bind_eq_some_iff.mp hstage
    have hvalue := hallowed a (List.mem_cons_self ..)
    obtain ⟨hgood', hassigned⟩ := ih (fun b hb => hallowed b (List.mem_cons_of_mem _ hb))
      (h.good hgood hvalue hnext) hrest
    refine ⟨hgood', fun i hi => ?_⟩
    have hlater := hassigned i hi
    rw [lastValue]
    cases hlast : lastValue as i with
    | some value =>
      rw [hlast] at hlater
      exact hlater
    | none =>
      rw [hlast] at hlater
      by_cases heq : a.1 = i
      · subst heq
        rw [if_pos rfl]
        change parse a.1 a.2 = some (get s' a.1)
        rw [h.taken hi hgood hvalue hnext, hlater]
      · rw [if_neg heq]
        exact hlater.trans (h.kept hi (Ne.symm heq) hgood hvalue hnext)

end WalnutGateway
