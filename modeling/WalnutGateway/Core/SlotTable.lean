import Mathlib.Data.List.Nodup

/-!
# Tables of slots

A fixed array of slots, each free or taken under a key, stands for a partial function from keys to
slots: a key is found in the first slot that has it, and a new slot is put where the first free one
is. As long as no key is taken twice, what is done under one key is not seen under another.
-/

namespace WalnutGateway.SlotTable

variable {σ κ : Type} (key : σ → Option κ)

/-- The table with a slot in the place of the first free one, if there is one. -/
def place (new : σ) : List σ → Option (List σ)
  | [] => none
  | s :: t => if (key s).isNone then some (new :: t) else (place new t).map (s :: ·)

/-- The keys that are taken. -/
def keys (t : List σ) : List κ := t.filterMap key

/-- No key is taken twice. -/
def Distinct (t : List σ) : Prop := (keys key t).Nodup

section

variable {key} {k : κ} {f : σ → σ} {t : List σ} {s new : σ}

theorem keys_cons_of_some (h : key s = some k) : keys key (s :: t) = k :: keys key t :=
  List.filterMap_cons_some h

theorem keys_cons_of_none (h : key s = none) : keys key (s :: t) = keys key t :=
  List.filterMap_cons_none h

theorem distinct_cons_of_some (h : key s = some k) :
    Distinct key (s :: t) ↔ k ∉ keys key t ∧ Distinct key t := by
  rw [Distinct, keys_cons_of_some h, List.nodup_cons]
  rfl

theorem distinct_cons_of_none (h : key s = none) :
    Distinct key (s :: t) ↔ Distinct key t := by
  rw [Distinct, keys_cons_of_none h]
  rfl

theorem keys_map (hf : ∀ s, key (f s) = key s) : keys key (t.map f) = keys key t := by
  simp [keys, List.filterMap_map, hf]

end

variable [DecidableEq κ]

/-- The first slot with a key. -/
def lookup (k : κ) (t : List σ) : Option σ := t.find? fun s => key s = some k

/-- The table with the first slot of a key changed. -/
def modify (k : κ) (f : σ → σ) : List σ → List σ
  | [] => []
  | s :: t => if key s = some k then f s :: t else s :: modify k f t

section

variable {key} {k k' : κ} {f : σ → σ} {t t' : List σ} {s new : σ}

theorem lookup_cons :
    lookup key k (s :: t) = if key s = some k then some s else lookup key k t := by
  by_cases h : key s = some k <;> simp [lookup, h]

theorem lookup_eq_none_iff : lookup key k t = none ↔ k ∉ keys key t := by
  simp [lookup, keys, List.find?_eq_none, List.mem_filterMap]

theorem key_of_lookup (h : lookup key k t = some s) : key s = some k := by
  simpa using List.find?_some h

/-! ## Changing a slot under its key -/

theorem keys_modify (hf : ∀ s, key s = some k → key (f s) = some k) :
    keys key (modify key k f t) = keys key t := by
  induction t with
  | nil => rfl
  | cons s t ih =>
    unfold modify
    split
    · rename_i h
      rw [keys_cons_of_some (hf s h), keys_cons_of_some h]
    · cases h : key s with
      | none => rw [keys_cons_of_none h, keys_cons_of_none h, ih]
      | some k => rw [keys_cons_of_some h, keys_cons_of_some h, ih]

theorem lookup_modify_self (hf : ∀ s, key s = some k → key (f s) = some k) :
    lookup key k (modify key k f t) = (lookup key k t).map f := by
  induction t with
  | nil => rfl
  | cons s t ih =>
    unfold modify
    by_cases h : key s = some k
    · rw [if_pos h, lookup_cons, if_pos (hf s h), lookup_cons, if_pos h, Option.map_some]
    · rw [if_neg h, lookup_cons, if_neg h, ih, lookup_cons, if_neg h]

theorem lookup_modify_of_ne (hf : ∀ s, key s = some k → key (f s) ≠ some k') (hne : k' ≠ k) :
    lookup key k' (modify key k f t) = lookup key k' t := by
  induction t with
  | nil => rfl
  | cons s t ih =>
    unfold modify
    by_cases h : key s = some k
    · rw [if_pos h, lookup_cons, if_neg (hf s h), lookup_cons, if_neg]
      rw [h]
      exact fun heq => hne (Option.some.inj heq).symm
    · rw [if_neg h, lookup_cons, ih, ← lookup_cons]

/-! ## Freeing a slot -/

theorem keys_modify_free (hf : ∀ s, key (f s) = none) :
    keys key (modify key k f t) = (keys key t).erase k := by
  induction t with
  | nil => rfl
  | cons s t ih =>
    unfold modify
    by_cases h : key s = some k
    · rw [if_pos h, keys_cons_of_none (hf s), keys_cons_of_some h, List.erase_cons_head]
    · rw [if_neg h]
      cases hs : key s with
      | none => rw [keys_cons_of_none hs, keys_cons_of_none hs, ih]
      | some k' =>
        have hne : k' ≠ k := fun heq => h (hs.trans (congrArg some heq))
        rw [keys_cons_of_some hs, keys_cons_of_some hs, ih,
          List.erase_cons_tail (by simpa using hne)]

theorem lookup_modify_free (hf : ∀ s, key (f s) = none) (h : Distinct key t) :
    lookup key k (modify key k f t) = none := by
  rw [lookup_eq_none_iff, keys_modify_free hf]
  exact h.not_mem_erase

/-! ## Taking a slot -/

/-- A slot under a new key is found under it; under the other keys everything is as it was. -/
theorem place_spec (hnew : key new = some k) (hfresh : k ∉ keys key t) (hdistinct : Distinct key t)
    (h : place key new t = some t') :
    Distinct key t' ∧ t'.length = t.length ∧
      ∀ k', lookup key k' t' = if k' = k then some new else lookup key k' t := by
  have hkeys : ∀ t t', place key new t = some t' →
      (keys key t').Perm (k :: keys key t) ∧ t'.length = t.length := by
    intro t
    induction t with
    | nil => simp [place]
    | cons s t ih =>
      intro t' h
      unfold place at h
      split at h
      · rename_i hfree
        obtain rfl := Option.some.inj h
        rw [keys_cons_of_some hnew, keys_cons_of_none (Option.isNone_iff_eq_none.mp hfree)]
        exact ⟨List.Perm.refl _, rfl⟩
      · obtain ⟨rest, hrest, rfl⟩ := Option.map_eq_some_iff.mp h
        obtain ⟨hperm, hlength⟩ := ih rest hrest
        refine ⟨?_, by rw [List.length_cons, hlength, List.length_cons]⟩
        cases hs : key s with
        | none =>
          rw [keys_cons_of_none hs, keys_cons_of_none hs]
          exact hperm
        | some k' =>
          rw [keys_cons_of_some hs, keys_cons_of_some hs]
          exact (hperm.cons k').trans (List.Perm.swap k k' _)
  refine ⟨?_, (hkeys t t' h).2, fun k' => ?_⟩
  · rw [Distinct, (hkeys t t' h).1.nodup_iff, List.nodup_cons]
    exact ⟨hfresh, hdistinct⟩
  · clear hkeys hdistinct
    induction t generalizing t' with
    | nil => cases h
    | cons s t ih =>
      unfold place at h
      split at h
      · rename_i hfree
        obtain rfl := Option.some.inj h
        rw [lookup_cons, lookup_cons, hnew, Option.isNone_iff_eq_none.mp hfree]
        simp [eq_comm]
      · obtain ⟨rest, hrest, rfl⟩ := Option.map_eq_some_iff.mp h
        have hout : k ∉ keys key t := by
          intro hmem
          obtain ⟨s', hs', hkey⟩ := List.mem_filterMap.mp hmem
          exact hfresh (List.mem_filterMap.mpr ⟨s', List.mem_cons_of_mem s hs', hkey⟩)
        rw [lookup_cons, ih hout hrest, lookup_cons]
        by_cases hs : key s = some k'
        · rw [if_pos hs, if_pos hs, if_neg]
          rintro rfl
          exact hfresh (List.mem_filterMap.mpr ⟨s, List.mem_cons_self, hs⟩)
        · rw [if_neg hs, if_neg hs]

/-! ## Going through all slots -/

theorem lookup_map (hf : ∀ s, key (f s) = key s) :
    lookup key k (t.map f) = (lookup key k t).map f := by
  simp [lookup, List.find?_map, Function.comp_def, hf]

/-- What is emitted under a key is what its slot emits. -/
theorem filter_emitted {ω : Type} (emit : σ → List ω) (h : Distinct key t) :
    (t.flatMap fun s => (emit s).map (key s, ·)).filterMap
        (fun p => if p.1 = some k then some p.2 else none) =
      (lookup key k t).elim [] emit := by
  induction t with
  | nil => rfl
  | cons s t ih =>
    rw [List.flatMap_cons, List.filterMap_append, lookup_cons]
    have hself : ((emit s).map (key s, ·)).filterMap
        (fun p => if p.1 = some k then some p.2 else none) =
          if key s = some k then emit s else [] := by
      split
      · rename_i hs
        simp [List.filterMap_map, hs]
      · rename_i hs
        simp [List.filterMap_map, hs]
    rw [hself]
    by_cases hs : key s = some k
    · obtain ⟨hout, hrest⟩ := (distinct_cons_of_some hs).mp h
      rw [if_pos hs, if_pos hs, ih hrest, lookup_eq_none_iff.mpr hout]
      exact List.append_nil _
    · have hrest : Distinct key t := by
        cases hkey : key s with
        | none => exact (distinct_cons_of_none hkey).mp h
        | some k' => exact ((distinct_cons_of_some hkey).mp h).2
      rw [if_neg hs, if_neg hs, ih hrest, List.nil_append]

end

end WalnutGateway.SlotTable
