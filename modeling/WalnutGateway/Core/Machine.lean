import Mathlib.Data.List.Basic

/-!
# Machines and their runs

A machine answers each input and moves to a next state. Side conditions of a
run are imposed on every step, at the state the step starts from. An invariant
preserved by each admissible step holds after an admissible run, and a
simulation of single steps carries over to runs together with the answers.
-/

namespace WalnutGateway

/-- A deterministic system with inputs `ι`, answers `ω` and states `σ`. -/
structure Machine (σ ι ω : Type) where
  /-- One input: the answer and the state after it. -/
  step : σ → ι → ω × σ

namespace Machine

variable {σ ι ω : Type}

/-- The answers to a list of inputs and the state after the last. -/
def run (M : Machine σ ι ω) : σ → List ι → List ω × σ
  | s, [] => ([], s)
  | s, i :: is => ((M.step s i).1 :: (M.run (M.step s i).2 is).1, (M.run (M.step s i).2 is).2)

/-- Every step of the run meets `P` at the state it starts from. -/
def Along (M : Machine σ ι ω) (P : σ → ι → Prop) : σ → List ι → Prop
  | _, [] => True
  | s, i :: is => P s i ∧ M.Along P (M.step s i).2 is

instance Along.decidable (M : Machine σ ι ω) (P : σ → ι → Prop)
    [hP : ∀ s i, Decidable (P s i)] : ∀ s is, Decidable (M.Along P s is)
  | _, [] => isTrue trivial
  | s, i :: is =>
    have := Along.decidable M P (M.step s i).2 is
    inferInstanceAs (Decidable (P s i ∧ M.Along P (M.step s i).2 is))

@[simp] theorem run_nil (M : Machine σ ι ω) (s : σ) : M.run s [] = ([], s) := rfl

theorem run_append (M : Machine σ ι ω) (s : σ) (is js : List ι) :
    M.run s (is ++ js) =
      ((M.run s is).1 ++ (M.run (M.run s is).2 js).1, (M.run (M.run s is).2 js).2) := by
  induction is generalizing s with
  | nil => rfl
  | cons i is ih => simp only [List.cons_append, run, ih]

theorem run_append_snd (M : Machine σ ι ω) (s : σ) (is js : List ι) :
    (M.run s (is ++ js)).2 = (M.run (M.run s is).2 js).2 := by
  rw [run_append]

theorem along_append {M : Machine σ ι ω} {P : σ → ι → Prop} {s : σ} {is js : List ι} :
    M.Along P s (is ++ js) ↔ M.Along P s is ∧ M.Along P (M.run s is).2 js := by
  induction is generalizing s with
  | nil => simp only [List.nil_append, Along, run_nil, true_and]
  | cons i is ih => simp only [List.cons_append, Along, run, ih, and_assoc]

/-- A weaker step condition holds along every run that meets a stronger one, where an
invariant that the stronger one preserves helps. -/
theorem Along.mono_of_invariant {M : Machine σ ι ω} {P Q : σ → ι → Prop} {I : σ → Prop}
    (hstep : ∀ s i, I s → P s i → I (M.step s i).2) (hPQ : ∀ s i, I s → P s i → Q s i)
    {s : σ} {is : List ι} (hs : I s) (h : M.Along P s is) : M.Along Q s is := by
  induction is generalizing s with
  | nil => trivial
  | cons i is ih => exact ⟨hPQ s i hs h.1, ih (hstep s i hs h.1) h.2⟩

/-- The same without an invariant. -/
theorem Along.mono {M : Machine σ ι ω} {P Q : σ → ι → Prop} (hPQ : ∀ s i, P s i → Q s i)
    {s : σ} {is : List ι} (h : M.Along P s is) : M.Along Q s is :=
  h.mono_of_invariant (I := fun _ => True) (fun _ _ _ _ => True.intro) (fun s i _ => hPQ s i)
    True.intro

/-- Two step conditions are met together. -/
theorem Along.and {M : Machine σ ι ω} {P Q : σ → ι → Prop} {s : σ} {is : List ι}
    (hP : M.Along P s is) (hQ : M.Along Q s is) : M.Along (fun s i => P s i ∧ Q s i) s is := by
  induction is generalizing s with
  | nil => trivial
  | cons i is ih => exact ⟨⟨hP.1, hQ.1⟩, ih hP.2 hQ.2⟩

/-- Every run meets no condition. -/
theorem Along.trivial (M : Machine σ ι ω) (s : σ) (is : List ι) :
    M.Along (fun _ _ => True) s is := by
  induction is generalizing s with
  | nil => exact True.intro
  | cons i is ih => exact ⟨True.intro, ih _⟩

/-- What each admissible step preserves holds after an admissible run. -/
theorem invariant (M : Machine σ ι ω) {P : σ → ι → Prop} {I : σ → Prop}
    (hstep : ∀ s i, I s → P s i → I (M.step s i).2) {s : σ} {is : List ι}
    (hs : I s) (h : M.Along P s is) : I (M.run s is).2 := by
  induction is generalizing s with
  | nil => exact hs
  | cons i is ih => exact ih (hstep s i hs h.1) h.2

/-- Where every step gets nearer to a goal, every sequence of inputs reaches it. -/
theorem eventually (M : Machine σ ι ω) {R : σ → σ → Prop} (hwf : WellFounded R) {G : σ → Prop}
    {P : ι → Prop} (hstep : ∀ s i, P i → G s ∨ R (M.step s i).2 s) (s : σ) {f : Nat → ι}
    (hf : ∀ n, P (f n)) : ∃ n, G (M.run s ((List.range n).map f)).2 := by
  induction s using hwf.induction generalizing f with
  | _ s ih =>
    rcases hstep s (f 0) (hf 0) with hgoal | hnear
    · exact ⟨0, hgoal⟩
    · obtain ⟨n, hn⟩ := ih _ hnear fun n => hf (n + 1)
      refine ⟨n + 1, ?_⟩
      rw [List.range_succ_eq_map, List.map_cons, List.map_map]
      exact hn

/-- Step conditions that agree wherever an invariant holds are met by the same runs; the
invariant may depend on one of them. -/
theorem along_congr (M : Machine σ ι ω) {P Q : σ → ι → Prop} {I : σ → Prop}
    (hstep : ∀ s i, I s → Q s i → I (M.step s i).2) (hPQ : ∀ s i, I s → (P s i ↔ Q s i))
    {s : σ} {is : List ι} (hs : I s) : M.Along P s is ↔ M.Along Q s is := by
  constructor
  · apply Along.mono_of_invariant _ (fun s i hI hP => (hPQ s i hI).mp hP) hs
    exact fun s i hI hP => hstep s i hI ((hPQ s i hI).mp hP)
  · exact Along.mono_of_invariant hstep (fun s i hI hQ => (hPQ s i hI).mpr hQ) hs

/-- The same for an invariant that also speaks of the inputs taken so far. -/
theorem invariant_past (M : Machine σ ι ω) {P : σ → ι → Prop} {I : List ι → σ → Prop}
    (hstep : ∀ past s i, I past s → P s i → I (past ++ [i]) (M.step s i).2)
    {past : List ι} {s : σ} {is : List ι} (hs : I past s) (h : M.Along P s is) :
    I (past ++ is) (M.run s is).2 := by
  induction is generalizing past s with
  | nil =>
    rw [List.append_nil]
    exact hs
  | cons i is ih =>
    have hnext := ih (hstep past s i hs h.1) h.2
    rw [List.append_assoc] at hnext
    exact hnext

/-- The steps of a run: the state each starts from, and its input. -/
def trace (M : Machine σ ι ω) : σ → List ι → List (σ × ι)
  | _, [] => []
  | s, i :: is => (s, i) :: M.trace (M.step s i).2 is

/-- The same for an invariant that speaks of the steps taken so far. -/
theorem invariant_trace (M : Machine σ ι ω) {I : List (σ × ι) → σ → Prop}
    (hstep : ∀ past s i, I past s → I (past ++ [(s, i)]) (M.step s i).2)
    {past : List (σ × ι)} {s : σ} (is : List ι) (hs : I past s) :
    I (past ++ M.trace s is) (M.run s is).2 := by
  induction is generalizing past s with
  | nil =>
    rw [trace, List.append_nil]
    exact hs
  | cons i is ih =>
    have hnext := ih (hstep past s i hs)
    rw [List.append_assoc] at hnext
    exact hnext

/-- If each step gives out and keeps together what it held and took in, so does a run. -/
theorem conservation (M : Machine σ ι ω) {P : σ → ι → Prop} {I : σ → Prop} {κ : Type}
    (ins : ι → List κ) (outs : ω → List κ) (held : σ → List κ)
    (hstep : ∀ s i, I s → P s i → I (M.step s i).2 ∧
      outs (M.step s i).1 ++ held (M.step s i).2 = held s ++ ins i)
    {s : σ} {is : List ι} (hs : I s) (h : M.Along P s is) :
    I (M.run s is).2 ∧
      (M.run s is).1.flatMap outs ++ held (M.run s is).2 = held s ++ is.flatMap ins := by
  induction is generalizing s with
  | nil => exact ⟨hs, (List.append_nil _).symm⟩
  | cons i is ih =>
    obtain ⟨hnext, hhere⟩ := hstep s i hs h.1
    obtain ⟨hlast, hrest⟩ := ih hnext h.2
    refine ⟨hlast, ?_⟩
    simp only [run, List.flatMap_cons]
    rw [List.append_assoc, hrest, ← List.append_assoc, hhere, List.append_assoc]

/-- A stepwise simulation of `M` by `A`, translating inputs and answers, gives
the same run of `A` with the translated answers. -/
theorem refines {τ κ θ : Type} (M : Machine σ ι ω) (A : Machine τ κ θ) {P : σ → ι → Prop}
    {R : σ → τ → Prop} (inp : ι → κ) (out : ω → θ)
    (hstep : ∀ s t i, R s t → P s i →
      out (M.step s i).1 = (A.step t (inp i)).1 ∧ R (M.step s i).2 (A.step t (inp i)).2)
    {s : σ} {t : τ} {is : List ι} (hs : R s t) (h : M.Along P s is) :
    (M.run s is).1.map out = (A.run t (is.map inp)).1 ∧
      R (M.run s is).2 (A.run t (is.map inp)).2 := by
  induction is generalizing s t with
  | nil => exact ⟨rfl, hs⟩
  | cons i is ih =>
    obtain ⟨hout, hnext⟩ := hstep s t i hs h.1
    obtain ⟨hrest, hlast⟩ := ih hnext h.2
    simp only [run, List.map_cons, hout, hrest]
    exact ⟨trivial, hlast⟩

/-- States that no single step can tell apart give the same answers for ever. -/
theorem run_congr (M : Machine σ ι ω) {R : σ → σ → Prop}
    (hstep : ∀ s t i, R s t →
      (M.step s i).1 = (M.step t i).1 ∧ R (M.step s i).2 (M.step t i).2)
    {s t : σ} (is : List ι) (hs : R s t) : (M.run s is).1 = (M.run t is).1 := by
  induction is generalizing s t with
  | nil => rfl
  | cons i is ih =>
    obtain ⟨hout, hnext⟩ := hstep s t i hs
    simp only [run, hout, ih hnext]

end Machine

/-! ## What happened last -/

section Since

variable {ι : Type} {A B : ι → Prop}

/-- An input with `A` was taken, and only inputs with `B` after it. -/
def Since (A B : ι → Prop) (past : List ι) : Prop :=
  ∃ pre i post, past = pre ++ i :: post ∧ A i ∧ ∀ j ∈ post, B j

theorem not_since_nil : ¬ Since A B [] := by
  rintro ⟨pre, i, post, h, -⟩
  cases pre <;> contradiction

/-- The latest input decides, or leaves it to the ones before it. -/
theorem since_concat {past : List ι} {i : ι} :
    Since A B (past ++ [i]) ↔ A i ∨ (B i ∧ Since A B past) := by
  constructor
  · rintro ⟨pre, j, post, h, hj, hpost⟩
    rcases List.eq_nil_or_concat post with rfl | ⟨post, k, rfl⟩
    · obtain ⟨-, hlast⟩ := List.append_inj' h rfl
      cases hlast
      exact Or.inl hj
    · rw [List.concat_eq_append, ← List.cons_append, ← List.append_assoc] at h
      obtain ⟨hpast, hlast⟩ := List.append_inj' h rfl
      cases hlast
      refine Or.inr ⟨hpost i (by simp), pre, j, post, hpast, hj, ?_⟩
      intro x hx
      exact hpost x (by simp [hx])
  · rintro (hi | ⟨hi, pre, j, post, rfl, hj, hpost⟩)
    · exact ⟨past, i, [], rfl, hi, by simp⟩
    · refine ⟨pre, j, post ++ [i], by simp, hj, ?_⟩
      intro x hx
      rcases List.mem_append.mp hx with hx | hx
      · exact hpost x hx
      · rw [List.mem_singleton.mp hx]
        exact hi

end Since

/-! ## Opening and closing -/

/-- Answers that open and close one thing at a time, with what is open at the end. -/
inductive Bracketed {κ ω : Type} (opens closes : κ → ω) : Option κ → List ω → Prop
  | nil : Bracketed opens closes none []
  | opened {ws : List ω} (h : Bracketed opens closes none ws) (k : κ) :
    Bracketed opens closes (some k) (ws ++ [opens k])
  | closed {ws : List ω} {k : κ} (h : Bracketed opens closes (some k) ws) :
    Bracketed opens closes none (ws ++ [closes k])

/-- Everything opened is closed once before the next is opened, except the one that is open. -/
theorem Bracketed.eq_flatMap {κ ω : Type} {opens closes : κ → ω} {current : Option κ}
    {ws : List ω} (h : Bracketed opens closes current ws) :
    ∃ ks : List κ, ws = ks.flatMap (fun k => [opens k, closes k]) ++
      current.toList.map opens := by
  induction h with
  | nil => exact ⟨[], rfl⟩
  | opened _ k ih =>
    obtain ⟨ks, rfl⟩ := ih
    exact ⟨ks, by simp⟩
  | @closed ws k _ ih =>
    obtain ⟨ks, rfl⟩ := ih
    exact ⟨ks ++ [k], by simp⟩

end WalnutGateway
