import WalnutGateway.Core.Machine

/-!
# Logs of outputs

A machine whose answers are lists of outputs writes a log. Whether an output is in order may depend
on all that was put out before it, and what a state holds may be told by the log.
-/

namespace WalnutGateway

variable {σ ι ω : Type}

/-! ## Outputs in order -/

/-- Every output of a log is as it should be after those before it. -/
def InOrder (Good : List ω → ω → Prop) (log : List ω) : Prop :=
  ∀ before o after, log = before ++ o :: after → Good before o

theorem inOrder_concat {Good : List ω → ω → Prop} {log : List ω} {o : ω} :
    InOrder Good (log ++ [o]) ↔ InOrder Good log ∧ Good log o := by
  constructor
  · intro h
    refine ⟨fun before o' after heq => ?_, h log o [] rfl⟩
    apply h before o' (after ++ [o])
    rw [heq, List.append_assoc, List.cons_append]
  · rintro ⟨hlog, ho⟩ before o' after heq
    rcases List.eq_nil_or_concat after with rfl | ⟨after, last, rfl⟩
    · obtain ⟨rfl, hlast⟩ := List.append_inj' heq rfl
      cases hlast
      exact ho
    · rw [List.concat_eq_append, ← List.cons_append, ← List.append_assoc] at heq
      exact hlog before o' after (List.append_inj' heq rfl).1

/-! ## Steps made of parts -/

/-- One part of a step after another, with what both put out. -/
def andThen (p : List ω × σ) (f : σ → List ω × σ) : List ω × σ := (p.1 ++ (f p.2).1, (f p.2).2)

theorem keeps_andThen {I : List ω → σ → Prop} {log : List ω} {p : List ω × σ}
    {f : σ → List ω × σ} (hp : I (log ++ p.1) p.2)
    (hf : ∀ log s, I log s → I (log ++ (f s).1) (f s).2) :
    I (log ++ (andThen p f).1) (andThen p f).2 := by
  rw [andThen, ← List.append_assoc]
  exact hf _ _ hp

/-! ## Runs -/

end WalnutGateway
