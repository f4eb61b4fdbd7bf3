import Mathlib.Data.List.Basic

/-!
# Reassembly

Records arrive as a stream cut anywhere. A recognizer looks at the bytes received so
far and finds too few of them, no record, or a record at their front. If it decides by
the record's own bytes, then a receiver that keeps what is left over finds every record
of a stream, however the stream is cut.
-/

namespace WalnutGateway

variable {β : Type}

/-- What a recognizer finds at the front of the bytes received. -/
inductive FrameCheck
  | needMore
  | bad
  | complete (total : Nat)
  deriving DecidableEq, Repr

/-- A recognizer of the first record of a string, and where to look next when there is none. -/
structure Recognizer (β : Type) where
  check : List β → FrameCheck
  resync : List β → List β
  /-- A record takes up room, and lies inside the string. -/
  complete_pos : ∀ {bs n}, check bs = .complete n → 0 < n ∧ n ≤ bs.length
  /-- A record is recognized whatever comes behind it. -/
  check_extend : ∀ {bs n}, check bs = .complete n → ∀ t, check (bs.take n ++ t) = .complete n
  /-- Until its last byte is there, more are needed. -/
  check_take : ∀ {bs n}, check bs = .complete n → ∀ m, m < n → check (bs.take m) = .needMore
  /-- Something is given up where there is no record. -/
  resync_lt : ∀ {bs : List β}, bs ≠ [] → (resync bs).length < bs.length

namespace Recognizer

/-- The records at the front of a string, with at most `fuel` looks, and what is left over. -/
def splitLoop (R : Recognizer β) : Nat → List β → List (List β) × List β
  | 0, bs => ([], bs)
  | fuel + 1, bs =>
    if bs.isEmpty then ([], []) else
    match R.check bs with
    | .needMore => ([], bs)
    | .bad => splitLoop R fuel (R.resync bs)
    | .complete n =>
      let later := splitLoop R fuel (bs.drop n)
      (bs.take n :: later.1, later.2)

variable (R : Recognizer β)

/-- The records at the front of a string, and what is left over. -/
def split (bs : List β) : List (List β) × List β := R.splitLoop bs.length bs

/-- The string is one record. -/
def IsFrame (f : List β) : Prop := R.check f = .complete f.length

/-- Nothing can be done with the string until more arrives. -/
def Settled (bs : List β) : Prop := bs = [] ∨ R.check bs = .needMore

variable {R}

theorem IsFrame.ne_nil {f : List β} (h : R.IsFrame f) : f ≠ [] := by
  rintro rfl
  have hpos := R.complete_pos h
  simp at hpos

/-- A record at the front is recognized. -/
theorem IsFrame.check_append {f : List β} (h : R.IsFrame f) (t : List β) :
    R.check (f ++ t) = .complete f.length := by
  have hext := R.check_extend h t
  rwa [List.take_length] at hext

/-- Records do not settle. -/
theorem eq_nil_of_settled {fs : List (List β)} (hfs : ∀ f ∈ fs, R.IsFrame f)
    (h : R.Settled fs.flatten) : fs = [] := by
  cases fs with
  | nil => rfl
  | cons f fs =>
    have hf := hfs f (by simp)
    rw [List.flatten_cons] at h
    rcases h with hnil | hmore
    · exact absurd (List.append_eq_nil_iff.mp hnil).1 hf.ne_nil
    · rw [hf.check_append] at hmore
      contradiction

/-- Nothing is invented: the records and what is left over are no longer than the string. -/
theorem length_splitLoop (fuel : Nat) (bs : List β) :
    (R.splitLoop fuel bs).1.flatten.length + (R.splitLoop fuel bs).2.length ≤ bs.length := by
  induction fuel generalizing bs with
  | zero => simp [splitLoop]
  | succ fuel ih =>
    rw [splitLoop]
    split
    · simp
    · rename_i hne
      have hne : bs ≠ [] := by simpa using hne
      split
      · simp
      · have hlt := R.resync_lt hne
        have := ih (R.resync bs)
        omega
      · rename_i n hcheck
        have hpos := R.complete_pos hcheck
        have := ih (bs.drop n)
        rw [List.length_drop] at this
        simp only [List.flatten_cons, List.length_append, List.length_take]
        omega

/-- The start of a stream of records splits into whole records and the start of the rest. -/
theorem splitLoop_stream {fs : List (List β)} (hfs : ∀ f ∈ fs, R.IsFrame f) {bs t : List β}
    (hstream : bs ++ t = fs.flatten) {fuel : Nat} (hfuel : bs.length ≤ fuel) :
    ∃ done rest left, fs = done ++ rest ∧ R.splitLoop fuel bs = (done, left) ∧
      left ++ t = rest.flatten ∧ R.Settled left := by
  induction fs generalizing bs fuel with
  | nil =>
    obtain ⟨rfl, rfl⟩ := List.append_eq_nil_iff.mp hstream
    refine ⟨[], [], [], rfl, ?_, rfl, Or.inl rfl⟩
    cases fuel <;> rfl
  | cons f fs ih =>
    have hf := hfs f (by simp)
    rw [List.flatten_cons] at hstream
    cases fuel with
    | zero =>
      have hnil : bs = [] := List.length_eq_zero_iff.mp (by omega)
      subst hnil
      exact ⟨[], f :: fs, [], rfl, rfl, hstream, Or.inl rfl⟩
    | succ fuel =>
      rw [splitLoop]
      by_cases hnil : bs = []
      · subst hnil
        exact ⟨[], f :: fs, [], rfl, rfl, hstream, Or.inl rfl⟩
      · rw [if_neg (by simpa using hnil)]
        rcases Nat.lt_or_ge bs.length f.length with hshort | hlong
        · -- the first record is not there yet
          have hstart : bs = f.take bs.length := by
            have htake := congrArg (List.take bs.length) hstream
            rwa [List.take_left, List.take_append_of_le_length (Nat.le_of_lt hshort)] at htake
          have hmore : R.check bs = .needMore := by
            rw [hstart]
            exact R.check_take hf bs.length hshort
          rw [hmore]
          exact ⟨[], f :: fs, bs, rfl, rfl, hstream, Or.inr hmore⟩
        · have hfront : bs.take f.length = f := by
            have htake := congrArg (List.take f.length) hstream
            rwa [List.take_left, List.take_append_of_le_length hlong] at htake
          have hsplit : bs = f ++ bs.drop f.length := by
            conv_lhs => rw [← List.take_append_drop f.length bs, hfront]
          have hcheck : R.check bs = .complete f.length := by
            rw [hsplit]
            exact hf.check_append _
          have htail : bs.drop f.length ++ t = fs.flatten := by
            rw [hsplit, List.append_assoc] at hstream
            exact List.append_cancel_left hstream
          have hpos := R.complete_pos hcheck
          obtain ⟨done, rest, left, rfl, hloop, hleft, hsettled⟩ :=
            ih (fun g hg => hfs g (by simp [hg])) htail
              (by rw [List.length_drop]; omega : (bs.drop f.length).length ≤ fuel)
          rw [hcheck]
          dsimp only
          rw [hloop, hfront]
          exact ⟨f :: done, rest, left, rfl, rfl, hleft, hsettled⟩

theorem length_split (bs : List β) :
    (R.split bs).1.flatten.length + (R.split bs).2.length ≤ bs.length :=
  length_splitLoop bs.length bs

theorem split_stream {fs : List (List β)} (hfs : ∀ f ∈ fs, R.IsFrame f) {bs t : List β}
    (hstream : bs ++ t = fs.flatten) :
    ∃ done rest left, fs = done ++ rest ∧ R.split bs = (done, left) ∧
      left ++ t = rest.flatten ∧ R.Settled left :=
  splitLoop_stream hfs hstream (Nat.le_refl _)

end Recognizer

end WalnutGateway
