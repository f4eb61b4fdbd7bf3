import WalnutGateway.Core.Bytes

/-!
# Envelopes with a XOR check

A body of a fixed length stands between fixed bytes and is followed by the XOR of its bytes. Two
envelopes of one kind differ in no byte or in more than one, so a change of a single byte is
noticed wherever it hits.
-/

namespace WalnutGateway

/-- The XOR of some bytes. -/
def xorSum (bs : List Byte) : Byte := bs.foldl (· ^^^ ·) 0

/-- A body in its envelope. -/
def envelope (start stop body : List Byte) : List Byte :=
  start ++ body ++ [xorSum body] ++ stop

/-- An envelope of a body of `n` bytes. -/
def IsEnvelope (start stop : List Byte) (n : Nat) (frame : List Byte) : Prop :=
  ∃ body, body.length = n ∧ frame = envelope start stop body

section

variable {start stop body : List Byte}

theorem foldl_xor (bs : List Byte) (b : Byte) : bs.foldl (· ^^^ ·) b = b ^^^ xorSum bs := by
  unfold xorSum
  induction bs generalizing b with
  | nil => simp
  | cons c bs ih => rw [List.foldl_cons, List.foldl_cons, ih, ih (0 ^^^ c)]; simp [UInt8.xor_assoc]

theorem xorSum_cons (b : Byte) (bs : List Byte) : xorSum (b :: bs) = b ^^^ xorSum bs := by
  unfold xorSum
  rw [List.foldl_cons, foldl_xor, UInt8.zero_xor]
  rfl

/-- The sum tells a change of one byte. -/
theorem xorSum_set {bs : List Byte} {i : Nat} (hi : i < bs.length) {b : Byte}
    (h : xorSum (bs.set i b) = xorSum bs) : bs.set i b = bs := by
  induction bs generalizing i with
  | nil => rfl
  | cons c bs ih =>
    cases i with
    | zero =>
      rw [List.set_cons_zero, xorSum_cons, xorSum_cons, UInt8.xor_left_inj] at h
      rw [List.set_cons_zero, h]
    | succ i =>
      rw [List.set_cons_succ, xorSum_cons, xorSum_cons, UInt8.xor_right_inj] at h
      rw [List.set_cons_succ, ih (Nat.lt_of_succ_lt_succ hi) h]

theorem length_envelope (start stop body : List Byte) :
    (envelope start stop body).length = start.length + body.length + 1 + stop.length := by
  simp only [envelope, List.length_append, List.length_singleton]

/-- What is one byte away from an envelope and is one as well is the same. -/
theorem envelope_set {other : List Byte} (hlength : other.length = body.length) {i : Nat}
    {b : Byte} (h : (envelope start stop body).set i b = envelope start stop other) :
    (envelope start stop body).set i b = envelope start stop body := by
  have hflat (body : List Byte) :
      envelope start stop body = start ++ (body ++ (xorSum body :: stop)) := by
    simp [envelope]
  have hsame : other = body → (envelope start stop body).set i b = envelope start stop body :=
    fun heq => heq ▸ h
  rw [hflat, hflat, List.set_append] at h
  split at h
  · exact hsame (List.append_inj_left (List.append_inj' h (by simp [hlength])).2.symm hlength)
  · have hbody := List.append_cancel_left h
    rw [List.set_append] at hbody
    split at hbody
    · rename_i hin
      obtain ⟨hset, hcheck⟩ := List.append_inj hbody (by simp [hlength])
      have hsum : xorSum (body.set (i - start.length) b) = xorSum body := by
        rw [hset]
        exact (List.cons.inj hcheck).1.symm
      exact hsame (hset.symm.trans (xorSum_set hin hsum))
    · exact hsame (List.append_inj_left hbody hlength.symm).symm

/-- An envelope in which one byte is changed is none any more. -/
theorem IsEnvelope.not_set {n : Nat} {frame : List Byte} (h : IsEnvelope start stop n frame)
    {i : Nat} (hi : i < frame.length) {b : Byte} (hb : b ≠ frame[i]) :
    ¬ IsEnvelope start stop n (frame.set i b) := by
  rintro ⟨other, hother, heq⟩
  obtain ⟨body, hbody, rfl⟩ := h
  have hsame := envelope_set (hother.trans hbody.symm) heq
  have hget := List.getElem_set_self (l := (envelope start stop body)) (a := b) (by simpa using hi)
  simp only [hsame] at hget
  exact hb hget.symm

end

end WalnutGateway
