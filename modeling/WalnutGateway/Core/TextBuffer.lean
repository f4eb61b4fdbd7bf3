import WalnutGateway.Common.Utils

/-!
# Texts in a bounded buffer

`snprintf` writes a text into the rest of a buffer, cut to the room and with a NUL behind it, and
returns its whole length. A loop that appends records until one does not fit leaves the part of
that record which did fit: the text in the buffer is the text of all records, cut at its end.
-/

namespace WalnutGateway

/-- `snprintf(out + off, size - off, …)`: the memory behind it. -/
def writeText (out : List Byte) (off : Nat) (text : List Byte) : List Byte :=
  if off < out.length then
    let kept := text.take (out.length - off - 1)
    out.take off ++ kept ++ 0 :: out.drop (off + kept.length + 1)
  else out

/-- The loop that appends records until one does not fit: the offset and the memory. -/
def appendTexts : Nat → List Byte → List (List Byte) → Nat × List Byte
  | off, out, [] => (off, out)
  | off, out, text :: texts =>
    if text.length = 0 ∨ off + text.length ≥ out.length then (off, writeText out off text)
    else appendTexts (off + text.length) (writeText out off text) texts

/-- The memory starts with a text that a NUL ends. -/
def TextAt (out s : List Byte) : Prop := (∃ rest, out = s ++ 0 :: rest) ∧ ∀ b ∈ s, b ≠ 0

section

variable {out s text : List Byte} {off : Nat}

theorem TextAt.cString_eq (h : TextAt out s) : cString out = s := by
  obtain ⟨⟨rest, rfl⟩, hs⟩ := h
  exact cString_append_zero hs rest

theorem TextAt.length_lt (h : TextAt out s) : s.length < out.length := by
  obtain ⟨⟨rest, rfl⟩, -⟩ := h
  rw [List.length_append, List.length_cons]
  omega

@[simp] theorem length_writeText (out : List Byte) (off : Nat) (text : List Byte) :
    (writeText out off text).length = out.length := by
  unfold writeText
  split_ifs
  · simp only [List.length_append, List.length_take, List.length_cons, List.length_drop]
    omega
  · rfl

/-- A text at the start of a buffer, cut to it. -/
theorem writeText_zero (hsize : 0 < out.length) (htext : ∀ b ∈ text, b ≠ 0) :
    TextAt (writeText out 0 text) (text.take (out.length - 1)) := by
  refine ⟨?_, fun b hb => htext b (List.mem_of_mem_take hb)⟩
  rw [writeText, if_pos hsize]
  exact ⟨_, rfl⟩

/-- A text behind another one, cut to the room that is left. -/
theorem TextAt.writeText (h : TextAt out s) (htext : ∀ b ∈ text, b ≠ 0) :
    TextAt (writeText out s.length text) ((s ++ text).take (out.length - 1)) := by
  have hlt := h.length_lt
  obtain ⟨⟨rest, hout⟩, hs⟩ := h
  have hcut : (s ++ text).take (out.length - 1) = s ++ text.take (out.length - s.length - 1) := by
    rw [List.take_append, List.take_of_length_le (by omega)]
    congr 2
    omega
  rw [hcut]
  constructor
  · rw [WalnutGateway.writeText, if_pos hlt, hout, List.take_left]
    exact ⟨_, rfl⟩
  · intro b hb
    rcases List.mem_append.mp hb with hb | hb
    · exact hs b hb
    · exact htext b (List.mem_of_mem_take hb)

/-- Appending leaves the whole text, cut to the buffer. -/
theorem TextAt.appendTexts {texts : List (List Byte)} (h : TextAt out s)
    (htexts : ∀ text ∈ texts, text ≠ [] ∧ ∀ b ∈ text, b ≠ 0) :
    TextAt (appendTexts s.length out texts).2 ((s ++ texts.flatten).take (out.length - 1)) ∧
      (WalnutGateway.appendTexts s.length out texts).2.length = out.length := by
  induction texts generalizing s out with
  | nil =>
    rw [List.flatten_nil, List.append_nil, List.take_of_length_le (by have := h.length_lt; omega)]
    exact ⟨h, rfl⟩
  | cons text texts ih =>
    obtain ⟨hne, htext⟩ := htexts text List.mem_cons_self
    have hpos := List.length_pos_iff.mpr hne
    have hwrite := h.writeText htext
    rw [WalnutGateway.appendTexts, List.flatten_cons, ← List.append_assoc]
    by_cases hroom : s.length + text.length ≥ out.length
    · rw [if_pos (Or.inr hroom), List.take_append_of_le_length
        (by rw [List.length_append]; omega)]
      exact ⟨hwrite, length_writeText out _ text⟩
    · rw [List.take_of_length_le (by rw [List.length_append]; omega)] at hwrite
      have hrest := ih hwrite fun t ht => htexts t (List.mem_cons_of_mem text ht)
      rw [List.length_append, length_writeText] at hrest
      rw [if_neg (not_or.mpr ⟨hpos.ne', hroom⟩)]
      exact hrest

/-- A text that is cut consists of whole records exactly where a record ends at the cut. -/
theorem take_eq_records_iff {header : List Byte} {texts : List (List Byte)} {room : Nat} :
    (∃ k ≤ texts.length, (header ++ texts.flatten).take room =
        header ++ (texts.take k).flatten) ↔
      (header ++ texts.flatten).length ≤ room ∨
        ∃ k ≤ texts.length, (header ++ (texts.take k).flatten).length = room := by
  constructor
  · rintro ⟨k, hk, heq⟩
    rcases le_or_gt (header ++ texts.flatten).length room with hfits | hcut
    · exact .inl hfits
    · refine .inr ⟨k, hk, ?_⟩
      rw [← heq, List.length_take, min_eq_left hcut.le]
  · rintro (hfits | ⟨k, hk, hlen⟩)
    · exact ⟨texts.length, le_rfl, by rw [List.take_of_length_le hfits, List.take_length]⟩
    · refine ⟨k, hk, ?_⟩
      have hsplit : header ++ texts.flatten =
          (header ++ (texts.take k).flatten) ++ (texts.drop k).flatten := by
        rw [List.append_assoc, ← List.flatten_append, List.take_append_drop]
      rw [hsplit, ← hlen, List.take_left]

end

end WalnutGateway
