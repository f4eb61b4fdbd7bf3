import WalnutGateway.Common.Utils
import Mathlib.Data.List.DropRight

/-!
# Command and configuration texts

The string functions that take texts from the command channel apart: those of the C
library that the parsers call, and the tokenizing helpers of `common/utils.c`. A
text is the bytes before its NUL, and all characters are those of the C locale.
-/

namespace WalnutGateway

/-- The characters of a string literal. -/
def asciiBytes (s : String) : List Byte := s.toList.map fun c => UInt8.ofNat c.toNat

/-! ## Characters -/

/-- `isspace`. -/
def isspace (c : Byte) : Bool := c == 0x20 || (0x09 ≤ c && c ≤ 0x0D)

/-- A space or a tab, the delimiters `" \t"`. -/
def isBlank (c : Byte) : Bool := c == 0x20 || c == 0x09

/-- `isdigit`. -/
def isdigit (c : Byte) : Bool := 0x30 ≤ c && c ≤ 0x39

/-- `toupper`. -/
def toupper (c : Byte) : Byte := if 0x61 ≤ c ∧ c ≤ 0x7A then c - 0x20 else c

/-- `tolower`. -/
def tolower (c : Byte) : Byte := if 0x41 ≤ c ∧ c ≤ 0x5A then c + 0x20 else c

/-- `strcasecmp(a, b) == 0`. -/
def strcaseEq (a b : List Byte) : Bool := a.map tolower == b.map tolower

/-- `strncasecmp(s, start, strlen(start)) == 0`. -/
def strncaseEq (start s : List Byte) : Bool := strcaseEq (s.take start.length) start

/-! ## Trimming -/

/-- Both ends without the characters of a class. -/
def trim (p : Byte → Bool) (s : List Byte) : List Byte := (s.dropWhile p).rdropWhile p

/-- `utils_trim_whitespace`. -/
def utilsTrimWhitespace (s : List Byte) : List Byte := trim isBlank s

/-! ## Tokens -/

/-- `utils_strtok_r`, and the C library's: the token and where the next call goes on. -/
def utilsStrtokR (delim : Byte → Bool) (s : List Byte) : Option (List Byte × List Byte) :=
  let start := s.dropWhile delim
  if start = [] then none
  else some (start.takeWhile (! delim ·), (start.dropWhile (! delim ·)).drop 1)

/-- The tokens that `n` calls in a row bring. -/
def strtokCalls (delim : Byte → Bool) : Nat → List Byte → List (List Byte)
  | 0, _ => []
  | n + 1, s =>
    match utilsStrtokR delim s with
    | none => []
    | some (token, rest) => token :: strtokCalls delim n rest

/-- All tokens of a text; each call that finds one takes a character at least. -/
def strtokTokens (delim : Byte → Bool) (s : List Byte) : List (List Byte) :=
  strtokCalls delim s.length s

section Tokens

variable {delim : Byte → Bool} {s : List Byte}

/-- A token is not empty and has no delimiter, and text and rest are shorter than the text. -/
theorem utilsStrtokR_some {token rest : List Byte} (h : utilsStrtokR delim s = some (token, rest)) :
    token ≠ [] ∧ (∀ c ∈ token, delim c = false ∧ c ∈ s) ∧ token.length + rest.length ≤ s.length ∧
      ∀ c ∈ rest, c ∈ s := by
  unfold utilsStrtokR at h
  dsimp only at h
  split_ifs at h with hstart
  rw [Option.some.injEq, Prod.mk.injEq] at h
  obtain ⟨rfl, rfl⟩ := h
  have hsub : ∀ c ∈ s.dropWhile delim, c ∈ s := fun c hc => (List.dropWhile_sublist delim).subset hc
  have hlen : (s.dropWhile delim).length ≤ s.length := (List.dropWhile_sublist delim).length_le
  have hsplit := congrArg List.length
    (List.takeWhile_append_dropWhile (p := (! delim ·)) (l := s.dropWhile delim))
  rw [List.length_append] at hsplit
  refine ⟨?_, ?_, ?_, ?_⟩
  · intro hnil
    obtain ⟨c, cs, hcs⟩ := List.exists_cons_of_ne_nil hstart
    have hhead : delim c = false := by
      have hnot := List.head?_dropWhile_not delim s
      rw [hcs] at hnot
      simpa using hnot
    rw [hcs, List.takeWhile_cons_of_pos (by simp [hhead])] at hnil
    cases hnil
  · intro c hc
    refine ⟨by simpa using List.mem_takeWhile_imp hc, hsub c ?_⟩
    exact (List.takeWhile_sublist _).subset hc
  · rw [List.length_drop]
    omega
  · intro c hc
    exact hsub c ((List.dropWhile_sublist _).subset (List.mem_of_mem_drop hc))

/-- More calls than characters bring nothing new. -/
theorem strtokCalls_of_le {n : Nat} (h : s.length ≤ n) :
    strtokCalls delim n s = strtokTokens delim s := by
  suffices hall : ∀ m s, s.length ≤ m → ∀ n, s.length ≤ n →
      strtokCalls delim n s = strtokCalls delim m s from hall _ s le_rfl n h
  intro m
  induction m with
  | zero =>
    intro s hs n _
    obtain rfl : s = [] := List.length_eq_zero_iff.mp (Nat.le_zero.mp hs)
    cases n <;> rfl
  | succ m ih =>
    intro s hs n hn
    cases n with
    | zero =>
      obtain rfl : s = [] := List.length_eq_zero_iff.mp (Nat.le_zero.mp hn)
      rfl
    | succ n =>
      unfold strtokCalls
      cases hcall : utilsStrtokR delim s with
      | none => rfl
      | some p =>
        obtain ⟨token, rest⟩ := p
        obtain ⟨hne, -, hlen, -⟩ := utilsStrtokR_some hcall
        have hpos := List.length_pos_iff.mpr hne
        dsimp only
        rw [ih rest (by omega) n (by omega)]

/-- The tokens are those of the first call and of the rest. -/
theorem strtokTokens_eq : strtokTokens delim s =
    (utilsStrtokR delim s).elim [] fun p => p.1 :: strtokTokens delim p.2 := by
  cases s with
  | nil => rfl
  | cons c s =>
    rw [strtokTokens, List.length_cons, strtokCalls]
    cases hcall : utilsStrtokR delim (c :: s) with
    | none => rfl
    | some p =>
      obtain ⟨token, rest⟩ := p
      obtain ⟨hne, -, hlen, -⟩ := utilsStrtokR_some hcall
      have hpos := List.length_pos_iff.mpr hne
      rw [List.length_cons] at hlen
      dsimp only [Option.elim]
      rw [strtokCalls_of_le (by omega)]

/-- What holds of the characters of all tokens. -/
theorem mem_strtokTokens {token : List Byte} (h : token ∈ strtokTokens delim s) :
    token ≠ [] ∧ ∀ c ∈ token, delim c = false ∧ c ∈ s := by
  unfold strtokTokens at h
  generalize s.length = n at h
  induction n generalizing s with
  | zero => cases h
  | succ n ih =>
    unfold strtokCalls at h
    cases hcall : utilsStrtokR delim s with
    | none =>
      rw [hcall] at h
      cases h
    | some p =>
      obtain ⟨first, rest⟩ := p
      obtain ⟨hne, hchars, -, hrest⟩ := utilsStrtokR_some hcall
      rw [hcall] at h
      rcases List.mem_cons.mp h with rfl | h
      · exact ⟨hne, hchars⟩
      · obtain ⟨hne, hchars⟩ := ih h
        exact ⟨hne, fun c hc => ⟨(hchars c hc).1, hrest c (hchars c hc).2⟩⟩

end Tokens

/-! ## Numbers -/

/-- What `strtol` and `strtoul` read: a minus sign, the digits, and the text behind them. -/
def strtolScan (s : List Byte) : Option (Bool × Nat × List Byte) :=
  let t := s.dropWhile isspace
  let signed := t.head? == some 0x2B || t.head? == some 0x2D
  let u := if signed then t.drop 1 else t
  let digits := u.takeWhile isdigit
  if digits = [] then none
  else some (t.head? == some 0x2D, digits.foldl (fun n c => 10 * n + (c.toNat - 0x30)) 0,
    u.dropWhile isdigit)

/-- `strtol` to base 10 with a `long` of 32 bits; `none` where `*end` is the start. -/
def strtol (s : List Byte) : Option (Int × List Byte) :=
  (strtolScan s).map fun (negative, n, rest) =>
    (if negative then max (-(n : Int)) (-2 ^ 31) else min (n : Int) (2 ^ 31 - 1), rest)

/-- `strtoul` to base 10 with an `unsigned long` of 32 bits. -/
def strtoul (s : List Byte) : Option (Nat × List Byte) :=
  (strtolScan s).map fun (negative, n, rest) =>
    (if n > uint32Max then uint32Max else if negative then (2 ^ 32 - n) % 2 ^ 32 else n, rest)

/-- `atol`, and `atoi` where `int` and `long` are the same. -/
def atol (s : List Byte) : Int := (strtol s).elim 0 Prod.fst

/-- A digit is neither white space nor a sign. -/
theorem isdigit_class {c : Byte} (h : isdigit c = true) :
    isspace c = false ∧ c ≠ 0x2B ∧ c ≠ 0x2D := by
  have hrange : (0x30 : Byte).toNat ≤ c.toNat ∧ c.toNat ≤ (0x39 : Byte).toNat := by
    simpa only [isdigit, Bool.and_eq_true, decide_eq_true_eq, UInt8.le_iff_toNat_le] using h
  have hne (b : Byte) (hb : b.toNat < 0x30) : c ≠ b := by
    rintro rfl
    exact absurd hrange.1 (not_le.mpr hb)
  refine ⟨?_, hne _ (by decide), hne _ (by decide)⟩
  have hhigh : ¬ c ≤ 0x0D := by
    rw [UInt8.le_iff_toNat_le]
    exact fun hle => absurd (hrange.1.trans hle) (by decide)
  rw [isspace, decide_eq_false hhigh, Bool.and_false, Bool.or_false, beq_eq_false_iff_ne]
  exact hne _ (by decide)

/-- `strtol` reads digits up to what follows them. -/
theorem strtolScan_of_digits {t tail : List Byte} (hne : t ≠ [])
    (hdigits : ∀ c ∈ t, isdigit c = true) (htail : ∀ c ∈ tail.head?, isdigit c = false) :
    strtolScan (t ++ tail) =
      some (false, t.foldl (fun n c => 10 * n + (c.toNat - 0x30)) 0, tail) := by
  obtain ⟨c, cs, rfl⟩ := List.exists_cons_of_ne_nil hne
  obtain ⟨hspace, hplus, hminus⟩ := isdigit_class (hdigits c List.mem_cons_self)
  have hstart : (c :: cs ++ tail).dropWhile isspace = c :: cs ++ tail :=
    List.dropWhile_cons_of_neg (by rw [hspace]; exact nofun)
  have hstop : tail.takeWhile isdigit = [] ∧ tail.dropWhile isdigit = tail := by
    cases tail with
    | nil => exact ⟨rfl, rfl⟩
    | cons d tail =>
      have hd : ¬ isdigit d = true := Bool.eq_false_iff.mp (htail d rfl)
      exact ⟨List.takeWhile_cons_of_neg hd, List.dropWhile_cons_of_neg hd⟩
  have htake : (c :: cs ++ tail).takeWhile isdigit = c :: cs := by
    rw [List.takeWhile_append_of_pos hdigits, hstop.1, List.append_nil]
  have hdrop : (c :: cs ++ tail).dropWhile isdigit = tail := by
    rw [List.dropWhile_append_of_pos hdigits, hstop.2]
  have hsign : ((c :: cs ++ tail).head? == some 0x2B || (c :: cs ++ tail).head? == some 0x2D) =
      false := by
    simp [hplus, hminus]
  have hminus' : ((c :: cs ++ tail).head? == some 0x2D) = false := by simp [hminus]
  unfold strtolScan
  rw [hstart]
  dsimp only
  rw [hsign, hminus', if_neg Bool.false_ne_true, htake, hdrop, if_neg hne]

/-! ## Keys and values -/

/-- The character `:` between a key and its value. -/
def colon : Byte := 0x3A

/-- The character `,` between two entries. -/
def comma : Byte := 0x2C

/-- `utils_extract_config_value`. -/
def utilsExtractConfigValue (token : List Byte) : List Byte :=
  if colon ∈ token then (token.dropWhile (· != colon)).drop 1 else token

/-- `utils_config_parse_key` into a buffer of the given size. -/
def utilsConfigParseKey (token : List Byte) (keyBufSize : Nat) : Option (List Byte) :=
  let key := token.takeWhile (· != colon)
  if colon ∉ token then none
  else if key.length = 0 ∨ key.length ≥ keyBufSize then none
  else some key

/-- `utils_config_key_to_index`; `none` for -1. -/
def utilsConfigKeyToIndex (key : List Byte) (table : List (String × Nat)) : Option Nat :=
  (table.find? fun row => strcaseEq key (asciiBytes row.1)).map Prod.snd

/-- `UTILS_STRDUP_TOKENIZATION_MAX_LEN`. -/
def utilsStrdupTokenizationMaxLen : Nat := 2048

/-- `utils_strdup_for_tokenization`, with the answer of `wm_sdk_memory_alloc`. -/
def utilsStrdupForTokenization (alloc : Bool) (src : List Byte) : Option (List Byte) :=
  let s := cString src
  if s.length > utilsStrdupTokenizationMaxLen then none
  else if alloc then some s else none

/-- `TRUE`, `1`, `FALSE` and `0`, the words in any case. -/
def parseBool (s : List Byte) : Option Byte :=
  if strcaseEq s (asciiBytes "TRUE") || s == asciiBytes "1" then some 1
  else if strcaseEq s (asciiBytes "FALSE") || s == asciiBytes "0" then some 0
  else none

/-- The value has no character that the token did not have. -/
theorem mem_utilsExtractConfigValue {token : List Byte} {c : Byte}
    (h : c ∈ utilsExtractConfigValue token) : c ∈ token := by
  unfold utilsExtractConfigValue at h
  split_ifs at h
  · exact (List.dropWhile_sublist _).subset (List.mem_of_mem_drop h)
  · exact h

theorem mem_trim {p : Byte → Bool} {s : List Byte} {c : Byte} (h : c ∈ trim p s) : c ∈ s := by
  refine (List.dropWhile_sublist p).subset ?_
  exact (List.rdropWhile_prefix p (s.dropWhile p)).subset h

end WalnutGateway
