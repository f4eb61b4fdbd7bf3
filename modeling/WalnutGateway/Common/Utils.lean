import WalnutGateway.Common.Types
import Mathlib.Data.List.TakeWhile

/-!
# String helpers of `common/utils.c`

A C string is the bytes before its first NUL. Only the helpers that the queue
producers and the reset record use are here.
-/

namespace WalnutGateway

/-- The bytes before the first NUL. -/
def cString (bs : List Byte) : List Byte := bs.takeWhile (· ≠ 0)

/-- `utils_strncpy_safe` into an array of `n` bytes: at most `n - 1` characters
are copied and the rest of the array is NUL. -/
def utilsStrncpySafe (n : Nat) (src : List Byte) : CArray n :=
  CArray.ofList n ((cString src).take (n - 1))

/-- A C string has no NUL in it. -/
theorem ne_zero_of_mem_cString {bs : List Byte} {b : Byte} (h : b ∈ cString bs) : b ≠ 0 := by
  simpa using List.mem_takeWhile_imp h

/-- Bytes without a NUL, with one behind them, are the whole string. -/
theorem cString_append_zero {bs : List Byte} (h : ∀ b ∈ bs, b ≠ 0) (tail : List Byte) :
    cString (bs ++ 0 :: tail) = bs := by
  rw [cString, List.takeWhile_append_of_pos (by simpa using h),
    List.takeWhile_cons_of_neg (by simp), List.append_nil]

/-- Bytes without a NUL are a string as far as they go. -/
theorem cString_of_ne_zero {bs : List Byte} (h : ∀ b ∈ bs, b ≠ 0) : cString bs = bs :=
  List.takeWhile_eq_self_iff.mpr (by simpa using h)

/-- A zeroed array holds the string that was put in it, and a NUL. -/
theorem cString_ofList {n : Nat} {bs : List Byte} (h : ∀ b ∈ bs, b ≠ 0) (hn : bs.length < n) :
    cString (CArray.ofList n bs).toList = bs := by
  have hlist : (CArray.ofList n bs).toList = bs ++ 0 :: List.replicate (n - bs.length - 1) 0 := by
    change bs.take n ++ List.replicate (n - bs.length) 0 = _
    rw [List.take_of_length_le hn.le, ← List.replicate_succ]
    congr 2
    omega
  rw [hlist, cString_append_zero h]

/-- A safe copy holds the string, cut where the array ends. -/
theorem cString_utilsStrncpySafe {n : Nat} (hn : 0 < n) (src : List Byte) :
    cString (utilsStrncpySafe n src).toList = (cString src).take (n - 1) := by
  apply cString_ofList
  · intro b hb
    exact ne_zero_of_mem_cString (List.mem_of_mem_take hb)
  · rw [List.length_take]
    omega

/-- Copying a safe copy changes nothing. -/
theorem utilsStrncpySafe_idem {n : Nat} (hn : 0 < n) (src : List Byte) :
    utilsStrncpySafe n (utilsStrncpySafe n src).toList = utilsStrncpySafe n src := by
  rw [utilsStrncpySafe, cString_utilsStrncpySafe hn, List.take_take, Nat.min_self, utilsStrncpySafe]

/-- `strstr`: what follows the first occurrence of `needle`, the occurrence included. -/
def strstr (needle : List Byte) : List Byte → Option (List Byte)
  | [] => if needle = [] then some [] else none
  | b :: bs => if needle.isPrefixOf (b :: bs) then some (b :: bs) else strstr needle bs

/-- `UTILS_HEX_NIBBLE`: 16 when the character is no hex digit. -/
def hexNibble (c : Byte) : Nat :=
  if 0x30 ≤ c ∧ c ≤ 0x39 then c.toNat - 0x30
  else if 0x41 ≤ c ∧ c ≤ 0x46 then c.toNat - 0x41 + 10
  else if 0x61 ≤ c ∧ c ≤ 0x66 then c.toNat - 0x61 + 10
  else 16

/-- The decoding loop: two digits a byte. -/
def hexPairs : List Byte → Option (List Byte)
  | c :: c' :: rest =>
    let v1 := hexNibble c
    let v2 := hexNibble c'
    if v1 ≥ 16 ∨ v2 ≥ 16 then none
    else (hexPairs rest).map (UInt8.ofNat (v1 * 16 + v2) :: ·)
  | _ => some []

/-- `utils_hex_str_to_bytes`: the decoded bytes, `none` where it returns 0. -/
def utilsHexStrToBytes (hex : List Byte) (outCap : Nat) : Option (List Byte) :=
  if hex.length = 0 then some []
  else if hex.length % 2 ≠ 0 then none
  else if hex.length / 2 > outCap then none
  else hexPairs hex

/-- The decoded bytes are half as many as the digits. -/
theorem length_hexPairs {hex out : List Byte} (h : hexPairs hex = some out) :
    out.length = hex.length / 2 := by
  induction hex using hexPairs.induct generalizing out with
  | case1 c c' rest v1 v2 =>
    rename_i hbad
    unfold hexPairs at h
    rw [if_pos hbad] at h
    contradiction
  | case2 c c' rest v1 v2 hok =>
    rename_i ih
    unfold hexPairs at h
    rw [if_neg hok, Option.map_eq_some_iff] at h
    obtain ⟨tail, ht, rfl⟩ := h
    simp only [List.length_cons, ih ht]
    omega
  | case3 hex hshort =>
    match hex, hshort with
    | [], _ =>
      cases h
      rfl
    | [_], _ =>
      cases h
      simp
    | c :: c' :: rest, hs => exact absurd rfl (hs c c' rest)

/-- No more bytes come out than the output buffer holds. -/
theorem length_utilsHexStrToBytes_le {hex out : List Byte} {outCap : Nat}
    (h : utilsHexStrToBytes hex outCap = some out) : out.length ≤ outCap := by
  unfold utilsHexStrToBytes at h
  split at h
  · cases h
    exact Nat.zero_le _
  · split at h
    · contradiction
    · split at h
      · contradiction
      · rw [length_hexPairs h]
        omega

/-! ## Ticks -/

/-- `utils_elapsed_ms_since`, when the tick counter reads `now`. -/
def utilsElapsedMsSince (now startTicks : UInt32) : UInt32 :=
  if startTicks ≤ now then now - startTicks else 0xFFFFFFFF - startTicks + now + 1

/-- `utils_monotonic_ms_elapsed`, when the millisecond counter reads `now`. -/
def utilsMonotonicMsElapsed (now startMs : UInt32) : UInt32 := utilsElapsedMsSince now startMs

/-- A counter that wraps is subtracted as it wraps. -/
theorem utilsElapsedMsSince_eq (now startTicks : UInt32) :
    utilsElapsedMsSince now startTicks = now - startTicks := by
  unfold utilsElapsedMsSince
  split
  · rfl
  · apply UInt32.toNat_inj.mp
    have hmax : (0xFFFFFFFF : UInt32).toNat = 2 ^ 32 - 1 := rfl
    have hone : (1 : UInt32).toNat = 1 := rfl
    have hlt := startTicks.toNat_lt
    rw [UInt32.toNat_add, UInt32.toNat_add, UInt32.toNat_sub, UInt32.toNat_sub, hmax, hone]
    omega

/-- The milliseconds that have passed, less whole turns of the counter. -/
theorem utilsElapsedMsSince_toNat {start now : Nat} (h : start ≤ now) :
    (utilsElapsedMsSince (UInt32.ofNat now) (UInt32.ofNat start)).toNat =
      (now - start) % 2 ^ 32 := by
  rw [utilsElapsedMsSince_eq, UInt32.toNat_sub, UInt32.toNat_ofNat', UInt32.toNat_ofNat']
  omega

/-- No more milliseconds are counted than have passed. -/
theorem utilsElapsedMsSince_le {start now : Nat} (h : start ≤ now) :
    (utilsElapsedMsSince (UInt32.ofNat now) (UInt32.ofNat start)).toNat ≤ now - start := by
  rw [utilsElapsedMsSince_toNat h]
  exact Nat.mod_le _ _

end WalnutGateway
