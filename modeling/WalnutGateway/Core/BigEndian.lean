import WalnutGateway.Core.Bytes
import Mathlib.Tactic.Positivity
import Mathlib.Tactic.Ring

/-!
# Reading big-endian words

A word of a given width is written most significant byte first and cut to its low bytes. Read
back it is the number up to multiples of the bound of its width, and the number itself where it
fits: as it stands if it is not negative, as two's complement otherwise.
-/

namespace WalnutGateway

/-- The number a big-endian byte string denotes. -/
def beNat (bs : List Byte) : Nat := bs.foldl (fun n b => 256 * n + b.toNat) 0

/-- The number it denotes as two's complement. -/
def beInt (bs : List Byte) : Int :=
  if 2 * beNat bs < 256 ^ bs.length then (beNat bs : Int) else beNat bs - 256 ^ bs.length

theorem beNat_concat (bs : List Byte) (b : Byte) :
    beNat (bs ++ [b]) = 256 * beNat bs + b.toNat := by
  simp only [beNat, List.foldl_append, List.foldl_cons, List.foldl_nil]

theorem toNat_intByte (v : Int) : ((intByte v).toNat : Int) = v % 256 := by
  have hlow : 0 ≤ v % 256 := Int.emod_nonneg v (by decide)
  have hhigh : v % 256 < 256 := Int.emod_lt_of_pos v (by decide)
  rw [intByte, UInt8.toNat_ofNat']
  omega

/-- The last byte of a word is its lowest. -/
theorem beBytes_succ (width : Nat) (v : Int) :
    beBytes (width + 1) v = beBytes width (v / 256) ++ [intByte v] := by
  unfold beBytes
  rw [List.range_succ, List.map_append]
  congr 1
  · apply List.map_congr_left
    intro i hi
    have hlt : i < width := List.mem_range.mp hi
    have hpow : (256 : Int) ^ (width + 1 - 1 - i) = 256 * 256 ^ (width - 1 - i) := by
      rw [← pow_succ', show width - 1 - i + 1 = width + 1 - 1 - i by omega]
    rw [hpow, Int.ediv_ediv_of_nonneg (by decide)]
  · simp

/-- A word is read back up to its width. -/
theorem beNat_beBytes (width : Nat) (v : Int) :
    (beNat (beBytes width v) : Int) = v % 256 ^ width := by
  induction width generalizing v with
  | zero => simp [beBytes, beNat]
  | succ width ih =>
    have hword : v % 256 ^ (width + 1) = 256 * (v / 256 % 256 ^ width) + v % 256 := by
      have hquot : v / (256 * 256 ^ width) = v / 256 / 256 ^ width :=
        (Int.ediv_ediv_of_nonneg (by decide)).symm
      rw [pow_succ', Int.emod_def, Int.emod_def (v / 256), Int.emod_def v 256, hquot]
      ring
    rw [beBytes_succ, beNat_concat, Nat.cast_add, Nat.cast_mul, ih, toNat_intByte, hword]
    rfl

/-- A number that is not negative and fits the width is read back. -/
theorem beNat_beBytes_of_lt {width n : Nat} (h : n < 256 ^ width) :
    beNat (beBytes width n) = n := by
  have hmod := beNat_beBytes width n
  rw [Int.emod_eq_of_lt (by omega) (by exact_mod_cast h)] at hmod
  exact_mod_cast hmod

/-- A number that fits the width as two's complement is read back. -/
theorem beInt_beBytes {width : Nat} {v : Int} (hlow : -256 ^ width ≤ 2 * v)
    (hhigh : 2 * v < 256 ^ width) : beInt (beBytes width v) = v := by
  have hword := beNat_beBytes width v
  have hpos : (0 : Int) < 256 ^ width := by positivity
  unfold beInt
  rw [length_beBytes, hword]
  rcases le_or_gt 0 v with hv | hv
  · have hmod : v % 256 ^ width = v := Int.emod_eq_of_lt hv (by omega)
    rw [hmod] at hword ⊢
    rw [if_pos]
    have hint : (2 * beNat (beBytes width v) : Int) < 256 ^ width := by omega
    exact_mod_cast hint
  · have hmod : v % 256 ^ width = v + 256 ^ width := by
      rw [← Int.add_emod_right]
      exact Int.emod_eq_of_lt (by omega) (by omega)
    rw [hmod] at hword ⊢
    rw [if_neg]
    · omega
    · intro hlt
      have hint : (2 * beNat (beBytes width v) : Int) < 256 ^ width := by exact_mod_cast hlt
      omega

end WalnutGateway
