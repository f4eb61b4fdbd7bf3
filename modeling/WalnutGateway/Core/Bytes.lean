import Mathlib.Data.Vector.Basic
import Mathlib.Tactic.Ring

/-!
# Bytes, little-endian words and fixed-size arrays

A C object stored in a file is a list of bytes. Words are written least
significant byte first, truncated to their width, and a fixed-size array is a
list carrying its length. The two read-back laws are the only facts about the
encoding that a storage proof needs.
-/

namespace WalnutGateway

/-- One byte of memory or of a file. -/
abbrev Byte := UInt8

/-- The bytes of a list are checked one by one, never all 256 values. -/
instance (priority := 2000) decidableBallByte (p : Byte → Prop) [DecidablePred p]
    (bs : List Byte) : Decidable (∀ b ∈ bs, p b) :=
  List.decidableBAll p bs

/-! ## Little-endian words -/

/-- The low `width` bytes of `n`, least significant first. -/
def leBytes : Nat → Nat → List Byte
  | 0, _ => []
  | width + 1, n => UInt8.ofNat n :: leBytes width (n / 256)

/-- The number a little-endian byte string denotes. -/
def leNat : List Byte → Nat
  | [] => 0
  | b :: bs => b.toNat + 256 * leNat bs

@[simp] theorem length_leBytes (width n : Nat) : (leBytes width n).length = width := by
  induction width generalizing n with
  | zero => rfl
  | succ width ih => simp only [leBytes, List.length_cons, ih]

/-- What holds for each of the 256 values holds for every byte. -/
theorem forall_byte {P : Byte → Prop} (h : ∀ n < 256, P (UInt8.ofNat n)) (c : Byte) : P c := by
  have hc := h c.toNat c.toNat_lt
  rwa [UInt8.ofNat_toNat] at hc

/-- A word that fits its width is read back exactly. -/
theorem leNat_leBytes {width n : Nat} (h : n < 256 ^ width) : leNat (leBytes width n) = n := by
  induction width generalizing n with
  | zero =>
    rw [pow_zero] at h
    simp only [leBytes, leNat]
    omega
  | succ width ih =>
    have hq : n / 256 < 256 ^ width := by
      rw [pow_succ] at h
      omega
    simp only [leBytes, leNat, ih hq, UInt8.toNat_ofNat']
    omega

/-- A byte string of a given width denotes a number below that width's bound. -/
theorem leNat_lt (bs : List Byte) : leNat bs < 256 ^ bs.length := by
  induction bs with
  | nil => simp [leNat]
  | cons b bs ih =>
    have hb : b.toNat < 256 := b.toNat_lt
    rw [leNat, List.length_cons, pow_succ]
    omega

/-! ## Big-endian words -/

/-- The low byte of a two's complement number. -/
def intByte (v : Int) : Byte := UInt8.ofNat (v % 256).toNat

/-- The low `width` bytes of a two's complement number, most significant first. -/
def beBytes (width : Nat) (v : Int) : List Byte :=
  (List.range width).map fun i => intByte (v / 256 ^ (width - 1 - i))

@[simp] theorem length_beBytes (width : Nat) (v : Int) : (beBytes width v).length = width := by
  simp only [beBytes, List.length_map, List.length_range]

/-! ## Memory behind a pointer -/

/-- `n` bytes of memory; whatever lies behind the object reads as 0. -/
def memRead (mem : List Byte) (n : Nat) : List Byte :=
  mem.take n ++ List.replicate (n - mem.length) 0

@[simp] theorem length_memRead (mem : List Byte) (n : Nat) : (memRead mem n).length = n := by
  simp [memRead]
  omega

/-- Inside the object a read takes the object's own bytes. -/
theorem memRead_of_le {mem : List Byte} {n : Nat} (h : n ≤ mem.length) :
    memRead mem n = mem.take n := by
  rw [memRead, Nat.sub_eq_zero_of_le h, List.replicate_zero, List.append_nil]

/-! ## Fixed-size arrays -/

/-- A C array of `n` bytes. -/
abbrev CArray (n : Nat) := List.Vector Byte n

/-- The array that starts with `bs` and is zero behind it (`memset` then `memcpy`). -/
def CArray.ofList (n : Nat) (bs : List Byte) : CArray n := ⟨memRead bs n, length_memRead bs n⟩

/-- Bytes that fit the array are found at its start. -/
theorem CArray.take_ofList {n : Nat} {bs : List Byte} (h : bs.length ≤ n) :
    (CArray.ofList n bs).toList.take bs.length = bs := by
  change (memRead bs n).take bs.length = bs
  rw [memRead, List.take_of_length_le h, List.take_left]

/-- Copying a whole array into an array of its size changes nothing. -/
theorem CArray.ofList_toList {n : Nat} (a : CArray n) : CArray.ofList n a.toList = a := by
  apply List.Vector.eq
  change memRead a.toList n = a.toList
  have h : a.toList.length = n := a.toList_length
  rw [memRead_of_le h.ge, List.take_of_length_le h.le]

end WalnutGateway
