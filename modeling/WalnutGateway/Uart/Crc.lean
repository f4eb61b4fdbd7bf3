import WalnutGateway.Core.ShiftRegister
import WalnutGateway.Uart.Protocol

/-!
# What the frame checksum notices

`stm_crc16` is a register of 16 bits that takes the bytes of a frame, each with its least
significant bit first. A frame of which only bits within 16 in a row were changed, none of them
in the marker, in a length or in the checksum itself, is no frame any more.
-/

namespace WalnutGateway

open ShiftRegister

/-- The polynomial of `stm_crc16`. -/
def stmCrcPoly : BitVec 16 := 0x8408#16

/-- The bits of a byte in the order in which they are sent. -/
def byteBits (b : Byte) : List Bool := (List.range 8).map b.toBitVec.getLsbD

/-- A bit of a buffer, counted in the order in which they are sent. -/
def bitAt (buf : List Byte) (i : Nat) : Bool := (buf.getD (i / 8) 0).toBitVec.getLsbD (i % 8)

/-- Bits were flipped, all within 16 in a row, in the bytes of a frame of `total` bytes that the
checksum covers, the lengths left out. -/
structure Burst (buf corrupted : List Byte) (total : Nat) : Prop where
  length_eq : corrupted.length = buf.length
  flipped : ∃ i, bitAt buf i ≠ bitAt corrupted i
  window : ∃ first, ∀ i, bitAt buf i ≠ bitAt corrupted i → first ≤ i ∧ i < first + 16
  covered : ∀ i, bitAt buf i ≠ bitAt corrupted i → 2 ≤ i / 8 ∧ i / 8 < total - 2
  lengths_kept : ∀ i, bitAt buf i ≠ bitAt corrupted i →
    i / 8 ≠ 5 ∧ i / 8 ≠ 7 + (buf.getD 5 0).toNat ∧ i / 8 ≠ 8 + (buf.getD 5 0).toNat

/-! ## The checksum as a shift register -/

theorem stmCrcBit_toBitVec (fcs : UInt16) :
    (stmCrcBit fcs).toBitVec = step stmCrcPoly fcs.toBitVec false := by
  have hlow : fcs &&& 1 ≠ 0 ↔ (fcs.toBitVec.getLsbD 0 ^^ false) = true := by
    rw [Bool.xor_false, BitVec.getLsbD, Nat.testBit_zero, ne_eq, ← UInt16.toNat_inj,
      UInt16.toNat_and]
    change ¬fcs.toNat &&& 1 = 0 ↔ _
    rw [Nat.and_one_is_mod, decide_eq_true_eq, UInt16.toNat_toBitVec]
    omega
  unfold stmCrcBit step
  by_cases hset : fcs &&& 1 ≠ 0
  · rw [if_pos hset, if_pos (hlow.mp hset)]
    rfl
  · rw [if_neg hset, if_neg (mt hlow.mpr hset)]
    rfl

theorem stmCrcByte_toBitVec (fcs : UInt16) (b : Byte) :
    (stmCrcByte fcs b).toBitVec = run stmCrcPoly fcs.toBitVec (byteBits b) := by
  have hrepeat (n : Nat) (s : UInt16) : (Nat.repeat stmCrcBit n s).toBitVec =
      Nat.repeat (fun s => step stmCrcPoly s false) n s.toBitVec := by
    induction n with
    | zero => rfl
    | succ n ih => rw [Nat.repeat, Nat.repeat, stmCrcBit_toBitVec, ih]
  have hbits : (List.range 8).map b.toUInt16.toBitVec.getLsbD = byteBits b := by
    refine List.map_congr_left fun i hi => ?_
    have hlt := List.mem_range.mp hi
    rw [UInt8.toBitVec_toUInt16, BitVec.getLsbD_setWidth, decide_eq_true (by omega), Bool.true_and]
  have hout : b.toUInt16.toBitVec >>> 8 = 0#16 := by
    apply BitVec.eq_of_toNat_eq
    have hlt := b.toNat_lt
    simp
    omega
  rw [stmCrcByte, hrepeat, UInt16.toBitVec_xor, repeat_step_xor, hbits, hout, BitVec.xor_zero]

theorem stmCrc16_toBitVec (data : List Byte) :
    (stmCrc16 data).toBitVec = ~~~ run stmCrcPoly 0xFFFF#16 (data.flatMap byteBits) := by
  have hfold (fcs : UInt16) : (data.foldl stmCrcByte fcs).toBitVec =
      run stmCrcPoly fcs.toBitVec (data.flatMap byteBits) := by
    induction data generalizing fcs with
    | nil => rfl
    | cons b data ih => rw [List.foldl_cons, ih, stmCrcByte_toBitVec, List.flatMap_cons, run_append]
  rw [stmCrc16, UInt16.toBitVec_not, hfold]
  rfl

/-! ## Bits by place -/

theorem byteBits_getElem? (b : Byte) {i : Nat} (h : i < 8) :
    (byteBits b)[i]? = some (b.toBitVec.getLsbD i) := by
  rw [byteBits, List.getElem?_map, List.getElem?_range h, Option.map_some]

theorem flatMap_byteBits_getElem? (data : List Byte) (i : Nat) :
    (data.flatMap byteBits)[i]? = data[i / 8]?.map fun b => b.toBitVec.getLsbD (i % 8) := by
  induction data generalizing i with
  | nil => rfl
  | cons b data ih =>
    have hlength : (byteBits b).length = 8 := rfl
    rw [List.flatMap_cons]
    by_cases hi : i < 8
    · rw [List.getElem?_append_left (by omega), byteBits_getElem? b hi, Nat.div_eq_of_lt hi,
        Nat.mod_eq_of_lt hi]
      rfl
    · have hmod : (i - 8) % 8 = i % 8 := (Nat.mod_eq_sub_mod (by omega)).symm
      have hdiv : i / 8 = (i - 8) / 8 + 1 := Nat.div_eq_sub_div (by omega) (by omega)
      rw [List.getElem?_append_right (by omega), ih, hlength, hmod, hdiv, List.getElem?_cons_succ]

/-- Bytes of which no bit differs are the same. -/
theorem getD_eq_of_bits {a b : List Byte} {j : Nat} (h : ∀ i, i / 8 = j → bitAt a i = bitAt b i) :
    a.getD j 0 = b.getD j 0 := by
  apply UInt8.toBitVec_inj.mp
  apply BitVec.eq_of_getLsbD_eq
  intro k hk
  have hbit := h (8 * j + k) (by omega)
  rwa [bitAt, bitAt, Nat.mul_add_div (by omega), Nat.div_eq_of_lt hk, Nat.mul_add_mod,
    Nat.mod_eq_of_lt hk] at hbit

/-- The bits of a part of a buffer are those of the buffer. -/
theorem part_bits_getElem? {buf : List Byte} {start n : Nat} (h : start + n ≤ buf.length)
    {i : Nat} (hi : i < 8 * n) :
    (((buf.drop start).take n).flatMap byteBits)[i]? = some (bitAt buf (8 * start + i)) := by
  have hplace : i / 8 < n := by omega
  rw [flatMap_byteBits_getElem?, List.getElem?_take_of_lt hplace, List.getElem?_drop, bitAt,
    Nat.mul_add_div (by omega), Nat.mul_add_mod, List.getD_eq_getElem?_getD,
    List.getElem?_eq_getElem (by omega), Option.map_some, Option.getD_some]

/-! ## What is noticed -/

section Noticed

variable {buf corrupted : List Byte} {total : Nat}

/-- Bytes that the checksum does not cover, and the lengths, are as they were. -/
theorem Burst.getD_eq (h : Burst buf corrupted total) {j : Nat}
    (hj : j < 2 ∨ total - 2 ≤ j ∨ j = 5 ∨ j = 7 + (buf.getD 5 0).toNat ∨
      j = 8 + (buf.getD 5 0).toNat) : corrupted.getD j 0 = buf.getD j 0 := by
  refine (getD_eq_of_bits fun i hi => ?_).symm
  by_contra hne
  have hcovered := h.covered i hne
  have hkept := h.lengths_kept i hne
  omega

/-- The checksum of a frame is not that of what a burst made of it. -/
theorem Burst.crc_ne (h : Burst buf corrupted total) (hat : StmFrameAt buf total) :
    stmCrc16 ((corrupted.drop 2).take (total - 4)) ≠ stmCrc16 ((buf.drop 2).take (total - 4)) := by
  have htotal := hat.total_eq
  have hle := hat.total_le
  have hlength := h.length_eq
  have hbits {a : List Byte} (ha : a.length = buf.length) {i : Nat} (hi : i < 8 * (total - 4)) :
      (((a.drop 2).take (total - 4)).flatMap byteBits)[i]? = some (bitAt a (16 + i)) :=
    part_bits_getElem? (by omega) hi
  have hcount {a : List Byte} (ha : a.length = buf.length) :
      (((a.drop 2).take (total - 4)).flatMap byteBits).length = 8 * (total - 4) := by
    have hconst : ∀ b ∈ (a.drop 2).take (total - 4), (byteBits b).length = 8 := fun _ _ => rfl
    rw [List.length_flatMap, List.map_congr_left hconst, List.map_const', List.sum_replicate,
      List.length_take, List.length_drop]
    simp
    omega
  have hdiffer (i : Nat) : (((buf.drop 2).take (total - 4)).flatMap byteBits)[i]? ≠
      (((corrupted.drop 2).take (total - 4)).flatMap byteBits)[i]? ↔
      i < 8 * (total - 4) ∧ bitAt buf (16 + i) ≠ bitAt corrupted (16 + i) := by
    by_cases hi : i < 8 * (total - 4)
    · rw [hbits rfl hi, hbits hlength hi, ne_eq, Option.some_inj]
      exact (and_iff_right hi).symm
    · rw [List.getElem?_eq_none (by rw [hcount rfl]; omega),
        List.getElem?_eq_none (by rw [hcount hlength]; omega)]
      exact iff_of_false (fun hne => hne rfl) fun hlt => hi hlt.1
  obtain ⟨first, hwindow⟩ := h.window
  obtain ⟨i, hflipped⟩ := h.flipped
  have hcovered := h.covered i hflipped
  intro hcrc
  have hsame := congrArg UInt16.toBitVec hcrc
  rw [stmCrc16_toBitVec, stmCrc16_toBitVec, BitVec.not_inj] at hsame
  refine run_ne_of_burst rfl 0xFFFF#16 ((hcount rfl).trans (hcount hlength).symm) (first - 16)
    ⟨i - 16, ?_⟩ (fun k hk => ?_) hsame.symm
  · rw [hdiffer, Nat.add_sub_of_le (by omega)]
    exact ⟨by omega, hflipped⟩
  · have hin := hwindow _ ((hdiffer k).mp hk).2
    omega

/-- Of a frame of which only bits within 16 in a row were flipped, in the bytes that the checksum
covers and not in a length, no frame is left. -/
theorem stm_burst_detected (hframe : stmFrameComplete buf = .complete total)
    (h : Burst buf corrupted total) : stmFrameComplete corrupted = .bad := by
  have hat := stmFrameComplete_eq_complete.mp hframe
  have htotal := hat.total_eq
  have hle := hat.total_le
  have hsrc := hat.srcLen_le
  have hpayload := hat.payloadLen_le
  have hlength := h.length_eq
  have hsrcLen : corrupted.getD 5 0 = buf.getD 5 0 := h.getD_eq (by omega)
  have hpayloadLen : beUint16 corrupted (7 + (buf.getD 5 0).toNat) =
      beUint16 buf (7 + (buf.getD 5 0).toNat) := by
    rw [beUint16, beUint16, h.getD_eq (by omega), h.getD_eq (by omega)]
  have hcrc : beUint16 corrupted (total - 2) = beUint16 buf (total - 2) := by
    rw [beUint16, beUint16, h.getD_eq (by omega), h.getD_eq (by omega)]
  unfold stmFrameComplete
  rw [if_neg (by omega), h.getD_eq (by omega), h.getD_eq (by omega), hat.sof1, hat.sof2,
    if_neg (by simp), if_neg (by omega)]
  dsimp only
  rw [hsrcLen, hpayloadLen, ← htotal, if_neg (by omega), if_neg (by omega), if_neg (by omega),
    if_neg (by omega), hcrc, ← hat.crc, if_pos]
  exact fun hsame => h.crc_ne hat (UInt16.toNat_inj.mp hsame)

/-- A flipped bit in the command of a frame without a payload. -/
theorem stm_burst_detected_command :
    stmFrameComplete [0xAA, 0x55, 0x01, 0x01, 0x04, 0x00, 0x00, 0x00, 0x00, 0x60, 0x42] = .bad := by
  have hframe : stmFrameComplete
      [0xAA, 0x55, 0x01, 0x01, 0x04, 0x00, 0x01, 0x00, 0x00, 0x60, 0x42] = .complete 11 := by
    decide +kernel
  have hinside : ∀ i < 88, i ≠ 48 →
      bitAt [0xAA, 0x55, 0x01, 0x01, 0x04, 0x00, 0x01, 0x00, 0x00, 0x60, 0x42] i =
        bitAt [0xAA, 0x55, 0x01, 0x01, 0x04, 0x00, 0x00, 0x00, 0x00, 0x60, 0x42] i := by
    decide +kernel
  have hflipped (i : Nat)
      (hne : bitAt [0xAA, 0x55, 0x01, 0x01, 0x04, 0x00, 0x01, 0x00, 0x00, 0x60, 0x42] i ≠
        bitAt [0xAA, 0x55, 0x01, 0x01, 0x04, 0x00, 0x00, 0x00, 0x00, 0x60, 0x42] i) : i = 48 := by
    by_contra hother
    by_cases hin : i < 88
    · exact hne (hinside i hin hother)
    · apply hne
      rw [bitAt, bitAt, List.getD_eq_default _ _ (by simp; omega),
        List.getD_eq_default _ _ (by simp; omega)]
  refine stm_burst_detected hframe ⟨rfl, ⟨48, by decide⟩, ⟨48, fun i hne => ?_⟩, fun i hne => ?_,
    fun i hne => ?_⟩
  all_goals
    obtain rfl := hflipped i hne
    decide

end Noticed

end WalnutGateway
