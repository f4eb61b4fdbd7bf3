import WalnutGateway.Core.Bytes
import WalnutGateway.Core.Reassembly

/-!
# STM frames

`stm_binary_protocol.c`: a frame is the marker, a header with a source address, the
command with its payload, and a checksum over all but the marker. A receiver looks at
the bytes it has so far: they may be too few, no frame, or start with a whole frame.
-/

namespace WalnutGateway

/-- `STM_SOF1`. -/
def stmSof1 : Byte := 0xAA

/-- `STM_SOF2`. -/
def stmSof2 : Byte := 0x55

/-- `STM_VER`. -/
def stmVer : Byte := 0x01

/-- `STM_TYPE_STM`. -/
def stmTypeStm : Byte := 0x01

/-- `STM_SRC_TYPE_LOCAL`. -/
def stmSrcTypeLocal : Byte := 0x04

/-- `STM_CMD_RESP_BIT`. -/
def stmCmdRespBit : Byte := 0x80

/-- `STM_CMD_GET_DEV_INFO`. -/
def stmCmdGetDevInfo : Byte := 0x04

/-- `STM_MAX_PAYLOAD`. -/
def stmMaxPayload : Nat := 1040

/-- `STM_SRC_LEN_MAX`. -/
def stmSrcLenMax : Nat := 31

/-! ## Checksum -/

/-- One bit of the checksum. -/
def stmCrcBit (fcs : UInt16) : UInt16 :=
  if fcs &&& 1 ≠ 0 then (fcs >>> 1) ^^^ 0x8408 else fcs >>> 1

/-- One byte of the checksum. -/
def stmCrcByte (fcs : UInt16) (b : Byte) : UInt16 :=
  Nat.repeat stmCrcBit 8 (fcs ^^^ b.toUInt16)

/-- `stm_crc16`. -/
def stmCrc16 (data : List Byte) : UInt16 := ~~~ (data.foldl stmCrcByte 0xFFFF)

/-! ## Building -/

/-- The bytes a checksum covers: `VER` to the last payload byte. -/
def stmFrameBody (srcType : Byte) (srcAddr : List Byte) (cmd : Byte) (payload : List Byte) :
    List Byte :=
  [stmVer, stmTypeStm, srcType, UInt8.ofNat srcAddr.length] ++ srcAddr ++
    [cmd, UInt8.ofNat (payload.length / 256), UInt8.ofNat payload.length] ++ payload

/-- `stm_build_frame_src` into a buffer of `outCap` bytes; `none` where -1 is returned. -/
def stmBuildFrameSrc (outCap : Nat) (srcType : Byte) (srcAddr : List Byte) (cmd : Byte)
    (payload : List Byte) : Option (List Byte) :=
  if srcAddr.length > stmSrcLenMax then none else
  if payload.length > stmMaxPayload then none else
  if outCap < 9 + srcAddr.length + payload.length + 2 then none else
  let body := stmFrameBody srcType srcAddr cmd payload
  let crc := stmCrc16 body
  some ([stmSof1, stmSof2] ++ body ++
    [UInt8.ofNat (crc.toNat / 256), UInt8.ofNat crc.toNat])

/-- `stm_build_frame`. -/
def stmBuildFrame (outCap : Nat) (srcType : Byte) (cmd : Byte) (payload : List Byte) :
    Option (List Byte) :=
  stmBuildFrameSrc outCap srcType [] cmd payload

/-! ## Recognizing -/

/-- The 16 bits at an offset, most significant byte first. -/
def beUint16 (buf : List Byte) (i : Nat) : Nat :=
  (buf.getD i 0).toNat * 256 + (buf.getD (i + 1) 0).toNat

/-- `stm_frame_complete` on the bytes buffered. -/
def stmFrameComplete (buf : List Byte) : FrameCheck :=
  if buf.length < 2 then .needMore else
  if buf.getD 0 0 ≠ stmSof1 ∨ buf.getD 1 0 ≠ stmSof2 then .bad else
  if buf.length < 6 then .needMore else
  let srcLen := (buf.getD 5 0).toNat
  if srcLen > stmSrcLenMax then .bad else
  if buf.length < 9 + srcLen then .needMore else
  let payloadLen := beUint16 buf (7 + srcLen)
  if payloadLen > stmMaxPayload then .bad else
  let total := 9 + srcLen + payloadLen + 2
  if buf.length < total then .needMore else
  if (stmCrc16 ((buf.drop 2).take (total - 4))).toNat ≠ beUint16 buf (total - 2) then .bad
  else .complete total

/-- `stm_frame_cmd`. -/
def stmFrameCmd (buf : List Byte) : Byte := buf.getD (6 + (buf.getD 5 0).toNat) 0

/-! ## What a whole frame looks like -/

/-- The bytes start with a whole frame of `total` bytes. -/
structure StmFrameAt (buf : List Byte) (total : Nat) : Prop where
  sof1 : buf.getD 0 0 = stmSof1
  sof2 : buf.getD 1 0 = stmSof2
  srcLen_le : (buf.getD 5 0).toNat ≤ stmSrcLenMax
  payloadLen_le : beUint16 buf (7 + (buf.getD 5 0).toNat) ≤ stmMaxPayload
  total_eq : total = 9 + (buf.getD 5 0).toNat + beUint16 buf (7 + (buf.getD 5 0).toNat) + 2
  total_le : total ≤ buf.length
  crc : (stmCrc16 ((buf.drop 2).take (total - 4))).toNat = beUint16 buf (total - 2)

theorem stmFrameComplete_eq_complete {buf : List Byte} {total : Nat} :
    stmFrameComplete buf = .complete total ↔ StmFrameAt buf total := by
  constructor
  · intro h
    unfold stmFrameComplete at h
    split at h
    · contradiction
    · split at h
      · contradiction
      · rename_i hsof
        rw [not_or, not_not, not_not] at hsof
        split at h
        · contradiction
        · dsimp only at h
          split_ifs at h with hsrc hheader hpayload hlength hcrc
          cases h
          exact ⟨hsof.1, hsof.2, by omega, by omega, rfl, by omega, not_not.mp hcrc⟩
  · intro h
    have htotal := h.total_eq
    have hle := h.total_le
    have hsrc := h.srcLen_le
    have hpayload := h.payloadLen_le
    unfold stmFrameComplete
    rw [if_neg (by omega), if_neg (by simp only [h.sof1, h.sof2]; simp), if_neg (by omega)]
    dsimp only
    rw [← htotal, if_neg (by omega), if_neg (by omega), if_neg (by omega), if_neg (by omega),
      if_neg (not_not.mpr h.crc)]

/-- A byte does not depend on what comes behind it. -/
theorem getD_take {buf : List Byte} {i n : Nat} (h : i < n) :
    (buf.take n).getD i 0 = buf.getD i 0 := by
  rw [List.getD_eq_getElem?_getD, List.getD_eq_getElem?_getD, List.getElem?_take_of_lt h]

theorem getD_append {a b : List Byte} {i : Nat} (h : i < a.length) :
    (a ++ b).getD i 0 = a.getD i 0 := by
  rw [List.getD_eq_getElem?_getD, List.getD_eq_getElem?_getD, List.getElem?_append_left h]

theorem beUint16_congr {a b : List Byte} {i n : Nat} (h : ∀ j, j < n → a.getD j 0 = b.getD j 0)
    (hi : i + 1 < n) : beUint16 a i = beUint16 b i := by
  rw [beUint16, beUint16, h i (by omega), h (i + 1) hi]

/-- A frame is recognized by its own bytes, whatever comes behind it. -/
theorem StmFrameAt.extend {buf : List Byte} {total : Nat} (h : StmFrameAt buf total)
    (t : List Byte) : StmFrameAt (buf.take total ++ t) total := by
  have hle := h.total_le
  have htotal := h.total_eq
  have hlength : (buf.take total).length = total := by
    rw [List.length_take]
    omega
  have hbyte (i : Nat) (hi : i < total) : (buf.take total ++ t).getD i 0 = buf.getD i 0 := by
    rw [getD_append (by omega), getD_take hi]
  have hsrc := hbyte 5 (by omega)
  have hpayload : beUint16 (buf.take total ++ t) (7 + (buf.getD 5 0).toNat) =
      beUint16 buf (7 + (buf.getD 5 0).toNat) := beUint16_congr hbyte (by omega)
  have hcovered : ((buf.take total ++ t).drop 2).take (total - 4) =
      (buf.drop 2).take (total - 4) := by
    rw [List.drop_append_of_le_length (by omega), List.take_append_of_le_length
      (by rw [List.length_drop]; omega), List.drop_take, List.take_take]
    congr 1
    omega
  constructor
  · rw [hbyte 0 (by omega), h.sof1]
  · rw [hbyte 1 (by omega), h.sof2]
  · rw [hsrc]
    exact h.srcLen_le
  · rw [hsrc, hpayload]
    exact h.payloadLen_le
  · rw [hsrc, hpayload]
    exact htotal
  · rw [List.length_append]
    omega
  · rw [hcovered, beUint16_congr hbyte (by omega)]
    exact h.crc

/-- Until the last byte of a frame is there, more are needed. -/
theorem StmFrameAt.needMore {buf : List Byte} {total : Nat} (h : StmFrameAt buf total) {n : Nat}
    (hn : n < total) : stmFrameComplete (buf.take n) = .needMore := by
  have hle := h.total_le
  have htotal := h.total_eq
  have hsrc := h.srcLen_le
  have hpayload := h.payloadLen_le
  have hlength : (buf.take n).length = n := by
    rw [List.length_take]
    omega
  unfold stmFrameComplete
  rw [hlength]
  split
  · rfl
  · rw [getD_take (by omega), getD_take (by omega), h.sof1, h.sof2, if_neg (by simp)]
    split
    · rfl
    · dsimp only
      rw [getD_take (by omega), if_neg (by omega)]
      split
      · rfl
      · have hbyte (j : Nat) (hj : j < n) : (buf.take n).getD j 0 = buf.getD j 0 := getD_take hj
        rw [beUint16_congr hbyte (by omega), if_neg (by omega), ← htotal, if_pos hn]

/-! ## What is built -/

theorem getD_append_add (a b : List Byte) (i : Nat) :
    (a ++ b).getD (a.length + i) 0 = b.getD i 0 := by
  rw [List.getD_eq_getElem?_getD, List.getD_eq_getElem?_getD,
    List.getElem?_append_right (by omega), Nat.add_sub_cancel_left]

/-- A 16 bit number written in two bytes is read back. -/
theorem beUint16_bytes (pre post : List Byte) {n : Nat} (h : n < 65536) :
    beUint16 (pre ++ (UInt8.ofNat (n / 256) :: UInt8.ofNat n :: post)) pre.length = n := by
  have hhigh := getD_append_add pre (UInt8.ofNat (n / 256) :: UInt8.ofNat n :: post) 0
  have hlow := getD_append_add pre (UInt8.ofNat (n / 256) :: UInt8.ofNat n :: post) 1
  rw [Nat.add_zero] at hhigh
  rw [beUint16, hhigh, hlow]
  simp only [List.getD_cons_zero, List.getD_cons_succ, UInt8.toNat_ofNat']
  omega

theorem length_stmFrameBody (srcType : Byte) (srcAddr : List Byte) (cmd : Byte)
    (payload : List Byte) :
    (stmFrameBody srcType srcAddr cmd payload).length = 7 + srcAddr.length + payload.length := by
  simp [stmFrameBody]
  omega

/-- What is built, and from what. -/
theorem stmBuildFrameSrc_eq_some {outCap : Nat} {srcType : Byte} {srcAddr : List Byte} {cmd : Byte}
    {payload frame : List Byte} :
    stmBuildFrameSrc outCap srcType srcAddr cmd payload = some frame ↔
      srcAddr.length ≤ stmSrcLenMax ∧ payload.length ≤ stmMaxPayload ∧
      9 + srcAddr.length + payload.length + 2 ≤ outCap ∧
      frame = [stmSof1, stmSof2] ++ stmFrameBody srcType srcAddr cmd payload ++
        [UInt8.ofNat ((stmCrc16 (stmFrameBody srcType srcAddr cmd payload)).toNat / 256),
          UInt8.ofNat (stmCrc16 (stmFrameBody srcType srcAddr cmd payload)).toNat] := by
  unfold stmBuildFrameSrc
  split_ifs with hsrc hpayload hcap
  · simp
    omega
  · simp
    omega
  · simp
    omega
  · simp only [Option.some.injEq]
    constructor
    · rintro rfl
      exact ⟨by omega, by omega, by omega, rfl⟩
    · rintro ⟨-, -, -, rfl⟩
      rfl

/-- A frame that was built is recognized as one. -/
theorem stmBuildFrameSrc_frameAt {outCap : Nat} {srcType : Byte} {srcAddr : List Byte} {cmd : Byte}
    {payload frame : List Byte}
    (h : stmBuildFrameSrc outCap srcType srcAddr cmd payload = some frame) :
    StmFrameAt frame frame.length ∧ frame.length = 9 + srcAddr.length + payload.length + 2 := by
  obtain ⟨hsrc, hpayload, -, hframe⟩ := stmBuildFrameSrc_eq_some.mp h
  have hbody := length_stmFrameBody srcType srcAddr cmd payload
  have hcrcLt := (stmCrc16 (stmFrameBody srcType srcAddr cmd payload)).toNat_lt
  generalize hcrc : stmCrc16 (stmFrameBody srcType srcAddr cmd payload) = crc at hframe hcrcLt
  have hlength : frame.length = 9 + srcAddr.length + payload.length + 2 := by
    rw [hframe]
    simp only [List.length_append, hbody, List.length_cons, List.length_nil]
    omega
  have hsrcLen : (frame.getD 5 0).toNat = srcAddr.length := by
    rw [stmSrcLenMax] at hsrc
    rw [hframe]
    change (UInt8.ofNat srcAddr.length).toNat = srcAddr.length
    rw [UInt8.toNat_ofNat']
    omega
  have hpayloadLen : beUint16 frame (7 + srcAddr.length) = payload.length := by
    rw [stmMaxPayload] at hpayload
    have hlt : payload.length < 65536 := by omega
    have hhere := beUint16_bytes
      ([stmSof1, stmSof2, stmVer, stmTypeStm, srcType, UInt8.ofNat srcAddr.length] ++
        srcAddr ++ [cmd])
      (payload ++ [UInt8.ofNat (crc.toNat / 256), UInt8.ofNat crc.toNat]) hlt
    have hpre : ([stmSof1, stmSof2, stmVer, stmTypeStm, srcType,
        UInt8.ofNat srcAddr.length] ++ srcAddr ++ [cmd]).length = 7 + srcAddr.length := by
      simp only [List.length_append, List.length_cons, List.length_nil]
      omega
    rw [hpre] at hhere
    rw [hframe, ← hhere]
    simp [stmFrameBody]
  have hcrcAt : beUint16 frame (frame.length - 2) = crc.toNat := by
    have hhere := beUint16_bytes
      ([stmSof1, stmSof2] ++ stmFrameBody srcType srcAddr cmd payload) [] hcrcLt
    rw [List.length_append, hbody] at hhere
    have hpos : frame.length - 2 =
        [stmSof1, stmSof2].length + (7 + srcAddr.length + payload.length) := by
      rw [hlength, List.length_cons, List.length_singleton]
      omega
    rw [hpos, ← hhere, hframe]
  have hcovered : (frame.drop 2).take (frame.length - 4) =
      stmFrameBody srcType srcAddr cmd payload := by
    have hbodyLength : frame.length - 4 = (stmFrameBody srcType srcAddr cmd payload).length := by
      omega
    rw [hbodyLength, hframe]
    exact List.take_left
  refine ⟨?_, hlength⟩
  constructor
  · rw [hframe]
    rfl
  · rw [hframe]
    rfl
  · rw [hsrcLen]
    exact hsrc
  · rw [hsrcLen, hpayloadLen]
    exact hpayload
  · rw [hsrcLen, hpayloadLen]
    exact hlength
  · exact le_refl _
  · rw [hcovered, hcrc, hcrcAt]

/-- The startup self-test: the request for the device information. -/
example : stmBuildFrame 11 0x01 stmCmdGetDevInfo [] =
    some [0xAA, 0x55, 0x01, 0x01, 0x01, 0x00, 0x04, 0x00, 0x00, 0x7F, 0xAB] := by
  decide +kernel

end WalnutGateway
