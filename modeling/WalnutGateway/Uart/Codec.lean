import WalnutGateway.Uart.Protocol

/-!
# The STM frame codec

`stm_build_frame_src` against `stm_frame_complete` and the accessors: what is built is found
whole with its fields, whatever follows it, and what is found whole is what is built from its
fields.
-/

namespace WalnutGateway

/-- `stm_frame_payload`: the memory the pointer reaches. -/
def stmFramePayload (buf : List Byte) : List Byte := buf.drop (9 + (buf.getD 5 0).toNat)

/-- `stm_frame_payload_len`. -/
def stmFramePayloadLen (buf : List Byte) : Nat := beUint16 buf (7 + (buf.getD 5 0).toNat)

/-- `SRC_ADDR` of a frame. -/
def stmFrameSrcAddr (buf : List Byte) : List Byte := (buf.drop 6).take (buf.getD 5 0).toNat

/-! ## Bytes by place -/

/-- A part of a string is its bytes. -/
theorem take_drop_eq_map {buf : List Byte} {i k : Nat} (h : i + k ≤ buf.length) :
    (buf.drop i).take k = (List.range k).map fun j => buf.getD (i + j) 0 := by
  apply List.ext_getElem?
  intro j
  by_cases hj : j < k
  · rw [List.getElem?_take_of_lt hj, List.getElem?_drop, List.getElem?_map,
      List.getElem?_range hj, Option.map_some, List.getD_eq_getElem?_getD,
      List.getElem?_eq_getElem (by omega), Option.getD_some]
  · rw [List.getElem?_eq_none (by rw [List.length_take]; omega),
      List.getElem?_eq_none (by rw [List.length_map, List.length_range]; omega)]

/-- The two bytes of a 16 bit number are written back. -/
theorem bytes_beUint16 (buf : List Byte) (i : Nat) :
    UInt8.ofNat (beUint16 buf i / 256) = buf.getD i 0 ∧
      UInt8.ofNat (beUint16 buf i) = buf.getD (i + 1) 0 := by
  have hhigh := (buf.getD i 0).toNat_lt
  have hlow := (buf.getD (i + 1) 0).toNat_lt
  rw [beUint16]
  constructor
  · apply UInt8.toNat_inj.mp
    rw [UInt8.toNat_ofNat']
    omega
  · apply UInt8.toNat_inj.mp
    rw [UInt8.toNat_ofNat']
    omega

/-! ## From the fields to the frame and back -/

section Built

variable {outCap : Nat} {srcType : Byte} {srcAddr : List Byte} {cmd : Byte}
  {payload frame : List Byte}

/-- Header, command and length, payload and checksum of a frame that was built. -/
theorem stmBuildFrameSrc_layout
    (h : stmBuildFrameSrc outCap srcType srcAddr cmd payload = some frame) :
    ∃ high low crc, frame =
      ([stmSof1, stmSof2, stmVer, stmTypeStm, srcType, UInt8.ofNat srcAddr.length] ++ srcAddr) ++
        (cmd :: high :: low :: (payload ++ crc)) := by
  obtain ⟨-, -, -, hframe⟩ := stmBuildFrameSrc_eq_some.mp h
  generalize [UInt8.ofNat (_ / 256), UInt8.ofNat _] = crc at hframe
  refine ⟨UInt8.ofNat (payload.length / 256), UInt8.ofNat payload.length, crc, hframe.trans ?_⟩
  simp only [stmFrameBody, List.append_assoc, List.cons_append, List.nil_append]

/-- A frame that was built is found whole, with its fields, whatever follows it. -/
theorem stmFrameComplete_built
    (h : stmBuildFrameSrc outCap srcType srcAddr cmd payload = some frame) (s : List Byte) :
    stmFrameComplete (frame ++ s) = .complete (11 + srcAddr.length + payload.length) ∧
      stmFrameCmd (frame ++ s) = cmd ∧ stmFramePayloadLen (frame ++ s) = payload.length ∧
      (stmFramePayload (frame ++ s)).take payload.length = payload := by
  obtain ⟨hat, hlength⟩ := stmBuildFrameSrc_frameAt h
  obtain ⟨hsrc, -, -, -⟩ := stmBuildFrameSrc_eq_some.mp h
  obtain ⟨high, low, crc, hlayout⟩ := stmBuildFrameSrc_layout h
  have hwhole := hat.extend s
  rw [List.take_length] at hwhole
  have hsrcLen : ((frame ++ s).getD 5 0).toNat = srcAddr.length := by
    rw [stmSrcLenMax] at hsrc
    rw [hlayout]
    change (UInt8.ofNat srcAddr.length).toNat = srcAddr.length
    rw [UInt8.toNat_ofNat']
    omega
  have hpre : ([stmSof1, stmSof2, stmVer, stmTypeStm, srcType, UInt8.ofNat srcAddr.length] ++
      srcAddr).length = 6 + srcAddr.length := by
    simp
    omega
  refine ⟨?_, ?_, ?_, ?_⟩
  · rw [stmFrameComplete_eq_complete.mpr hwhole, hlength]
    congr 1
    omega
  · have hhere := getD_append_add ([stmSof1, stmSof2, stmVer, stmTypeStm, srcType,
      UInt8.ofNat srcAddr.length] ++ srcAddr) (cmd :: high :: low :: (payload ++ crc) ++ s) 0
    rw [hpre] at hhere
    rw [stmFrameCmd, hsrcLen, hlayout, List.append_assoc]
    exact hhere
  · have htotal := hwhole.total_eq
    rw [hsrcLen] at htotal
    rw [stmFramePayloadLen, hsrcLen]
    omega
  · have hdrop : (frame ++ s).drop (9 + srcAddr.length) = payload ++ (crc ++ s) := by
      have hsplit : frame ++ s = ([stmSof1, stmSof2, stmVer, stmTypeStm, srcType,
          UInt8.ofNat srcAddr.length] ++ srcAddr ++ [cmd, high, low]) ++
          (payload ++ (crc ++ s)) := by
        rw [hlayout]
        simp only [List.append_assoc, List.cons_append, List.nil_append]
      rw [hsplit, List.drop_left']
      rw [List.length_append, hpre]
      simp
      omega
    rw [stmFramePayload, hsrcLen, hdrop, List.take_left]

/-- A part of a frame that was built is not enough. -/
theorem stmFrameComplete_prefix
    (h : stmBuildFrameSrc outCap srcType srcAddr cmd payload = some frame) {n : Nat}
    (hn : n < frame.length) : stmFrameComplete (frame.take n) = .needMore :=
  (stmBuildFrameSrc_frameAt h).1.needMore hn

end Built

section Found

variable {buf : List Byte} {total : Nat}

/-- The bytes that the checksum covers are those that would be built from the fields. -/
theorem StmFrameAt.covered_eq (h : StmFrameAt buf total) (hver : buf.getD 2 0 = stmVer)
    (htype : buf.getD 3 0 = stmTypeStm) :
    (buf.drop 2).take (total - 4) =
      stmFrameBody (buf.getD 4 0) (stmFrameSrcAddr buf) (stmFrameCmd buf)
        ((stmFramePayload buf).take (stmFramePayloadLen buf)) := by
  have htotal := h.total_eq
  have hle := h.total_le
  have hsplit : total - 4 =
      4 + (buf.getD 5 0).toNat + 3 + stmFramePayloadLen buf := by
    rw [stmFramePayloadLen]
    omega
  have haddr : (stmFrameSrcAddr buf).length = (buf.getD 5 0).toNat := by
    rw [stmFrameSrcAddr, List.length_take, List.length_drop]
    omega
  have hpayload : ((stmFramePayload buf).take (stmFramePayloadLen buf)).length =
      stmFramePayloadLen buf := by
    rw [List.length_take, stmFramePayload, List.length_drop, stmFramePayloadLen]
    omega
  have hhead : (buf.drop 2).take 4 =
      [stmVer, stmTypeStm, buf.getD 4 0, UInt8.ofNat (stmFrameSrcAddr buf).length] := by
    rw [haddr, take_drop_eq_map (by omega), UInt8.ofNat_toNat, ← hver, ← htype]
    rfl
  have hmiddle : (buf.drop (6 + (buf.getD 5 0).toNat)).take 3 =
      [stmFrameCmd buf, UInt8.ofNat (stmFramePayloadLen buf / 256),
        UInt8.ofNat (stmFramePayloadLen buf)] := by
    obtain ⟨hhigh, hlow⟩ := bytes_beUint16 buf (7 + (buf.getD 5 0).toNat)
    rw [take_drop_eq_map (by omega), stmFrameCmd, stmFramePayloadLen, hhigh, hlow]
    simp only [List.range_succ, List.range_zero, List.nil_append, List.cons_append, List.map_cons,
      List.map_nil, Nat.add_zero]
    rw [show 6 + (buf.getD 5 0).toNat + 1 = 7 + (buf.getD 5 0).toNat by omega,
      show 6 + (buf.getD 5 0).toNat + 2 = 7 + (buf.getD 5 0).toNat + 1 by omega]
  rw [hsplit, List.take_add, List.take_add, List.take_add, hhead, stmFrameBody, hpayload]
  simp only [List.drop_drop]
  rw [show 2 + (4 + (buf.getD 5 0).toNat) = 6 + (buf.getD 5 0).toNat by omega,
    show 2 + (4 + (buf.getD 5 0).toNat + 3) = 9 + (buf.getD 5 0).toNat by omega, hmiddle]
  rfl

/-- What is found whole is what is built from its fields. -/
theorem StmFrameAt.rebuilt (h : StmFrameAt buf total) (hver : buf.getD 2 0 = stmVer)
    (htype : buf.getD 3 0 = stmTypeStm) {outCap : Nat} (hcap : total ≤ outCap) :
    stmBuildFrameSrc outCap (buf.getD 4 0) (stmFrameSrcAddr buf) (stmFrameCmd buf)
      ((stmFramePayload buf).take (stmFramePayloadLen buf)) = some (buf.take total) := by
  have htotal := h.total_eq
  have hle := h.total_le
  have hsrc := h.srcLen_le
  have hpayload := h.payloadLen_le
  have haddr : (stmFrameSrcAddr buf).length = (buf.getD 5 0).toNat := by
    rw [stmFrameSrcAddr, List.length_take, List.length_drop]
    omega
  have hlength : ((stmFramePayload buf).take (stmFramePayloadLen buf)).length =
      beUint16 buf (7 + (buf.getD 5 0).toNat) := by
    rw [List.length_take, stmFramePayload, List.length_drop, stmFramePayloadLen]
    omega
  have hmarker : buf.take 2 = [stmSof1, stmSof2] := by
    have htake : (buf.drop 0).take 2 = _ := take_drop_eq_map (by omega)
    rw [List.drop_zero] at htake
    rw [htake, ← h.sof1, ← h.sof2]
    rfl
  have hcrc : (buf.drop (total - 2)).take 2 =
      [UInt8.ofNat ((stmCrc16 ((buf.drop 2).take (total - 4))).toNat / 256),
        UInt8.ofNat (stmCrc16 ((buf.drop 2).take (total - 4))).toNat] := by
    obtain ⟨hhigh, hlow⟩ := bytes_beUint16 buf (total - 2)
    rw [take_drop_eq_map (by omega), h.crc, hhigh, hlow]
    rfl
  refine stmBuildFrameSrc_eq_some.mpr ⟨by omega, by omega, by omega, ?_⟩
  rw [← h.covered_eq hver htype, ← hcrc, ← hmarker]
  have hsplit : total = 2 + (total - 4) + 2 := by omega
  conv_lhs => rw [hsplit]
  rw [List.take_add, List.take_add]
  congr 3
  omega

end Found

/-- The codec is a round trip in both directions. -/
theorem stm_frame_codec :
    (∀ (outCap : Nat) (srcType : Byte) (srcAddr : List Byte) (cmd : Byte) (payload : List Byte),
      srcAddr.length ≤ stmSrcLenMax → payload.length ≤ stmMaxPayload →
      11 + srcAddr.length + payload.length ≤ outCap →
      ∃ frame, stmBuildFrameSrc outCap srcType srcAddr cmd payload = some frame ∧
        frame.length = 11 + srcAddr.length + payload.length ∧
        (∀ s, stmFrameComplete (frame ++ s) = .complete (11 + srcAddr.length + payload.length) ∧
          stmFrameCmd (frame ++ s) = cmd ∧ stmFramePayloadLen (frame ++ s) = payload.length ∧
          (stmFramePayload (frame ++ s)).take payload.length = payload) ∧
        ∀ n < frame.length, stmFrameComplete (frame.take n) = .needMore) ∧
    ∀ (buf : List Byte) (total : Nat), stmFrameComplete buf = .complete total →
      buf.getD 2 0 = stmVer → buf.getD 3 0 = stmTypeStm → ∀ outCap, total ≤ outCap →
      stmBuildFrameSrc outCap (buf.getD 4 0) (stmFrameSrcAddr buf) (stmFrameCmd buf)
        ((stmFramePayload buf).take (stmFramePayloadLen buf)) = some (buf.take total) := by
  constructor
  · intro outCap srcType srcAddr cmd payload hsrc hpayload hcap
    have hbuilt := stmBuildFrameSrc_eq_some.mpr
      (⟨hsrc, hpayload, (by omega : 9 + srcAddr.length + payload.length + 2 ≤ outCap), rfl⟩ :
        srcAddr.length ≤ stmSrcLenMax ∧ payload.length ≤ stmMaxPayload ∧
          9 + srcAddr.length + payload.length + 2 ≤ outCap ∧
          _ = [stmSof1, stmSof2] ++ stmFrameBody srcType srcAddr cmd payload ++ _)
    refine ⟨_, hbuilt, ?_, stmFrameComplete_built hbuilt, fun _ => stmFrameComplete_prefix hbuilt⟩
    rw [(stmBuildFrameSrc_frameAt hbuilt).2]
    omega
  · intro buf total h hver htype outCap hcap
    exact (stmFrameComplete_eq_complete.mp h).rebuilt hver htype hcap

/-- A command from a short address, without a payload. -/
theorem stm_frame_codec_short : ∃ frame,
    stmBuildFrameSrc 12 0x02 [0x39] stmCmdGetDevInfo [] = some frame ∧ frame.length = 12 := by
  obtain ⟨frame, hbuilt, hlength, -⟩ := stm_frame_codec.1 12 0x02 [0x39] stmCmdGetDevInfo []
    (by decide) (by decide) (by decide)
  exact ⟨frame, hbuilt, hlength⟩

end WalnutGateway
