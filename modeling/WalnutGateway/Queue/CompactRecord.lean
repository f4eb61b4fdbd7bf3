import WalnutGateway.Common.Types
import WalnutGateway.Core.Framing

/-!
# Compact records of the TCP send queue

An overflow record is the payload length (two bytes, least significant first),
the type byte of the payload, and the payload. The encoder looks at the message
and the reader at the bytes; the two check different things. On a flash where
nothing fails, writing appends `compactEncode` and reading is `compactNext`.
-/

namespace WalnutGateway

/-! ## Types and sources -/

/-- `GPS_PACKET_TYPE`. -/
def gpsPacketType : Byte := 0x49

/-- `BLE_PACKET_TYPE`. -/
def blePacketType : Byte := 0x4A

/-- `TCP_CMD_RESP_PACKET_TYPE` of the queue manager. -/
def tcpCmdRespPacketType : Byte := 38

/-- The type check that the encoder and the reader share. -/
def compactTypeAllowed (type : Byte) : Bool :=
  type = gpsPacketType ∨ type = blePacketType ∨ type = tcpCmdRespPacketType

/-- `queue_tcp_type_to_source_module`. -/
def queueTcpTypeToSourceModule (type : Byte) : ModuleId :=
  if type = gpsPacketType then .gps
  else if type = blePacketType then .ble
  else if type = tcpCmdRespPacketType then .cmd
  else .count

/-- `queue_tcp_source_allowed`. -/
def queueTcpSourceAllowed (src : ModuleId) : Bool := src = .gps ∨ src = .ble ∨ src = .cmd

/-- The source check of the reader never refuses a type it let through. -/
theorem queueTcpSourceAllowed_of_type {type : Byte} (h : compactTypeAllowed type = true) :
    queueTcpSourceAllowed (queueTcpTypeToSourceModule type) = true := by
  simp only [compactTypeAllowed, decide_eq_true_eq] at h
  obtain rfl | rfl | rfl := h <;> decide

/-! ## The source's functions -/

/-- `queue_tcp_payload_len_from_message`: the length as `UINT16` and the payload
pointer, `none` where 0 is returned without a pointer. -/
def queueTcpPayloadLenFromMessage (m : ModuleMessage) : Option (Nat × List Byte) :=
  match m.payloadPtr with
  | none => none
  | some payload =>
    if payload.getD 0 0 ≠ 0x57 ∨ payload.getD 1 0 ≠ 0x45 then none
    else if m.dataLen = 0 then none
    else if ¬ m.useDynamicBuffer ∧ m.dataLen > moduleMessageInlineSize then none
    else some (toUint16 m.dataLen, payload)

variable {π : Type} [DecidableEq π]

/-- `queue_tcp_file_write_compact_record`: the result, the record size and the flash. -/
def queueTcpFileWriteCompactRecord (fs : Flash π) (fp : FileHandle π) (m : ModuleMessage) :
    Result × Nat × Flash π :=
  match queueTcpPayloadLenFromMessage m with
  | none => (.invalidParam, 0, fs)
  | some (payloadLen, payload) =>
    if payloadLen = 0 then (.invalidParam, 0, fs) else
    let type := payload.getD 2 0
    if ¬ compactTypeAllowed type then (.invalidParam, 0, fs) else
    let hdr := wmSdkFileWrite fs fp (leBytes 2 payloadLen ++ [type])
    if ¬ hdr.ok ∨ hdr.written ≠ 3 then (.error, 0, hdr.flash) else
    let body := wmSdkFileWrite hdr.flash hdr.fp (memRead payload payloadLen)
    if ¬ body.ok ∨ body.written ≠ payloadLen then (.error, 0, body.flash)
    else (.success, 3 + payloadLen, body.flash)

omit [DecidableEq π] in
/-- Seek to a record and read its header: length and type. Three functions of
the source start a record this way. -/
def queueTcpReadHdr (fs : Flash π) (fp : FileHandle π) (offset : Nat) :
    Option (Nat × Byte) × FileHandle π × Flash π :=
  let s := wmSdkFileSeek fs fp offset
  let r := wmSdkFileRead s.2 s.1 3
  if ¬ r.ok ∨ r.data.length ≠ 3 then (none, r.fp, r.flash)
  else (some (leNat (r.data.take 2), r.data.getD 2 0), r.fp, r.flash)

omit [DecidableEq π] in
/-- `queue_tcp_file_read_compact_record`: the message and the offset behind the record. -/
def queueTcpFileReadCompactRecord (fs : Flash π) (fp : FileHandle π) (offset fileSize : Nat) :
    Except Result (ModuleMessage × Nat) × Flash π :=
  if offset + 3 > fileSize then (.error .notFound, fs) else
  match queueTcpReadHdr fs fp offset with
  | (none, _, fs) => (.error .error, fs)
  | (some (payloadLen, type), fp, fs) =>
    if payloadLen = 0 ∨ payloadLen > moduleMessageInlineSize then (.error .error, fs)
    else if offset + 3 + payloadLen > fileSize then (.error .error, fs)
    else if ¬ compactTypeAllowed type then (.error .error, fs)
    else
      let src := queueTcpTypeToSourceModule type
      if ¬ queueTcpSourceAllowed src then (.error .error, fs) else
      let r := wmSdkFileRead fs fp payloadLen
      if ¬ r.ok ∨ r.data.length ≠ payloadLen then (.error .error, r.flash)
      else (.ok (.ofPayload src .tcp r.data, offset + 3 + payloadLen), r.flash)

/-! ## Records as bytes -/

/-- The record the encoder writes, `none` for a message it refuses. -/
def compactEncode (m : ModuleMessage) : Option (List Byte) :=
  match queueTcpPayloadLenFromMessage m with
  | none => none
  | some (payloadLen, payload) =>
    if payloadLen = 0 ∨ ¬ compactTypeAllowed (payload.getD 2 0) then none
    else some (leBytes 2 payloadLen ++ payload.getD 2 0 :: memRead payload payloadLen)

/-- Length and type of the record a string starts with. -/
def compactHeader (bs : List Byte) : Option (Nat × Byte) :=
  if bs.length < 3 then none else some (leNat (bs.take 2), bs.getD 2 0)

/-- The record a string starts with, as the reader takes it. -/
def compactNext (bs : List Byte) : Option (ModuleMessage × Nat) :=
  match compactHeader bs with
  | none => none
  | some (payloadLen, type) =>
    if payloadLen = 0 ∨ payloadLen > moduleMessageInlineSize then none
    else if 3 + payloadLen > bs.length then none
    else if ¬ compactTypeAllowed type then none
    else some (.ofPayload (queueTcpTypeToSourceModule type) .tcp ((bs.drop 3).take payloadLen),
      3 + payloadLen)

/-- What the reader has checked about a record it returns. -/
theorem compactNext_eq_some {bs : List Byte} {m : ModuleMessage} {n : Nat}
    (h : compactNext bs = some (m, n)) :
    ∃ payloadLen type, compactHeader bs = some (payloadLen, type) ∧ 0 < payloadLen ∧
      payloadLen ≤ moduleMessageInlineSize ∧ 3 + payloadLen ≤ bs.length ∧
      compactTypeAllowed type = true ∧ n = 3 + payloadLen ∧
      m = .ofPayload (queueTcpTypeToSourceModule type) .tcp ((bs.drop 3).take payloadLen) := by
  unfold compactNext at h
  cases hh : compactHeader bs with
  | none => simp [hh] at h
  | some header =>
    obtain ⟨payloadLen, type⟩ := header
    simp only [hh] at h
    split at h
    · contradiction
    · rename_i hlen
      split at h
      · contradiction
      · rename_i hroom
        split at h
        · contradiction
        · rename_i htype
          rw [Option.some.injEq, Prod.mk.injEq] at h
          refine ⟨payloadLen, type, rfl, by omega, by omega, by omega, by simpa using htype,
            h.2.symm, h.1.symm⟩

/-- Header, room and type are all the reader asks for. -/
theorem compactNext_of_header {bs : List Byte} {payloadLen : Nat} {type : Byte}
    (hh : compactHeader bs = some (payloadLen, type)) (hpos : 0 < payloadLen)
    (hmax : payloadLen ≤ moduleMessageInlineSize) (hroom : 3 + payloadLen ≤ bs.length)
    (htype : compactTypeAllowed type = true) :
    compactNext bs =
      some (.ofPayload (queueTcpTypeToSourceModule type) .tcp ((bs.drop 3).take payloadLen),
        3 + payloadLen) := by
  simp only [compactNext, hh]
  rw [if_neg (by omega), if_neg (by omega), if_neg (by simpa using htype)]

/-- The header lies in the first three bytes. -/
theorem compactHeader_take_append {bs : List Byte} {n : Nat} (hn : 3 ≤ n) (hl : n ≤ bs.length)
    (t : List Byte) : compactHeader (bs.take n ++ t) = compactHeader bs := by
  have h2 : (bs.take n ++ t).take 2 = bs.take 2 := by
    rw [List.take_append_of_le_length (by rw [List.length_take]; omega), List.take_take,
      Nat.min_eq_left (by omega)]
  have hget : (bs.take n ++ t).getD 2 0 = bs.getD 2 0 := by
    rw [List.getD_eq_getElem?_getD, List.getD_eq_getElem?_getD,
      List.getElem?_append_left (by rw [List.length_take]; omega),
      List.getElem?_take_of_lt (by omega)]
  have hlen : (bs.take n ++ t).length ≥ 3 := by
    rw [List.length_append, List.length_take]
    omega
  rw [compactHeader, compactHeader, if_neg (by omega), if_neg (by omega), h2, hget]

/-- Compact records frame the overflow file of the TCP send queue. -/
def compactFraming : Framing Byte ModuleMessage where
  next := compactNext
  next_pos := by
    intro bs m n h
    obtain ⟨payloadLen, type, -, -, -, hroom, -, rfl, -⟩ := compactNext_eq_some h
    omega
  next_local := by
    intro bs m n h t
    obtain ⟨payloadLen, type, hh, hpos, hmax, hroom, htype, rfl, rfl⟩ := compactNext_eq_some h
    have hh' := (compactHeader_take_append (by omega) hroom t).trans hh
    have hbody : ((bs.take (3 + payloadLen) ++ t).drop 3).take payloadLen =
        (bs.drop 3).take payloadLen := by
      have hl : (bs.take (3 + payloadLen)).length = 3 + payloadLen := by
        rw [List.length_take]
        omega
      rw [List.drop_append_of_le_length (by omega), List.drop_take,
        List.take_append_of_le_length (by rw [List.length_take, List.length_drop]; omega),
        List.take_take, Nat.min_eq_left (by omega)]
    rw [compactNext_of_header hh' hpos hmax _ htype, hbody]
    rw [List.length_append, List.length_take]
    omega

/-! ## What the encoder writes -/

/-- The length of a record fits its two bytes. -/
theorem queueTcpPayloadLenFromMessage_lt {m : ModuleMessage} {payloadLen : Nat}
    {payload : List Byte} (h : queueTcpPayloadLenFromMessage m = some (payloadLen, payload)) :
    payloadLen < 2 ^ 16 := by
  unfold queueTcpPayloadLenFromMessage at h
  cases hp : m.payloadPtr with
  | none => simp [hp] at h
  | some bytes =>
    simp only [hp] at h
    split at h
    · contradiction
    · split at h
      · contradiction
      · split at h
        · contradiction
        · cases h
          exact Nat.mod_lt _ (by decide)

/-- The encoder has found a payload pointer, the frame marker, a length that is
not 0 as `UINT16`, and a type it knows. -/
theorem compactEncode_eq_some {m : ModuleMessage} {record : List Byte}
    (h : compactEncode m = some record) :
    ∃ payload, m.payloadPtr = some payload ∧ payload.getD 0 0 = 0x57 ∧
      payload.getD 1 0 = 0x45 ∧ toUint16 m.dataLen ≠ 0 ∧
      (m.useDynamicBuffer = true ∨ m.dataLen ≤ moduleMessageInlineSize) ∧
      compactTypeAllowed (payload.getD 2 0) = true ∧
      record = leBytes 2 (toUint16 m.dataLen) ++
        payload.getD 2 0 :: memRead payload (toUint16 m.dataLen) := by
  unfold compactEncode queueTcpPayloadLenFromMessage at h
  cases hp : m.payloadPtr with
  | none => simp [hp] at h
  | some payload =>
    simp only [hp] at h
    by_cases hmark : payload.getD 0 0 ≠ 0x57 ∨ payload.getD 1 0 ≠ 0x45
    · simp only [if_pos hmark] at h
      contradiction
    · simp only [if_neg hmark] at h
      by_cases h0 : m.dataLen = 0
      · simp only [if_pos h0] at h
        contradiction
      · simp only [if_neg h0] at h
        by_cases hfit : ¬ m.useDynamicBuffer ∧ m.dataLen > moduleMessageInlineSize
        · simp only [if_pos hfit] at h
          contradiction
        · simp only [if_neg hfit] at h
          split at h
          · contradiction
          · rename_i hok
            simp only [not_or, Decidable.not_not] at hok hmark
            refine ⟨payload, rfl, hmark.1, hmark.2, hok.1, ?_, hok.2, ?_⟩
            · by_cases hd : m.useDynamicBuffer = true
              · exact Or.inl hd
              · exact Or.inr (by simpa [hd] using hfit)
            · rw [Option.some.injEq] at h
              exact h.symm

/-- The checks of the encoder, put together. -/
theorem compactEncode_of_payload {m : ModuleMessage} {payload : List Byte}
    (hp : m.payloadPtr = some payload) (h0 : payload.getD 0 0 = 0x57)
    (h1 : payload.getD 1 0 = 0x45) (hlen : toUint16 m.dataLen ≠ 0)
    (hfit : m.useDynamicBuffer = true ∨ m.dataLen ≤ moduleMessageInlineSize)
    (htype : compactTypeAllowed (payload.getD 2 0) = true) :
    compactEncode m = some (leBytes 2 (toUint16 m.dataLen) ++
      payload.getD 2 0 :: memRead payload (toUint16 m.dataLen)) := by
  have hpos : m.dataLen ≠ 0 := by
    intro hz
    rw [hz] at hlen
    exact hlen rfl
  have hinline : ¬ (¬ m.useDynamicBuffer ∧ m.dataLen > moduleMessageInlineSize) := by
    rintro ⟨hd, hbig⟩
    cases hfit with
    | inl hdyn => exact hd hdyn
    | inr hle => omega
  simp only [compactEncode, queueTcpPayloadLenFromMessage, hp, h0, h1, ne_eq, not_true_eq_false,
    or_self, if_false, if_neg hpos, if_neg hinline, htype, hlen]

/-- A record is never empty, and its length fits the guard arithmetic. -/
theorem length_of_compactEncode {m : ModuleMessage} {record : List Byte}
    (h : compactEncode m = some record) : record.length = 3 + toUint16 m.dataLen := by
  obtain ⟨payload, -, -, -, -, -, -, rfl⟩ := compactEncode_eq_some h
  simp
  omega

theorem toUint16_of_le {n : Nat} (h : n ≤ moduleMessageInlineSize) : toUint16 n = n :=
  Nat.mod_eq_of_lt (h.trans_lt (by decide))

/-- Up to the inline size, what was encoded is read back with its payload. -/
theorem compactNext_compactEncode {m : ModuleMessage} {record : List Byte}
    (h : compactEncode m = some record) (hlen : m.dataLen ≤ moduleMessageInlineSize) :
    ∃ type, compactNext record =
      some (.ofPayload (queueTcpTypeToSourceModule type) .tcp m.payload, record.length) := by
  obtain ⟨payload, hp, -, -, hpos, -, htype, rfl⟩ := compactEncode_eq_some h
  rw [toUint16_of_le hlen] at hpos ⊢
  have hread : m.payload = memRead payload m.dataLen := by
    rw [ModuleMessage.payload, hp, Option.getD_some]
  have h2 : (leBytes 2 m.dataLen).length = 2 := length_leBytes ..
  have hsize : m.dataLen < 256 ^ 2 := hlen.trans_lt (by decide)
  have hhead : compactHeader (leBytes 2 m.dataLen ++
      payload.getD 2 0 :: memRead payload m.dataLen) = some (m.dataLen, payload.getD 2 0) := by
    rw [compactHeader, if_neg (by simp; omega), List.take_left' h2, leNat_leBytes hsize]
    rfl
  have hbody : ((leBytes 2 m.dataLen ++ payload.getD 2 0 :: memRead payload m.dataLen).drop 3).take
      m.dataLen = memRead payload m.dataLen := by
    rw [List.drop_append, List.drop_of_length_le (by omega), h2]
    simp
  have hsum : (leBytes 2 m.dataLen ++ payload.getD 2 0 :: memRead payload m.dataLen).length =
      3 + m.dataLen := by
    simp
    omega
  refine ⟨payload.getD 2 0, ?_⟩
  rw [compactNext_of_header hhead (by omega) hlen (by omega) htype, hread, hbody, hsum]

/-! ## A flash where nothing fails -/

section Sound

variable {fs : Flash π}

/-- The encoder appends the record, or refuses before it writes anything. -/
theorem queueTcpFileWriteCompactRecord_sound (h : fs.Sound) (path : π) (pos : Nat)
    (m : ModuleMessage) :
    queueTcpFileWriteCompactRecord fs ⟨path, .ab, pos⟩ m =
      match compactEncode m with
      | none => (.invalidParam, 0, fs)
      | some record => (.success, record.length, fs.put path (fs.contents path ++ record)) := by
  unfold queueTcpFileWriteCompactRecord compactEncode
  cases queueTcpPayloadLenFromMessage m with
  | none => rfl
  | some x =>
    obtain ⟨payloadLen, payload⟩ := x
    dsimp only
    by_cases h0 : payloadLen = 0
    · rw [if_pos h0, if_pos (Or.inl h0)]
    · by_cases ht : compactTypeAllowed (payload.getD 2 0) = true
      · rw [if_neg h0, if_neg (not_not_intro ht), if_neg (not_or_intro h0 (not_not_intro ht)),
          wmSdkFileWrite_sound h, wmSdkFileWrite_sound (h.put _ _)]
        simp [FileHandle.overwrite]
        omega
      · rw [if_neg h0, if_pos ht, if_pos (Or.inr ht)]

omit [DecidableEq π] in
/-- The header bytes are those of the file at the offset. -/
theorem queueTcpReadHdr_sound (h : fs.Sound) (path : π) (mode : FileMode) (pos offset : Nat) :
    ∃ pos', queueTcpReadHdr fs ⟨path, mode, pos⟩ offset =
        (compactHeader ((fs.contents path).drop offset), ⟨path, mode, pos'⟩, fs) ∧
      (compactHeader ((fs.contents path).drop offset) ≠ none → pos' = offset + 3) := by
  simp only [queueTcpReadHdr, wmSdkFileSeek_sound h, wmSdkFileRead_sound h, compactHeader]
  by_cases hlen : ((fs.contents path).drop offset).length < 3
  · refine ⟨offset + (((fs.contents path).drop offset).take 3).length, ?_,
      fun hne => absurd (if_pos hlen) hne⟩
    rw [if_pos hlen, if_pos]
    right
    rw [List.length_take]
    omega
  · have hlen3 : (((fs.contents path).drop offset).take 3).length = 3 := by
      rw [List.length_take]
      omega
    have hget : (((fs.contents path).drop offset).take 3).getD 2 0 =
        ((fs.contents path).drop offset).getD 2 0 := by
      rw [List.getD_eq_getElem?_getD, List.getD_eq_getElem?_getD,
        List.getElem?_take_of_lt (by omega)]
    refine ⟨offset + 3, ?_, fun _ => rfl⟩
    rw [if_neg hlen, if_neg (by simp [hlen3]), hlen3, hget, List.take_take,
      Nat.min_eq_left (by omega)]

omit [DecidableEq π] in
/-- The reader is `compactNext` of the bytes between the offset and the size it goes by. -/
theorem queueTcpFileReadCompactRecord_within (h : fs.Sound) {path : π} (mode : FileMode)
    (pos : Nat) {offset : Nat} {w rest : List Byte}
    (hw : (fs.contents path).drop offset = w ++ rest) :
    ∃ e, queueTcpFileReadCompactRecord fs ⟨path, mode, pos⟩ offset (offset + w.length) =
      (match compactNext w with
        | none => .error e
        | some (m, n) => .ok (m, offset + n), fs) := by
  obtain ⟨pos', hhdr, hpos'⟩ := queueTcpReadHdr_sound h path mode pos offset
  rw [hw] at hhdr hpos'
  unfold queueTcpFileReadCompactRecord
  by_cases hroom : offset + 3 > offset + w.length
  · refine ⟨.notFound, ?_⟩
    have hnone : compactNext w = none := by
      rw [compactNext, compactHeader, if_pos (by omega)]
    rw [if_pos hroom, hnone]
  · have hhead : compactHeader (w ++ rest) = compactHeader w := by
      have htake := compactHeader_take_append (by omega : 3 ≤ w.length) le_rfl rest
      rwa [List.take_length] at htake
    rw [if_neg hroom, hhdr]
    rw [hhead] at hpos' ⊢
    cases hh : compactHeader w with
    | none =>
      rw [compactHeader, if_neg (by omega)] at hh
      contradiction
    | some header =>
      obtain ⟨payloadLen, type⟩ := header
      have hp : pos' = offset + 3 := hpos' (by rw [hh]; exact Option.some_ne_none _)
      subst hp
      refine ⟨.error, ?_⟩
      have hnext : compactNext w =
          if payloadLen = 0 ∨ payloadLen > moduleMessageInlineSize then none
          else if 3 + payloadLen > w.length then none
          else if ¬ compactTypeAllowed type then none
          else some (.ofPayload (queueTcpTypeToSourceModule type) .tcp
            ((w.drop 3).take payloadLen), 3 + payloadLen) := by
        simp only [compactNext, hh]
      dsimp only
      by_cases hlen : payloadLen = 0 ∨ payloadLen > moduleMessageInlineSize
      · rw [if_pos hlen, hnext, if_pos hlen]
      · rw [if_neg hlen] at hnext ⊢
        by_cases hfit : offset + 3 + payloadLen > offset + w.length
        · rw [if_pos (by omega)] at hnext
          rw [if_pos hfit, hnext]
        · rw [if_neg (by omega)] at hnext
          rw [if_neg hfit]
          by_cases ht : compactTypeAllowed type = true
          · rw [if_neg (not_not_intro ht)] at hnext ⊢
            have hbody : ((fs.contents path).drop (offset + 3)).take payloadLen =
                (w.drop 3).take payloadLen := by
              rw [← List.drop_drop, hw, List.drop_append_of_le_length (by omega),
                List.take_append_of_le_length (by rw [List.length_drop]; omega)]
            have hread : ((w.drop 3).take payloadLen).length = payloadLen := by
              rw [List.length_take, List.length_drop]
              omega
            rw [if_neg (not_not_intro (queueTcpSourceAllowed_of_type ht)), wmSdkFileRead_sound h,
              hnext]
            simp only [hbody, hread]
            rw [if_neg (by simp), Nat.add_assoc]
          · rw [if_pos ht] at hnext ⊢
            rw [hnext]

omit [DecidableEq π] in
/-- The reader of compact records is `compactNext` of what stands before the end it goes by,
also where the file ends before. -/
theorem queueTcpFileReadCompactRecord_room (h : fs.Sound) (path : π) (mode : FileMode)
    (pos offset room : Nat) :
    ∃ e, queueTcpFileReadCompactRecord fs ⟨path, mode, pos⟩ offset (offset + room) =
      (match compactNext (((fs.contents path).drop offset).take room) with
        | none => .error e
        | some (m, n) => .ok (m, offset + n), fs) := by
  by_cases hlong : room ≤ ((fs.contents path).drop offset).length
  · have hread := queueTcpFileReadCompactRecord_within h mode pos
      (List.take_append_drop room ((fs.contents path).drop offset)).symm
    rwa [List.length_take_of_le hlong] at hread
  · obtain ⟨pos', hhdr, hpos'⟩ := queueTcpReadHdr_sound h path mode pos offset
    have hbytes : (fs.contents path).drop (offset + 3) =
        ((fs.contents path).drop offset).drop 3 := by
      rw [List.drop_drop]
    rw [List.take_of_length_le (by omega)]
    generalize (fs.contents path).drop offset = bs at *
    unfold queueTcpFileReadCompactRecord
    rw [hhdr]
    by_cases hroom : offset + 3 > offset + room
    · refine ⟨.notFound, ?_⟩
      have hnone : compactNext bs = none := by
        rw [compactNext, compactHeader, if_pos (by omega)]
      rw [if_pos hroom, hnone]
    · refine ⟨.error, ?_⟩
      rw [if_neg hroom]
      cases hh : compactHeader bs with
      | none => simp only [compactNext, hh]
      | some header =>
        obtain ⟨payloadLen, type⟩ := header
        obtain rfl : pos' = offset + 3 := hpos' (by rw [hh]; exact Option.some_ne_none _)
        have hnext : compactNext bs =
            if payloadLen = 0 ∨ payloadLen > moduleMessageInlineSize then none
            else if 3 + payloadLen > bs.length then none
            else if ¬ compactTypeAllowed type then none
            else some (.ofPayload (queueTcpTypeToSourceModule type) .tcp
              ((bs.drop 3).take payloadLen), 3 + payloadLen) := by
          simp only [compactNext, hh]
        dsimp only
        by_cases hlen : payloadLen = 0 ∨ payloadLen > moduleMessageInlineSize
        · rw [if_pos hlen, hnext, if_pos hlen]
        · rw [if_neg hlen] at hnext ⊢
          by_cases hfit : offset + 3 + payloadLen > offset + room
          · rw [if_pos (by omega)] at hnext
            rw [if_pos hfit, hnext]
          · rw [if_neg hfit]
            by_cases ht : compactTypeAllowed type = true
            · rw [if_neg (not_not_intro ht)] at hnext ⊢
              rw [if_neg (not_not_intro (queueTcpSourceAllowed_of_type ht)), wmSdkFileRead_sound h]
              simp only [hbytes]
              by_cases hbody : 3 + payloadLen > bs.length
              · rw [if_pos hbody] at hnext
                rw [if_pos (Or.inr (by rw [List.length_take, List.length_drop]; omega)), hnext]
              · rw [if_neg hbody] at hnext
                have hread : ((bs.drop 3).take payloadLen).length = payloadLen := by
                  rw [List.length_take, List.length_drop]
                  omega
                rw [if_neg (by simp [hread]), hnext, Nat.add_assoc]
            · rw [if_pos ht] at hnext ⊢
              rw [hnext, ite_self]

omit [DecidableEq π] in
/-- The reader is `compactNext` at the offset when it knows the size of the file. -/
theorem queueTcpFileReadCompactRecord_sound (h : fs.Sound) (path : π) (mode : FileMode)
    (pos offset : Nat) :
    ∃ e, queueTcpFileReadCompactRecord fs ⟨path, mode, pos⟩ offset (fs.contents path).length =
      (match compactNext ((fs.contents path).drop offset) with
        | none => .error e
        | some (m, n) => .ok (m, offset + n), fs) := by
  by_cases hend : offset ≤ (fs.contents path).length
  · have hread := queueTcpFileReadCompactRecord_within h mode pos
      (List.append_nil ((fs.contents path).drop offset)).symm
    rwa [List.length_drop, Nat.add_sub_of_le hend] at hread
  · refine ⟨.notFound, ?_⟩
    have hnone : compactNext ((fs.contents path).drop offset) = none := by
      rw [compactNext, compactHeader, if_pos (by rw [List.length_drop]; omega)]
    rw [queueTcpFileReadCompactRecord, if_pos (by omega), hnone]

end Sound

end WalnutGateway
