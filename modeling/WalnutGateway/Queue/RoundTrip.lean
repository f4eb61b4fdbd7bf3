import WalnutGateway.Queue.Overflow

/-!
# Compact records there and back

What `queue_tcp_file_write_compact_record` writes, `queue_tcp_file_read_compact_record` reads
again. The writer bounds the length of an inline payload only and takes the length as 16 bits;
the reader goes by the inline size for all of them. A payload from the heap that is longer is
written and cannot be read, and the reader does not get behind it.
-/

namespace WalnutGateway

variable {π : Type} [DecidableEq π]

/-- Messages written one behind the other, each after the file was opened for appending: the
results with the record sizes, and the flash. -/
def writeRecords (path : π) : List ModuleMessage → Flash π → List (Result × Nat) × Flash π
  | [], fs => ([], fs)
  | m :: ms, fs =>
    let w := queueTcpFileWriteCompactRecord fs ⟨path, .ab, 0⟩ m
    let rest := writeRecords path ms w.2.2
    ((w.1, w.2.1) :: rest.1, rest.2)

/-- At most `fuel` messages read one behind the other, until one cannot be read. -/
def readRecords (path : π) (fileSize : Nat) : Nat → Nat → Flash π → List ModuleMessage
  | 0, _, _ => []
  | fuel + 1, offset, fs =>
    match queueTcpFileReadCompactRecord fs ⟨path, .rb, 0⟩ offset fileSize with
    | (.error _, _) => []
    | (.ok (m, offset), fs) => m :: readRecords path fileSize fuel offset fs

/-- The record of a message, written behind what a file holds, is read back at its place with
the payload, for the TCP module, up to where the size of the file grew by the record. -/
structure RoundTrips (fs : Flash π) (path : π) (m : ModuleMessage) : Prop where
  read_back : ∀ mode pos fileSize,
    (fs.contents path).length + (queueTcpFileWriteCompactRecord fs ⟨path, .ab, 0⟩ m).2.1 ≤
      fileSize →
    ∃ out, queueTcpFileReadCompactRecord (queueTcpFileWriteCompactRecord fs ⟨path, .ab, 0⟩ m).2.2
        ⟨path, mode, pos⟩ (fs.contents path).length fileSize =
      (.ok (out, (fs.contents path).length +
          (queueTcpFileWriteCompactRecord fs ⟨path, .ab, 0⟩ m).2.1),
        (queueTcpFileWriteCompactRecord fs ⟨path, .ab, 0⟩ m).2.2) ∧
      out.payload = m.payload ∧ out.dataLen = m.dataLen ∧ out.destinationModule = .tcp
  counted : ∀ {α : Type} (cfg : QueueConfig α) (d : Device α) (elem : α),
    queueIsTcpSendQ cfg = true → queueHasFile cfg = true → cfg.maxFileSize ≤ uint32Max →
    d.flash.Sound → cfg.element.asMessage elem = m →
    ∃ kept, (kept = d.q.fileSize ∨ kept = 0) ∧ (queueFileAppend cfg d elem).2.q.fileSize =
      kept + (queueTcpFileWriteCompactRecord fs ⟨path, .ab, 0⟩ m).2.1

section Sound

variable {fs : Flash π} {path : π} {m : ModuleMessage}

/-- A message is accepted exactly if it has a record, and the record is what the file grows by. -/
theorem writeCompactRecord_success (h : fs.Sound)
    (hacc : (queueTcpFileWriteCompactRecord fs ⟨path, .ab, 0⟩ m).1 = .success) :
    ∃ record, compactEncode m = some record ∧
      queueTcpFileWriteCompactRecord fs ⟨path, .ab, 0⟩ m =
        (.success, record.length, fs.put path (fs.contents path ++ record)) := by
  rw [queueTcpFileWriteCompactRecord_sound h] at hacc ⊢
  cases hrecord : compactEncode m with
  | none =>
    rw [hrecord] at hacc
    cases hacc
  | some record => exact ⟨record, rfl, rfl⟩

/-- What is read has at most the inline size. -/
theorem dataLen_of_compactNext {bs : List Byte} {out : ModuleMessage} {n : Nat}
    (h : compactNext bs = some (out, n)) : out.dataLen ≤ moduleMessageInlineSize := by
  obtain ⟨payloadLen, type, -, -, hmax, -, -, -, rfl⟩ := compactNext_eq_some h
  exact (List.length_take_le _ _).trans hmax

/-- A payload of at most the inline size is read back from a record of its own. -/
theorem compactNext_of_fits {record : List Byte} (h : compactEncode m = some record)
    (hlen : m.dataLen ≤ moduleMessageInlineSize) :
    ∃ out, compactNext record = some (out, record.length) ∧ out.payload = m.payload ∧
      out.dataLen = m.dataLen ∧ out.destinationModule = .tcp := by
  obtain ⟨type, hnext⟩ := compactNext_compactEncode h hlen
  have hpayload : m.payload.length ≤ moduleMessageInlineSize := by
    rwa [ModuleMessage.length_payload]
  exact ⟨_, hnext, ModuleMessage.payload_ofPayload _ _ hpayload, m.length_payload, rfl⟩

/-- A record behind what a file holds is read as it stands there. -/
theorem readCompactRecord_behind (h : fs.Sound) (path : π) (record : List Byte)
    (mode : FileMode) (pos room : Nat) :
    ∃ e, queueTcpFileReadCompactRecord (fs.put path (fs.contents path ++ record))
        ⟨path, mode, pos⟩ (fs.contents path).length ((fs.contents path).length + room) =
      (match compactNext (record.take room) with
        | none => .error e
        | some (m, n) => .ok (m, (fs.contents path).length + n),
        fs.put path (fs.contents path ++ record)) := by
  have hroom := queueTcpFileReadCompactRecord_room (h.put path (fs.contents path ++ record)) path
    mode pos (fs.contents path).length room
  rwa [Flash.contents_put, List.drop_left] at hroom

/-- A record survives its own file exactly if its payload would have fit into the message. -/
theorem roundTrips_iff (h : fs.Sound)
    (hacc : (queueTcpFileWriteCompactRecord fs ⟨path, .ab, 0⟩ m).1 = .success) :
    RoundTrips fs path m ↔ m.dataLen ≤ moduleMessageInlineSize := by
  obtain ⟨record, hrecord, hwrite⟩ := writeCompactRecord_success h hacc
  have hread := readCompactRecord_behind h path record
  constructor
  · intro htrip
    obtain ⟨out, hout, -, hlen, -⟩ := htrip.read_back .rb 0 _ le_rfl
    rw [hwrite] at hout
    obtain ⟨e, he⟩ := hread .rb 0 record.length
    rw [he, List.take_length] at hout
    cases hnext : compactNext record with
    | none =>
      rw [hnext] at hout
      cases hout
    | some next =>
      obtain ⟨out', n⟩ := next
      rw [hnext] at hout
      obtain rfl : out' = out := congrArg Prod.fst (Except.ok.inj (congrArg Prod.fst hout))
      rw [← hlen]
      exact dataLen_of_compactNext hnext
  · intro hlen
    obtain ⟨out, hnext, hout⟩ := compactNext_of_fits hrecord hlen
    constructor
    · intro mode pos fileSize hsize
      rw [hwrite] at hsize ⊢
      obtain ⟨e, he⟩ := hread mode pos (fileSize - (fs.contents path).length)
      dsimp only at hsize
      rw [Nat.add_sub_of_le (by omega), List.take_of_length_le (by omega), hnext] at he
      exact ⟨out, he, hout⟩
    · intro α cfg d elem htcp hfile hmax hd hm
      have hrec : queueRecord cfg elem = some record := by
        rw [queueRecord, if_pos htcp, hm, hrecord]
      rw [hwrite, queueFileAppend_of_record hd hfile hmax hrec]
      by_cases hfit : d.Fits cfg record
      · rw [if_pos hfit]
        exact ⟨d.q.fileSize, Or.inl rfl, rfl⟩
      · rw [if_neg hfit]
        exact ⟨0, Or.inr rfl, (Nat.zero_add _).symm⟩

/-- Accepted messages leave their records behind what the file held, one behind the other. -/
theorem writeRecords_contents {ms : List ModuleMessage} (h : fs.Sound)
    (hacc : ∀ r ∈ (writeRecords path ms fs).1, r.1 = .success) :
    ∃ records : List (List Byte), ms.map compactEncode = records.map some ∧
      (writeRecords path ms fs).2.Sound ∧
      (writeRecords path ms fs).2.contents path = fs.contents path ++ records.flatten ∧
      ((writeRecords path ms fs).1.map (·.2)).sum = records.flatten.length := by
  induction ms generalizing fs with
  | nil => exact ⟨[], rfl, h, (List.append_nil _).symm, rfl⟩
  | cons m ms ih =>
    obtain ⟨record, hrecord, hwrite⟩ :=
      writeCompactRecord_success h (hacc _ (List.mem_cons_self ..))
    rw [writeRecords, hwrite] at hacc ⊢
    obtain ⟨records, hrecords, hsound, hcontents, hsum⟩ := ih (h.put path _) fun r hr =>
      hacc r (List.mem_cons_of_mem _ hr)
    refine ⟨record :: records, ?_, hsound, ?_, ?_⟩
    · rw [List.map_cons, List.map_cons, hrecord, hrecords]
    · rw [hcontents, Flash.contents_put, List.flatten_cons, List.append_assoc]
    · rw [List.map_cons, List.sum_cons, hsum, List.flatten_cons, List.length_append]

omit [DecidableEq π] in
/-- Reading record by record is parsing what stands behind the offset. -/
theorem readRecords_eq (h : fs.Sound) (path : π) (fuel offset : Nat) :
    readRecords path (fs.contents path).length fuel offset fs =
      compactFraming.records fuel ((fs.contents path).drop offset) := by
  induction fuel generalizing offset with
  | zero => rfl
  | succ fuel ih =>
    obtain ⟨e, he⟩ := queueTcpFileReadCompactRecord_sound h path .rb 0 offset
    have hframing : compactFraming.next ((fs.contents path).drop offset) =
        compactNext ((fs.contents path).drop offset) := rfl
    rw [readRecords, he, Framing.records, hframing]
    cases compactNext ((fs.contents path).drop offset) with
    | none => rfl
    | some next =>
      dsimp only
      rw [ih, List.drop_drop]

/-- Records of payloads that fit are framed, and hold the payloads. -/
theorem framed_of_fits {ms : List ModuleMessage} {records : List (List Byte)}
    (h : ms.map compactEncode = records.map some)
    (hfits : ∀ m ∈ ms, m.dataLen ≤ moduleMessageInlineSize) :
    ∃ outs, compactFraming.Framed records.flatten outs ∧
      outs.map (·.payload) = ms.map (·.payload) := by
  induction ms generalizing records with
  | nil =>
    obtain rfl : records = [] := List.map_eq_nil_iff.mp h.symm
    exact ⟨[], .nil, rfl⟩
  | cons m ms ih =>
    cases records with
    | nil => cases h
    | cons record records =>
      obtain ⟨hrecord, hrecords⟩ := List.cons.inj h
      obtain ⟨out, hnext, hpayload, -⟩ := compactNext_of_fits hrecord
        (hfits _ (List.mem_cons_self ..))
      obtain ⟨outs, hframed, hpayloads⟩ :=
        ih hrecords fun m hm => hfits m (List.mem_cons_of_mem _ hm)
      refine ⟨out :: outs, (Framing.Framed.singleton hnext).append hframed, ?_⟩
      rw [List.map_cons, List.map_cons, hpayload, hpayloads]

/-- Whatever is parsed, no payload is longer than the inline size. -/
theorem dataLen_of_mem_records {fuel : Nat} {bs : List Byte} {out : ModuleMessage}
    (h : out ∈ compactFraming.records fuel bs) : out.dataLen ≤ moduleMessageInlineSize := by
  induction fuel generalizing bs with
  | zero => cases h
  | succ fuel ih =>
    rw [Framing.records] at h
    split at h
    · cases h
    · rename_i r n hnext
      cases h with
      | head => exact dataLen_of_compactNext hnext
      | tail _ hmem => exact ih hmem

/-- Messages that were accepted come back, each from a record of its own, and all of them from
their records one behind the other, exactly if none has a payload longer than the inline size. -/
theorem compact_records_round_trip_iff (h : fs.Sound) (ms : List ModuleMessage)
    (hacc : ∀ r ∈ (writeRecords path ms fs).1, r.1 = .success) :
    ((∀ m ∈ ms, RoundTrips fs path m) ↔ ∀ m ∈ ms, m.dataLen ≤ moduleMessageInlineSize) ∧
      ((readRecords path
          ((fs.contents path).length + ((writeRecords path ms fs).1.map (·.2)).sum)
          ((writeRecords path ms fs).1.map (·.2)).sum (fs.contents path).length
          (writeRecords path ms fs).2).map (·.payload) = ms.map (·.payload) ↔
        ∀ m ∈ ms, m.dataLen ≤ moduleMessageInlineSize) := by
  obtain ⟨records, hrecords, hsound, hcontents, hsum⟩ := writeRecords_contents h hacc
  have hread : readRecords path
      ((fs.contents path).length + ((writeRecords path ms fs).1.map (·.2)).sum)
      ((writeRecords path ms fs).1.map (·.2)).sum (fs.contents path).length
      (writeRecords path ms fs).2 = compactFraming.parse records.flatten := by
    have hlength : (fs.contents path).length + records.flatten.length =
        ((writeRecords path ms fs).2.contents path).length := by
      rw [hcontents, List.length_append]
    rw [hsum, hlength, readRecords_eq hsound, hcontents, List.drop_left]
    rfl
  refine ⟨forall₂_congr fun m hm => ?_, ?_⟩
  · have hmem : compactEncode m ∈ records.map some := hrecords ▸ List.mem_map_of_mem hm
    obtain ⟨record, -, hrecord⟩ := List.mem_map.mp hmem
    refine roundTrips_iff h ?_
    rw [queueTcpFileWriteCompactRecord_sound h, ← hrecord]
  · rw [hread]
    constructor
    · intro hsame m hm
      have hmem : m.payload ∈ (compactFraming.parse records.flatten).map (·.payload) := by
        rw [hsame]
        exact List.mem_map_of_mem hm
      obtain ⟨out, hout, hpayload⟩ := List.mem_map.mp hmem
      rw [← m.length_payload, ← hpayload, out.length_payload]
      exact dataLen_of_mem_records hout
    · intro hfits
      obtain ⟨outs, hframed, hpayloads⟩ := framed_of_fits hrecords hfits
      rw [hframed.parse_eq, hpayloads]

end Sound

/-! ## A long payload from the heap -/

/-- A payload of 257 bytes in a heap block. -/
def longPacket : ModuleMessage :=
  .ofBuffer .gps .tcp ([0x57, 0x45, gpsPacketType] ++ List.replicate 254 0)

/-- Two short packets come back. -/
theorem compact_records_round_trip_short :
    RoundTrips ⟨fun _ => none, []⟩ () (.ofPayload .gps .tcp [0x57, 0x45, gpsPacketType]) ∧
      RoundTrips ⟨fun _ => none, []⟩ () (.ofBuffer .ble .tcp [0x57, 0x45, blePacketType]) := by
  have hall := (@compact_records_round_trip_iff Unit _ ⟨fun _ => none, []⟩ () rfl
    [.ofPayload .gps .tcp [0x57, 0x45, gpsPacketType],
      .ofBuffer .ble .tcp [0x57, 0x45, blePacketType]] (by decide +kernel)).1.mpr
    (by decide +kernel)
  exact ⟨hall _ (by simp), hall _ (by simp)⟩

/-- A packet of 257 bytes is written, and neither it nor what comes behind it is read. -/
theorem long_packet_stops_reader :
    (¬ ∀ (fs : Flash Unit) m, fs.Sound →
      (queueTcpFileWriteCompactRecord fs ⟨(), .ab, 0⟩ m).1 = .success → RoundTrips fs () m) ∧
    (writeRecords () [longPacket, .ofPayload .gps .tcp [0x57, 0x45, gpsPacketType]]
      ⟨fun _ => none, []⟩).1 = [(.success, 260), (.success, 6)] ∧
    readRecords () 266 266 0 (writeRecords () [longPacket,
      .ofPayload .gps .tcp [0x57, 0x45, gpsPacketType]] ⟨fun _ => none, []⟩).2 = [] := by
  have hsound : Flash.Sound (⟨fun _ => none, []⟩ : Flash Unit) := rfl
  have hacc : (queueTcpFileWriteCompactRecord ⟨fun _ => none, []⟩ ⟨(), .ab, 0⟩ longPacket).1 =
      .success := by decide +kernel
  refine ⟨fun hall => ?_, by decide +kernel, by decide +kernel⟩
  exact absurd ((roundTrips_iff hsound hacc).mp (hall _ longPacket hsound hacc)) (by decide +kernel)

end WalnutGateway
