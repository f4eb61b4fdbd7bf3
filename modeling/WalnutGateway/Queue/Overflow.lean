import WalnutGateway.Queue.CompactRecord
import WalnutGateway.Reset.PreBoot

/-!
# The overflow file

A queue with a file moves its oldest rows to `queue_<name>_overflow.dat` and
reads them back first. The TCP send queue stores compact records, every other
queue the bytes of its elements. `file_size` and `file_read_offset` in RAM are
the queue's idea of that file; nothing checks them against it.
-/

namespace WalnutGateway

variable {α : Type}

/-- A queue on its device: the flash, the pre-boot record and the queue itself. -/
structure Device (α : Type) extends PreBootStore where
  q : Queue α

/-- `TCP_SEND_QUEUE_NAME`. -/
def tcpSendQueueName : String := "TCP_SEND_Q"

/-- `queue_is_tcp_send_q`. -/
def queueIsTcpSendQ (cfg : QueueConfig α) : Bool := cfg.name = tcpSendQueueName

/-- `queue_has_file`. -/
def queueHasFile (cfg : QueueConfig α) : Bool := cfg.maxFileSize > 0

/-- `queue_make_filename` with `_overflow.dat`. -/
def overflowFile (cfg : QueueConfig α) : FlashFile := .queueOverflow cfg.name

/-- `queue_make_filename` with `.dat`. -/
def snapshotFile (cfg : QueueConfig α) : FlashFile := .queueDat cfg.name

/-! ## Appending -/

/-- Delete the overflow file, whether or not that works, and start at 0. -/
def queueFileReset (cfg : QueueConfig α) (d : Device α) : Device α :=
  { d with
    flash := (wmSdkFileDelete d.flash (overflowFile cfg)).2
    q := { d.q with fileSize := 0, fileReadOffset := 0 } }

/-- The two guards of `queue_file_append`: the 32-bit one and `max_file_size`. -/
def queueFileMakeRoom (cfg : QueueConfig α) (d : Device α) (recordSize : Nat) : Device α :=
  let d := if recordSize > uint32Max - d.q.fileSize then queueFileReset cfg d else d
  if d.q.fileSize + recordSize > cfg.maxFileSize then queueFileReset cfg d else d

/-- `record_size` of `queue_file_append`; `none` where it gives up at once. -/
def queueFileRecordSize (cfg : QueueConfig α) (elem : α) : Option Nat :=
  if queueIsTcpSendQ cfg then
    match queueTcpPayloadLenFromMessage (cfg.element.asMessage elem) with
    | none => none
    | some (payloadLen, _) => if payloadLen = 0 then none else some (3 + payloadLen)
  else some cfg.elementSize

/-- The writes of `queue_file_append`: the result, `compact_written` and the flash. -/
def queueFileWriteElem (cfg : QueueConfig α) (fs : Flash FlashFile) (fp : FileHandle FlashFile)
    (elem : α) : Result × Nat × Flash FlashFile :=
  if queueIsTcpSendQ cfg then
    queueTcpFileWriteCompactRecord fs fp (cfg.element.asMessage elem)
  else
    let w := wmSdkFileWrite fs fp (cfg.element.image elem)
    if ¬ w.ok ∨ w.written ≠ cfg.elementSize then (.error, 0, w.flash)
    else (.success, cfg.elementSize, w.flash)

/-- `queue_file_append`. -/
def queueFileAppend (cfg : QueueConfig α) (d : Device α) (elem : α) : Result × Device α :=
  if ¬ queueHasFile cfg then (.invalidParam, d) else
  match queueFileRecordSize cfg elem with
  | none => (.error, d)
  | some recordSize =>
    let d := queueFileMakeRoom cfg d recordSize
    match wmSdkFileOpen d.flash (overflowFile cfg) .ab with
    | (none, fs) => (.error, { d with flash := fs })
    | (some fp, fs) =>
      let w := queueFileWriteElem cfg fs fp elem
      let fs := (wmSdkFileClose w.2.2).2
      if w.1 ≠ .success then (.error, { d with flash := fs })
      else (.success,
        { d with flash := fs, q := { d.q with fileSize := d.q.fileSize + w.2.1 } })

/-! ## Reading -/

/-- The reads of `queue_file_read` at an offset: the element and the offset behind it. -/
def queueFileReadElem (cfg : QueueConfig α) (fs : Flash FlashFile) (fp : FileHandle FlashFile)
    (offset fileSize : Nat) : Except Result (α × Nat) × Flash FlashFile :=
  if queueIsTcpSendQ cfg then
    let r := queueTcpFileReadCompactRecord fs fp offset fileSize
    (r.1.map fun x => (cfg.element.ofMessage x.1, x.2), r.2)
  else
    let s := wmSdkFileSeek fs fp offset
    let r := wmSdkFileRead s.2 s.1 cfg.elementSize
    if ¬ r.ok ∨ r.data.length ≠ cfg.elementSize then (.error .error, r.flash)
    else (.ok (cfg.element.ofImage r.data, offset + cfg.elementSize), r.flash)

/-- `queue_file_read`. -/
def queueFileRead (cfg : QueueConfig α) (d : Device α) : Except Result α × Device α :=
  if ¬ queueHasFile cfg then (.error .invalidParam, d) else
  if d.q.fileReadOffset ≥ d.q.fileSize then (.error .notFound, d) else
  match wmSdkFileOpen d.flash (overflowFile cfg) .rb with
  | (none, fs) => (.error .error, { d with flash := fs })
  | (some fp, fs) =>
    let r := queueFileReadElem cfg fs fp d.q.fileReadOffset d.q.fileSize
    let fs := (wmSdkFileClose r.2).2
    match r.1 with
    | .error _ => (.error .error, { d with flash := fs })
    | .ok (elem, offset) =>
      let d := { d with flash := fs, q := { d.q with fileReadOffset := offset } }
      if offset ≥ d.q.fileSize then (.ok elem, queueFileReset cfg d) else (.ok elem, d)

/-- The loop of `queue_tcp_file_count_records`; every turn but the last moves
the offset, so `fileSize` turns are enough. -/
def countRecordsLoop (fileSize : Nat) :
    Nat → FileHandle FlashFile → Flash FlashFile → Nat → Nat × Flash FlashFile
  | 0, _, fs, _ => (0, fs)
  | fuel + 1, fp, fs, offset =>
    if offset + 3 > fileSize then (0, fs) else
    match queueTcpReadHdr fs fp offset with
    | (none, _, fs) => (0, fs)
    | (some (payloadLen, _), fp, fs) =>
      if payloadLen = 0 ∨ payloadLen > moduleMessageInlineSize then (0, fs)
      else if offset + 3 + payloadLen > fileSize then (0, fs)
      else
        let r := countRecordsLoop fileSize fuel fp fs (offset + 3 + payloadLen)
        (r.1 + 1, r.2)

/-- `queue_tcp_file_count_records`. -/
def queueTcpFileCountRecords (cfg : QueueConfig α) (d : Device α) : Nat × Device α :=
  if ¬ queueIsTcpSendQ cfg then (0, d) else
  if d.q.fileReadOffset ≥ d.q.fileSize then (0, d) else
  match wmSdkFileOpen d.flash (overflowFile cfg) .rb with
  | (none, fs) => (0, { d with flash := fs })
  | (some fp, fs) =>
    let r := countRecordsLoop d.q.fileSize d.q.fileSize fp fs d.q.fileReadOffset
    (r.1, { d with flash := (wmSdkFileClose r.2).2 })

/-- The loop of `queue_file_peek_element` for compact records: skip `which`
records by their headers, then read one. -/
def peekRecordLoop (fileSize : Nat) :
    Nat → FileHandle FlashFile → Flash FlashFile → Nat →
      Except Result ModuleMessage × Flash FlashFile
  | 0, fp, fs, offset =>
    if offset ≥ fileSize then (.error .notFound, fs) else
    let r := queueTcpFileReadCompactRecord fs fp offset fileSize
    (r.1.map Prod.fst, r.2)
  | which + 1, fp, fs, offset =>
    if offset ≥ fileSize then (.error .notFound, fs) else
    match queueTcpReadHdr fs fp offset with
    | (none, _, fs) => (.error .error, fs)
    | (some (payloadLen, _), fp, fs) =>
      if payloadLen = 0 ∨ payloadLen > moduleMessageInlineSize ∨
          offset + 3 + payloadLen > fileSize then (.error .error, fs)
      else peekRecordLoop fileSize which fp fs (offset + 3 + payloadLen)

/-- The reads of `queue_file_peek_element` for elements stored as they are. -/
def peekRawElement (cfg : QueueConfig α) (q : Queue α) (fs : Flash FlashFile)
    (fp : FileHandle FlashFile) (which : Nat) : Except Result α × Flash FlashFile :=
  if cfg.elementSize = 0 then (.error .invalidParam, fs) else
  let unread := q.fileSize - q.fileReadOffset
  let fileSlots := unread / cfg.elementSize
  if which ≥ fileSlots then (.error .notFound, fs) else
  let skipBytes := which * cfg.elementSize
  if skipBytes > uint32Max - q.fileReadOffset then (.error .error, fs) else
  let absOff := q.fileReadOffset + skipBytes
  if absOff > q.fileSize - cfg.elementSize then (.error .error, fs) else
  let s := wmSdkFileSeek fs fp absOff
  let r := wmSdkFileRead s.2 s.1 cfg.elementSize
  if ¬ r.ok ∨ r.data.length ≠ cfg.elementSize then (.error .error, r.flash)
  else (.ok (cfg.element.ofImage r.data), r.flash)

/-- `queue_file_peek_element`. -/
def queueFilePeekElement (cfg : QueueConfig α) (d : Device α) (which : Nat) :
    Except Result α × Device α :=
  if ¬ queueHasFile cfg then (.error .invalidParam, d) else
  if d.q.fileReadOffset ≥ d.q.fileSize then (.error .notFound, d) else
  match wmSdkFileOpen d.flash (overflowFile cfg) .rb with
  | (none, fs) => (.error .error, { d with flash := fs })
  | (some fp, fs) =>
    let r :=
      if queueIsTcpSendQ cfg then
        let r := peekRecordLoop d.q.fileSize which fp fs d.q.fileReadOffset
        (r.1.map cfg.element.ofMessage, r.2)
      else peekRawElement cfg d.q fs fp which
    (r.1, { d with flash := (wmSdkFileClose r.2).2 })

/-! ## Records of a queue -/

/-- What a queue with a file asks of its configuration: room in the ring and in
the file, sizes that are 32-bit words, and elements that are messages in the
TCP send queue and plain bytes elsewhere. -/
structure QueueConfig.WellFormed (cfg : QueueConfig α) : Prop where
  capacity_pos : 0 < cfg.capacity
  capacity_lt : cfg.capacity < 2 ^ 32
  file_pos : 0 < cfg.maxFileSize
  file_le : cfg.maxFileSize ≤ uint32Max
  size_pos : 0 < cfg.elementSize
  message : queueIsTcpSendQ cfg = true →
    ∀ m, cfg.element.asMessage (cfg.element.ofMessage m) = m
  plain : queueIsTcpSendQ cfg = false → ∀ a, cfg.element.Plain a

theorem QueueConfig.WellFormed.hasFile {cfg : QueueConfig α} (h : cfg.WellFormed) :
    queueHasFile cfg = true := decide_eq_true h.file_pos

/-- The bytes an element takes up in the overflow file, `none` if it is refused. -/
def queueRecord (cfg : QueueConfig α) (elem : α) : Option (List Byte) :=
  if queueIsTcpSendQ cfg then compactEncode (cfg.element.asMessage elem)
  else some (cfg.element.image elem)

/-- The element a string starts with when elements are stored as they are. -/
def rawNext (cfg : QueueConfig α) (bs : List Byte) : Option (α × Nat) :=
  if cfg.elementSize = 0 ∨ bs.length < cfg.elementSize then none
  else some (cfg.element.ofImage (bs.take cfg.elementSize), cfg.elementSize)

/-- Elements of one size frame a file. -/
def rawFraming (cfg : QueueConfig α) : Framing Byte α where
  next := rawNext cfg
  next_pos := by
    intro bs r n h
    unfold rawNext at h
    split at h
    · contradiction
    · rw [Option.some.injEq, Prod.mk.injEq] at h
      omega
  next_local := by
    intro bs r n h t
    unfold rawNext at h ⊢
    split at h
    · contradiction
    · rename_i hok
      rw [Option.some.injEq, Prod.mk.injEq] at h
      obtain ⟨rfl, rfl⟩ := h
      have hl : (bs.take cfg.elementSize).length = cfg.elementSize := by
        rw [List.length_take]
        omega
      rw [if_neg (by rw [List.length_append, hl]; omega), List.take_left' hl]

/-- Compact records, read as elements. -/
def messageFraming (cfg : QueueConfig α) : Framing Byte α where
  next bs := (compactNext bs).map fun x => (cfg.element.ofMessage x.1, x.2)
  next_pos := by
    intro bs r n h
    obtain ⟨⟨m, k⟩, hm, he⟩ := Option.map_eq_some_iff.mp h
    rw [Prod.mk.injEq] at he
    rw [← he.2]
    exact compactFraming.next_pos hm
  next_local := by
    intro bs r n h t
    obtain ⟨⟨m, k⟩, hm, he⟩ := Option.map_eq_some_iff.mp h
    rw [Prod.mk.injEq] at he
    obtain ⟨rfl, rfl⟩ := he
    exact Option.map_eq_some_iff.mpr ⟨(m, k), compactFraming.next_local hm t, rfl⟩

/-- How the overflow file of a queue is read. -/
def queueFraming (cfg : QueueConfig α) : Framing Byte α :=
  if queueIsTcpSendQ cfg then messageFraming cfg else rawFraming cfg

/-- The overflow file's contents. -/
def Device.overflowBytes (cfg : QueueConfig α) (d : Device α) : List Byte :=
  d.flash.contents (overflowFile cfg)

/-- The device after a record was appended behind the others. -/
def Device.appended (cfg : QueueConfig α) (d : Device α) (record : List Byte) : Device α :=
  { d with
    flash := d.flash.put (overflowFile cfg) (d.overflowBytes cfg ++ record)
    q := { d.q with fileSize := d.q.fileSize + record.length } }

/-- The device after the file was cleared and started again with one record. -/
def Device.restarted (cfg : QueueConfig α) (d : Device α) (record : List Byte) : Device α :=
  { d with
    flash := d.flash.put (overflowFile cfg) record
    q := { d.q with fileSize := record.length, fileReadOffset := 0 } }

/-- The device after the last record was read. -/
def Device.drained (cfg : QueueConfig α) (d : Device α) : Device α :=
  { d with
    flash := d.flash.erase (overflowFile cfg)
    q := { d.q with fileSize := 0, fileReadOffset := 0 } }

/-- The device after a record of `n` bytes was read and others follow. -/
def Device.advanced (d : Device α) (n : Nat) : Device α :=
  { d with q := { d.q with fileReadOffset := d.q.fileReadOffset + n } }

/-- An append does not have to clear the file for this record. -/
def Device.Fits (cfg : QueueConfig α) (d : Device α) (record : List Byte) : Prop :=
  d.q.fileSize + record.length ≤ cfg.maxFileSize

instance (cfg : QueueConfig α) (d : Device α) (record : List Byte) :
    Decidable (d.Fits cfg record) :=
  inferInstanceAs (Decidable (_ ≤ _))

/-- The size computed first is that of the record written later. -/
theorem queueFileRecordSize_of_record {cfg : QueueConfig α} {elem : α} {record : List Byte}
    (h : queueRecord cfg elem = some record) :
    queueFileRecordSize cfg elem = some record.length := by
  unfold queueRecord at h
  unfold queueFileRecordSize
  split at h
  · rename_i htcp
    rw [if_pos htcp]
    unfold compactEncode at h
    cases hp : queueTcpPayloadLenFromMessage (cfg.element.asMessage elem) with
    | none => simp [hp] at h
    | some x =>
      obtain ⟨payloadLen, payload⟩ := x
      simp only [hp] at h
      split at h
      · contradiction
      · rename_i hok
        rw [Option.some.injEq] at h
        dsimp only
        rw [if_neg (fun h0 => hok (Or.inl h0)), ← h]
        simp
        omega
  · rename_i hraw
    cases h
    rw [if_neg hraw, cfg.element.length_image, QueueConfig.elementSize]

/-! ## A flash where nothing fails -/

section Sound

variable {cfg : QueueConfig α} {d : Device α}

theorem queueFileReset_sound (h : d.flash.Sound) : queueFileReset cfg d = d.drained cfg := by
  simp only [queueFileReset, wmSdkFileDelete_sound h, Device.drained]

/-- Making room fails no later call. -/
theorem queueFileMakeRoom_sound (h : d.flash.Sound) (n : Nat) :
    (queueFileMakeRoom cfg d n).flash.Sound := by
  have hreset {e : Device α} (he : e.flash.Sound) : (queueFileReset cfg e).flash.Sound := by
    rw [queueFileReset_sound he]
    exact he.erase _
  simp only [queueFileMakeRoom]
  by_cases hwide : n > uint32Max - d.q.fileSize
  · rw [if_pos hwide]
    split
    · exact hreset (hreset h)
    · exact hreset h
  · rw [if_neg hwide]
    split
    · exact hreset h
    · exact h

/-- The file is left alone when the record fits. -/
theorem queueFileMakeRoom_of_fits {n : Nat} (hmax : cfg.maxFileSize ≤ uint32Max)
    (hn : d.q.fileSize + n ≤ cfg.maxFileSize) : queueFileMakeRoom cfg d n = d := by
  have hwide : ¬ n > uint32Max - d.q.fileSize := by omega
  simp only [queueFileMakeRoom]
  rw [if_neg hwide, if_neg (by omega)]

/-- The file is cleared when it does not. -/
theorem queueFileMakeRoom_of_not_fits (h : d.flash.Sound) {n : Nat}
    (hn : ¬ d.q.fileSize + n ≤ cfg.maxFileSize) :
    queueFileMakeRoom cfg d n = d.drained cfg := by
  have htwice : (d.drained cfg).drained cfg = d.drained cfg := by
    simp only [Device.drained, Flash.erase_erase]
  simp only [queueFileMakeRoom]
  by_cases hwide : n > uint32Max - d.q.fileSize
  · rw [if_pos hwide, queueFileReset_sound h]
    split
    · rw [queueFileReset_sound (d := d.drained cfg) (h.erase _), htwice]
    · rfl
  · rw [if_neg hwide, if_pos (by omega), queueFileReset_sound h]

theorem queueFileWriteElem_sound {fs : Flash FlashFile} (h : fs.Sound) (path : FlashFile)
    (pos : Nat) (elem : α) :
    queueFileWriteElem cfg fs ⟨path, .ab, pos⟩ elem =
      match queueRecord cfg elem with
      | none => (.invalidParam, 0, fs)
      | some record => (.success, record.length, fs.put path (fs.contents path ++ record)) := by
  unfold queueFileWriteElem queueRecord
  split
  · exact queueTcpFileWriteCompactRecord_sound h path pos _
  · have hl := cfg.element.length_image elem
    simp only [wmSdkFileWrite_sound h, FileHandle.overwrite, hl, QueueConfig.elementSize]
    simp

/-- Without a failing call, an append that has its record ends like this. -/
theorem queueFileAppend_of_record (h : d.flash.Sound) (hfile : queueHasFile cfg = true)
    (hmax : cfg.maxFileSize ≤ uint32Max) {elem : α} {record : List Byte}
    (hrec : queueRecord cfg elem = some record) :
    queueFileAppend cfg d elem =
      (.success, if d.Fits cfg record then d.appended cfg record else d.restarted cfg record) := by
  simp only [queueFileAppend, hfile, not_true_eq_false, if_false,
    queueFileRecordSize_of_record hrec]
  by_cases hfit : d.Fits cfg record
  · rw [queueFileMakeRoom_of_fits hmax hfit, if_pos hfit, wmSdkFileOpen_ab h]
    simp only [queueFileWriteElem_sound (h.put _ _), hrec,
      wmSdkFileClose_sound ((h.put _ _).put _ _)]
    simp [Device.appended, Device.overflowBytes]
  · rw [queueFileMakeRoom_of_not_fits h hfit, if_neg hfit]
    have he : (d.drained cfg).flash.Sound := h.erase _
    rw [wmSdkFileOpen_ab he]
    simp only [queueFileWriteElem_sound (he.put _ _), hrec,
      wmSdkFileClose_sound ((he.put _ _).put _ _)]
    simp [Device.restarted, Device.drained]

/-- The device after the overflow file was opened for appending and nothing written. -/
def Device.reopened (cfg : QueueConfig α) (d : Device α) : Device α :=
  { d with flash := d.flash.put (overflowFile cfg) (d.overflowBytes cfg) }

/-- An element without a record is refused. If only its type is wrong, room has
been made for it already. -/
theorem queueFileAppend_of_no_record (h : d.flash.Sound) (hfile : queueHasFile cfg = true)
    {elem : α} (hrec : queueRecord cfg elem = none) :
    queueFileAppend cfg d elem =
      (.error, match queueFileRecordSize cfg elem with
        | none => d
        | some n => (queueFileMakeRoom cfg d n).reopened cfg) := by
  simp only [queueFileAppend, hfile, not_true_eq_false, if_false]
  cases hs : queueFileRecordSize cfg elem with
  | none => rfl
  | some n =>
    have hsound : (queueFileMakeRoom cfg d n).flash.Sound := queueFileMakeRoom_sound h n
    simp only [wmSdkFileOpen_ab hsound, queueFileWriteElem_sound (hsound.put _ _), hrec,
      wmSdkFileClose_sound (hsound.put _ _)]
    rw [if_pos (show Result.invalidParam ≠ Result.success by decide)]
    rfl

/-! ### Reading -/

/-- A file that is not empty exists. -/
theorem files_of_overflowBytes {bytes : List Byte} (hb : d.overflowBytes cfg = bytes)
    (hne : bytes ≠ []) : d.flash.files (overflowFile cfg) = some bytes := by
  rw [Device.overflowBytes, Flash.contents] at hb
  cases hf : d.flash.files (overflowFile cfg) with
  | none => rw [hf, Option.getD_none] at hb; exact absurd hb.symm hne
  | some bs => rw [hf, Option.getD_some] at hb; rw [hb]

/-- Reading an element at an offset of a file of known size is the framing's `next`. -/
theorem queueFileReadElem_sound {fs : Flash FlashFile} (h : fs.Sound)
    (hsize : 0 < cfg.elementSize) (path : FlashFile) (mode : FileMode) (pos offset : Nat) :
    ∃ e, queueFileReadElem cfg fs ⟨path, mode, pos⟩ offset (fs.contents path).length =
      (match (queueFraming cfg).next ((fs.contents path).drop offset) with
        | none => .error e
        | some (x, n) => .ok (x, offset + n), fs) := by
  unfold queueFileReadElem queueFraming
  split
  · obtain ⟨e, he⟩ := queueTcpFileReadCompactRecord_sound h path mode pos offset
    refine ⟨e, ?_⟩
    rw [he]
    simp only [messageFraming]
    cases compactNext ((fs.contents path).drop offset) <;> rfl
  · refine ⟨.error, ?_⟩
    simp only [wmSdkFileSeek_sound h, wmSdkFileRead_sound h, rawFraming, rawNext,
      List.length_take, List.length_drop]
    by_cases hshort : (fs.contents path).length - offset < cfg.elementSize
    · rw [if_pos (Or.inr (by omega)), if_pos (Or.inr (by omega))]
    · rw [if_neg (by simp; omega), if_neg (by omega)]

theorem queueFileRead_of_empty (hfile : queueHasFile cfg = true)
    (hoff : d.q.fileSize ≤ d.q.fileReadOffset) :
    queueFileRead cfg d = (.error .notFound, d) := by
  simp only [queueFileRead, hfile, not_true_eq_false, if_false]
  rw [if_pos hoff]

/-- Without a failing call, and with the size known, a read takes the record at
the offset; behind the last one the file is gone. -/
theorem queueFileRead_sound (h : d.flash.Sound) (hcfg : cfg.WellFormed)
    (hsize : (d.overflowBytes cfg).length = d.q.fileSize)
    (hoff : d.q.fileReadOffset < d.q.fileSize) :
    queueFileRead cfg d =
      match (queueFraming cfg).next ((d.overflowBytes cfg).drop d.q.fileReadOffset) with
      | none => (.error .error, d)
      | some (x, n) => (.ok x,
          if d.q.fileSize ≤ d.q.fileReadOffset + n then d.drained cfg else d.advanced n) := by
  have hne : d.overflowBytes cfg ≠ [] := by
    intro hnil
    rw [hnil, List.length_nil] at hsize
    omega
  obtain ⟨e, he⟩ := queueFileReadElem_sound h hcfg.size_pos (overflowFile cfg) .rb 0
    d.q.fileReadOffset
  have hlen : (d.flash.contents (overflowFile cfg)).length = d.q.fileSize := hsize
  rw [hlen] at he
  simp only [queueFileRead, hcfg.hasFile, not_true_eq_false, if_false]
  rw [if_neg (by omega), wmSdkFileOpen_rb_some h (files_of_overflowBytes rfl hne)]
  simp only [he, wmSdkFileClose_sound h]
  change _ = match (queueFraming cfg).next
    ((d.flash.contents (overflowFile cfg)).drop d.q.fileReadOffset) with
    | none => _
    | some (x, n) => _
  cases (queueFraming cfg).next
      ((d.flash.contents (overflowFile cfg)).drop d.q.fileReadOffset) with
  | none => rfl
  | some x =>
    obtain ⟨x, n⟩ := x
    dsimp only
    by_cases hend : d.q.fileSize ≤ d.q.fileReadOffset + n
    · rw [if_pos hend, if_pos hend, queueFileReset_sound (by exact h)]
      rfl
    · rw [if_neg hend, if_neg hend]
      rfl

/-- The header that stands before an element of the TCP send queue. -/
theorem messageFraming_next {bs : List Byte} {x : α} {n : Nat}
    (h : (messageFraming cfg).next bs = some (x, n)) :
    ∃ payloadLen type, compactHeader bs = some (payloadLen, type) ∧ n = 3 + payloadLen ∧
      0 < payloadLen ∧ payloadLen ≤ moduleMessageInlineSize ∧ n ≤ bs.length ∧
      ∃ m, compactNext bs = some (m, n) ∧ cfg.element.ofMessage m = x := by
  obtain ⟨⟨m, k⟩, hm, he⟩ := Option.map_eq_some_iff.mp h
  rw [Prod.mk.injEq] at he
  obtain ⟨rfl, rfl⟩ := he
  obtain ⟨payloadLen, type, hh, hpos, hmax, hroom, -, hn, -⟩ := compactNext_eq_some hm
  exact ⟨payloadLen, type, hh, hn, hpos, hmax, by omega, m, hm, rfl⟩

/-- Counting by headers counts the records of a framed file. -/
theorem countRecordsLoop_sound {fs : Flash FlashFile} (h : fs.Sound) {path : FlashFile}
    (mode : FileMode) {rs : List α} {bs : List Byte}
    (hrs : (messageFraming cfg).Framed bs rs) (fuel pos offset : Nat)
    (hbs : bs = (fs.contents path).drop offset)
    (hfuel : (fs.contents path).length ≤ fuel + offset) :
    countRecordsLoop (fs.contents path).length fuel ⟨path, mode, pos⟩ fs offset =
      (rs.length, fs) := by
  induction hrs generalizing fuel pos offset with
  | nil =>
    have hend : (fs.contents path).length ≤ offset := List.drop_eq_nil_iff.mp hbs.symm
    cases fuel with
    | zero => rfl
    | succ fuel => rw [countRecordsLoop, if_pos (by omega), List.length_nil]
  | @cons bs x n rs head tail ih =>
    obtain ⟨payloadLen, type, hh, rfl, hpos, hmax, hroom, -⟩ := messageFraming_next head
    rw [hbs, List.length_drop] at hroom
    cases fuel with
    | zero => omega
    | succ fuel =>
      obtain ⟨pos', hhdr, -⟩ := queueTcpReadHdr_sound h path mode pos offset
      rw [← hbs, hh] at hhdr
      rw [countRecordsLoop, if_neg (by omega), hhdr]
      dsimp only
      rw [if_neg (by omega), if_neg (by omega),
        ih fuel pos' (offset + 3 + payloadLen) (by rw [hbs, List.drop_drop, Nat.add_assoc])
          (by omega), List.length_cons]

/-- Skipping by headers reaches the record with the given number. -/
theorem peekRecordLoop_sound {fs : Flash FlashFile} (h : fs.Sound) {path : FlashFile}
    (mode : FileMode) {rs : List α} {bs : List Byte}
    (hrs : (messageFraming cfg).Framed bs rs) (pos offset : Nat)
    (hbs : bs = (fs.contents path).drop offset) {which : Nat} (hw : which < rs.length) :
    ∃ m, peekRecordLoop (fs.contents path).length which ⟨path, mode, pos⟩ fs offset =
      (.ok m, fs) ∧ cfg.element.ofMessage m = rs[which] := by
  induction hrs generalizing pos offset which with
  | nil => exact absurd hw (Nat.not_lt_zero _)
  | @cons bs x n rs head tail ih =>
    obtain ⟨payloadLen, type, hh, rfl, hpos, hmax, hroom, m, hm, rfl⟩ := messageFraming_next head
    rw [hbs, List.length_drop] at hroom
    cases which with
    | zero =>
      obtain ⟨e, he⟩ := queueTcpFileReadCompactRecord_sound h path mode pos offset
      refine ⟨m, ?_, rfl⟩
      rw [peekRecordLoop, if_neg (by omega), he, ← hbs, hm]
      rfl
    | succ which =>
      obtain ⟨pos', hhdr, -⟩ := queueTcpReadHdr_sound h path mode pos offset
      rw [← hbs, hh] at hhdr
      rw [peekRecordLoop, if_neg (by omega), hhdr]
      dsimp only
      rw [if_neg (by omega)]
      exact ih pos' (offset + 3 + payloadLen) (by rw [hbs, List.drop_drop, Nat.add_assoc])
        (Nat.lt_of_succ_lt_succ hw)

/-- Behind whole records, skipping reaches what stands before the size it goes by. -/
theorem peekRecordLoop_within {fs : Flash FlashFile} (h : fs.Sound) {path : FlashFile}
    (mode : FileMode) {rs : List α} {bs w rest : List Byte}
    (hrs : (messageFraming cfg).Framed bs rs) (hne : w ≠ []) (pos offset : Nat)
    (hbs : (fs.contents path).drop offset = bs ++ (w ++ rest)) :
    ∃ e, peekRecordLoop (offset + (bs.length + w.length)) rs.length ⟨path, mode, pos⟩ fs offset =
      (match compactNext w with
        | none => .error e
        | some (m, _) => .ok m, fs) := by
  have hlen := List.length_pos_iff.mpr hne
  induction hrs generalizing pos offset with
  | nil =>
    rw [List.nil_append] at hbs
    obtain ⟨e, he⟩ := queueTcpFileReadCompactRecord_within h mode pos hbs
    refine ⟨e, ?_⟩
    simp only [List.length_nil, Nat.zero_add]
    rw [peekRecordLoop, if_neg (by omega), he]
    cases compactNext w <;> rfl
  | @cons bs x n rs head tail ih =>
    obtain ⟨payloadLen, type, hh, rfl, hpos, hmax, hroom, -⟩ := messageFraming_next head
    have hhead : compactHeader (bs ++ (w ++ rest)) = compactHeader bs := by
      have htake := compactHeader_take_append (by omega : 3 ≤ bs.length) le_rfl (w ++ rest)
      rwa [List.take_length] at htake
    obtain ⟨pos', hhdr, -⟩ := queueTcpReadHdr_sound h path mode pos offset
    rw [hbs, hhead, hh] at hhdr
    have hdrop : (fs.contents path).drop (offset + 3 + payloadLen) =
        bs.drop (3 + payloadLen) ++ (w ++ rest) := by
      rw [Nat.add_assoc, ← List.drop_drop, hbs, List.drop_append_of_le_length hroom]
    obtain ⟨e, he⟩ := ih pos' (offset + 3 + payloadLen) hdrop
    refine ⟨e, ?_⟩
    rw [List.length_drop, show offset + 3 + payloadLen + (bs.length - (3 + payloadLen) + w.length) =
      offset + (bs.length + w.length) by omega] at he
    rw [List.length_cons, peekRecordLoop, if_neg (by omega), hhdr]
    dsimp only
    rw [if_neg (by omega)]
    exact he

theorem queueFraming_of_tcp (htcp : queueIsTcpSendQ cfg = true) :
    queueFraming cfg = messageFraming cfg := if_pos htcp

/-- The number of unread records of the TCP send queue. -/
theorem queueTcpFileCountRecords_sound (h : d.flash.Sound) (htcp : queueIsTcpSendQ cfg = true)
    (hsize : (d.overflowBytes cfg).length = d.q.fileSize) {rs : List α}
    (hrs : (queueFraming cfg).Framed ((d.overflowBytes cfg).drop d.q.fileReadOffset) rs) :
    queueTcpFileCountRecords cfg d = (rs.length, d) := by
  rw [queueFraming_of_tcp htcp] at hrs
  have hlen : (d.flash.contents (overflowFile cfg)).length = d.q.fileSize := hsize
  simp only [queueTcpFileCountRecords, htcp, not_true_eq_false, if_false]
  by_cases hoff : d.q.fileReadOffset ≥ d.q.fileSize
  · have hnil : (d.overflowBytes cfg).drop d.q.fileReadOffset = [] :=
      List.drop_eq_nil_iff.mpr (by omega)
    rw [if_pos hoff, hrs.eq_nil_iff.mpr hnil, List.length_nil]
  · have hne : d.overflowBytes cfg ≠ [] := by
      intro hnil
      rw [hnil, List.length_nil] at hsize
      omega
    have hcount := countRecordsLoop_sound h .rb hrs d.q.fileSize 0 d.q.fileReadOffset
      rfl (by omega)
    rw [hlen] at hcount
    rw [if_neg hoff, wmSdkFileOpen_rb_some h (files_of_overflowBytes rfl hne)]
    simp only [hcount, wmSdkFileClose_sound h]

/-- Peeking at an unread record of the TCP send queue. -/
theorem queueFilePeekElement_sound (h : d.flash.Sound) (hcfg : cfg.WellFormed)
    (htcp : queueIsTcpSendQ cfg = true)
    (hsize : (d.overflowBytes cfg).length = d.q.fileSize) {rs : List α}
    (hrs : (queueFraming cfg).Framed ((d.overflowBytes cfg).drop d.q.fileReadOffset) rs)
    {which : Nat} (hw : which < rs.length) :
    queueFilePeekElement cfg d which = (.ok rs[which], d) := by
  rw [queueFraming_of_tcp htcp] at hrs
  have hlen : (d.flash.contents (overflowFile cfg)).length = d.q.fileSize := hsize
  have hoff : d.q.fileReadOffset < d.q.fileSize := by
    by_contra hge
    have hnil : (d.overflowBytes cfg).drop d.q.fileReadOffset = [] :=
      List.drop_eq_nil_iff.mpr (by omega)
    rw [hrs.eq_nil_iff.mpr hnil, List.length_nil] at hw
    exact Nat.not_lt_zero _ hw
  have hne : d.overflowBytes cfg ≠ [] := by
    intro hnil
    rw [hnil, List.length_nil] at hsize
    omega
  obtain ⟨m, hpeek, hm⟩ := peekRecordLoop_sound h .rb hrs 0 d.q.fileReadOffset rfl hw
  rw [hlen] at hpeek
  simp only [queueFilePeekElement, hcfg.hasFile, htcp, not_true_eq_false, if_false, if_true]
  rw [if_neg (by omega), wmSdkFileOpen_rb_some h (files_of_overflowBytes rfl hne)]
  simp only [hpeek, wmSdkFileClose_sound h, Except.map, hm]

end Sound

end WalnutGateway
