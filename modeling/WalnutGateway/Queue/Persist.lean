import WalnutGateway.Queue.Representation

/-!
# Surviving a reset

`queue_manager_persist` writes the ring to `queue_<name>.dat` and hands the read
offset of the overflow file to the pre-boot record; `queue_manager_create` puts
the three together again. The snapshot is three words, `count`, `head` and
`tail`, and the rows from the head on. What is read back is checked word by
word; a snapshot that fails a check is deleted.
-/

namespace WalnutGateway

variable {α : Type}

/-! ## The snapshot -/

/-- The slots `queue_persist_save` walks over: `n` from `idx` on. -/
def Queue.slotsFrom (cfg : QueueConfig α) (q : Queue α) : Nat → Nat → List α
  | 0, _ => []
  | n + 1, idx => q.buffer idx :: q.slotsFrom cfg n ((idx + 1) % cfg.capacity)

/-- The pieces `queue_persist_save` writes, one call each. -/
def Queue.snapshotPieces (cfg : QueueConfig α) (q : Queue α) : List (List Byte) :=
  [leBytes 4 q.count, leBytes 4 q.head, leBytes 4 q.tail] ++
    (q.slotsFrom cfg q.count q.head).map cfg.element.image

/-- The writes of `queue_persist_save`, up to the first that fails or is short. -/
def queuePersistWrite (fs : Flash FlashFile) (fp : FileHandle FlashFile) :
    List (List Byte) → Bool × Flash FlashFile
  | [] => (true, fs)
  | piece :: pieces =>
    let w := wmSdkFileWrite fs fp piece
    if ¬ w.ok ∨ w.written ≠ piece.length then (false, w.flash)
    else queuePersistWrite w.flash w.fp pieces

/-- `queue_persist_save`. -/
def queuePersistSave (cfg : QueueConfig α) (d : Device α) : Result × Device α :=
  if ¬ cfg.persistOnReboot then (.invalidParam, d) else
  match wmSdkFileOpen d.flash (snapshotFile cfg) .wb with
  | (none, fs) => (.error, { d with flash := fs })
  | (some fp, fs) =>
    let w := queuePersistWrite fs fp (d.q.snapshotPieces cfg)
    (if w.1 then .success else .error, { d with flash := (wmSdkFileClose w.2).2 })

/-- A word of the snapshot, if it can be read in full. -/
def queuePersistReadWord (fs : Flash FlashFile) (fp : FileHandle FlashFile) :
    Option Nat × FileHandle FlashFile × Flash FlashFile :=
  let r := wmSdkFileRead fs fp 4
  (if ¬ r.ok ∨ r.data.length ≠ 4 then none else some (leNat r.data), r.fp, r.flash)

/-- `count`, `head` and `tail`, if they can be read and pass the range checks. -/
def queuePersistReadHeader (cfg : QueueConfig α) (fs : Flash FlashFile)
    (fp : FileHandle FlashFile) :
    Option (Nat × Nat × Nat) × FileHandle FlashFile × Flash FlashFile :=
  match queuePersistReadWord fs fp with
  | (none, fp, fs) => (none, fp, fs)
  | (some count, fp, fs) =>
    match queuePersistReadWord fs fp with
    | (none, fp, fs) => (none, fp, fs)
    | (some head, fp, fs) =>
      match queuePersistReadWord fs fp with
      | (none, fp, fs) => (none, fp, fs)
      | (some tail, fp, fs) =>
        if count > cfg.capacity ∨ head ≥ cfg.capacity ∨ tail ≥ cfg.capacity then (none, fp, fs)
        else (some (count, head, tail), fp, fs)

/-- The loop of `queue_persist_load` that fills the buffer: true if every row
could be read. -/
def queuePersistReadRows (cfg : QueueConfig α) :
    Nat → Nat → FileHandle FlashFile → Flash FlashFile → (Nat → α) →
      Bool × Flash FlashFile × (Nat → α)
  | 0, _, _, fs, buffer => (true, fs, buffer)
  | n + 1, idx, fp, fs, buffer =>
    let r := wmSdkFileRead fs fp cfg.elementSize
    if ¬ r.ok ∨ r.data.length ≠ cfg.elementSize then (false, r.flash, buffer)
    else queuePersistReadRows cfg n ((idx + 1) % cfg.capacity) r.fp r.flash
      (Function.update buffer idx (cfg.element.ofImage r.data))

/-- The way out of `queue_persist_load` when something is wrong. -/
def queuePersistReject (cfg : QueueConfig α) (d : Device α) (fs : Flash FlashFile) :
    Result × Device α :=
  (.error, { d with flash := (wmSdkFileDelete (wmSdkFileClose fs).2 (snapshotFile cfg)).2 })

/-- `queue_persist_load`. -/
def queuePersistLoad (cfg : QueueConfig α) (d : Device α) : Result × Device α :=
  if ¬ cfg.persistOnReboot then (.invalidParam, d) else
  match wmSdkFileOpen d.flash (snapshotFile cfg) .rb with
  | (none, fs) => (.success, { d with flash := fs })
  | (some fp, fs) =>
    match queuePersistReadHeader cfg fs fp with
    | (none, _, fs) => queuePersistReject cfg d fs
    | (some (count, head, tail), fp, fs) =>
      let r := queuePersistReadRows cfg count head fp fs d.q.buffer
      let q := { d.q with count := 0, head := 0, tail := 0, buffer := r.2.2 }
      if r.1 then
        (.success, { d with
          flash := (wmSdkFileClose r.2.1).2
          q := { q with count := count, head := head, tail := tail } })
      else queuePersistReject cfg { d with q := q } r.2.1

/-- `queue_overflow_drained_locked`. -/
def queueOverflowDrainedLocked (cfg : QueueConfig α) (q : Queue α) : Bool :=
  if ¬ queueHasFile cfg ∨ q.fileSize = 0 then true else q.fileReadOffset ≥ q.fileSize

/-- `queue_persist_delete_snapshot`. -/
def queuePersistDeleteSnapshot (cfg : QueueConfig α) (d : Device α) : Result × Device α :=
  if ¬ cfg.persistOnReboot then (.success, d) else
  let e := wmSdkFileExists d.flash (snapshotFile cfg)
  if ¬ e.1 then (.success, { d with flash := e.2 }) else
  let x := wmSdkFileDelete e.2 (snapshotFile cfg)
  if ¬ x.1 then (.error, { d with flash := x.2 }) else (.success, { d with flash := x.2 })

/-- `queue_persist_clear_snapshot_after_consume`. -/
def queuePersistClearSnapshotAfterConsume (cfg : QueueConfig α) (d : Device α) :
    Result × Device α :=
  if ¬ cfg.persistOnReboot then (.success, d) else
  if d.q.count ≠ 0 then (.success, d) else
  if queueOverflowDrainedLocked cfg d.q ∧ queueIsTcpSendQ cfg then
    queuePersistDeleteSnapshot cfg { d with toPreBootStore := d.clearTcpSendQueueOffset.2 }
  else queuePersistDeleteSnapshot cfg d

/-! ## The saved offset -/

/-- `queue_tcp_restore_saved_file_offset`. -/
def queueTcpRestoreSavedFileOffset (cfg : QueueConfig α) (d : Device α) : Result × Device α :=
  if ¬ queueIsTcpSendQ cfg ∨ d.q.fileSize = 0 then (.success, d) else
  let t := d.takeTcpSendQueueOffset
  let d := { d with toPreBootStore := t.2 }
  match t.1 with
  | none => (.success, d)
  | some savedOffset =>
    if savedOffset > d.q.fileSize then
      (.error, { d with q := { d.q with fileReadOffset := 0 } })
    else if savedOffset = d.q.fileSize then (.success, queueFileReset cfg d)
    else (.success, { d with q := { d.q with fileReadOffset := savedOffset } })

/-- `queue_tcp_persist_file_offset`. -/
def queueTcpPersistFileOffset (cfg : QueueConfig α) (d : Device α) : Result × Device α :=
  if ¬ queueIsTcpSendQ cfg then (.success, d) else
  if d.q.fileSize = 0 ∨ d.q.fileReadOffset ≥ d.q.fileSize then
    (d.clearTcpSendQueueOffset.1, { d with toPreBootStore := d.clearTcpSendQueueOffset.2 })
  else
    ((d.saveTcpSendQueueOffset d.q.fileReadOffset).1,
      { d with toPreBootStore := (d.saveTcpSendQueueOffset d.q.fileReadOffset).2 })

/-! ## Create and persist -/

/-- `queue_file_restore`. -/
def queueFileRestore (cfg : QueueConfig α) (d : Device α) : Result × Device α :=
  if ¬ queueHasFile cfg then (.invalidParam, d) else
  let e := wmSdkFileExists d.flash (overflowFile cfg)
  if ¬ e.1 then (.success, { d with flash := e.2 }) else
  match wmSdkFileOpen e.2 (overflowFile cfg) .rb with
  | (none, fs) => (.success, { d with flash := fs })
  | (some fp, fs) =>
    let g := wmSdkFileGetSize fs fp
    let fileSize := g.1.getD 0
    let fs := (wmSdkFileClose g.2).2
    if fileSize = 0 then
      (.success, { d with flash := (wmSdkFileDelete fs (overflowFile cfg)).2 })
    else
      let d := { d with
        flash := fs, q := { d.q with fileSize := fileSize, fileReadOffset := 0 } }
      (.success,
        if queueIsTcpSendQ cfg then (queueTcpRestoreSavedFileOffset cfg d).2 else d)

/-- The zeroed queue that `queue_manager_create` starts from; the buffer holds
whatever the allocator returned. -/
def Device.zeroed (s : PreBootStore) (buffer : Nat → α) : Device α where
  toPreBootStore := s
  q := ⟨0, 0, 0, buffer, 0, 0⟩

/-- `queue_manager_create`, memory and mutex being available. -/
def queueManagerCreate (cfg : QueueConfig α) (s : PreBootStore) (buffer : Nat → α) : Device α :=
  let d := Device.zeroed s buffer
  let d := if cfg.persistOnReboot then (queuePersistLoad cfg d).2 else d
  if queueHasFile cfg then (queueFileRestore cfg d).2 else d

/-- `queue_manager_persist`. -/
def queueManagerPersist (cfg : QueueConfig α) (d : Device α) : Result × Device α :=
  if ¬ cfg.persistOnReboot then (.success, d) else
  let s := queuePersistSave cfg d
  if s.1.isError then s else queueTcpPersistFileOffset cfg s.2

/-- A boot of the device: RAM is lost, then `pre_boot_handler_load_prior_reset`
and `queue_manager_create` run. -/
def bootQueue (cfg : QueueConfig α) (flash : Flash FlashFile) (buffer : Nat → α) : Device α :=
  queueManagerCreate cfg (PreBootStore.powerOn flash).loadPriorReset.2 buffer

/-! ## What a snapshot says -/

/-- The contents of a snapshot file that is accepted. -/
structure Snapshot (α : Type) where
  count : Nat
  head : Nat
  tail : Nat
  /-- The rows from the head on. -/
  rows : List α

/-- The bytes of the snapshot of a queue. -/
def snapshotBytes (cfg : QueueConfig α) (q : Queue α) : List Byte := (q.snapshotPieces cfg).flatten

/-- As many elements as asked for, one behind the other. -/
def snapshotRows (cfg : QueueConfig α) : Nat → List Byte → Option (List α)
  | 0, _ => some []
  | n + 1, bs =>
    if bs.length < cfg.elementSize then none
    else (snapshotRows cfg n (bs.drop cfg.elementSize)).map
      (cfg.element.ofImage (bs.take cfg.elementSize) :: ·)

/-- The words a file starts with, if they are all there and in range. -/
def snapshotHeader (cfg : QueueConfig α) (bs : List Byte) : Option (Nat × Nat × Nat) :=
  if bs.length < 12 then none else
  let count := leNat (bs.take 4)
  let head := leNat ((bs.drop 4).take 4)
  let tail := leNat ((bs.drop 8).take 4)
  if count > cfg.capacity ∨ head ≥ cfg.capacity ∨ tail ≥ cfg.capacity then none
  else some (count, head, tail)

/-- The snapshot found in a file, `none` if it is to be rejected. -/
def snapshotParse (cfg : QueueConfig α) (bs : List Byte) : Option (Snapshot α) :=
  match snapshotHeader cfg bs with
  | none => none
  | some (count, head, tail) =>
    (snapshotRows cfg count (bs.drop 12)).map (⟨count, head, tail, ·⟩)

/-- The queue with the ring of a snapshot. -/
def Queue.withSnapshot (cfg : QueueConfig α) (q : Queue α) (s : Snapshot α) : Queue α :=
  { q with
    count := s.count
    head := s.head
    tail := s.tail
    buffer := ringFill cfg.capacity q.buffer s.head s.rows }

section Snapshots

variable {cfg : QueueConfig α} {q : Queue α}

/-- The loop of `queue_persist_save` visits the rows of the ring. -/
theorem slotsFrom_eq_ringWindow (q : Queue α) (n : Nat) {idx : Nat} (h : idx < cfg.capacity) :
    q.slotsFrom cfg n idx = ringWindow q.buffer cfg.capacity idx n := by
  induction n generalizing idx with
  | zero => rfl
  | succ n ih =>
    have hnext : (idx + 1) % cfg.capacity < cfg.capacity := Nat.mod_lt _ (by omega)
    rw [Queue.slotsFrom, ih hnext, ringWindow_succ _ h]

/-- A snapshot does not look at the overflow file. -/
theorem snapshotBytes_withFile (cfg : QueueConfig α) (q : Queue α) (size offset : Nat) :
    snapshotBytes cfg { q with fileSize := size, fileReadOffset := offset } =
      snapshotBytes cfg q := by
  have hslots (n idx : Nat) :
      Queue.slotsFrom cfg { q with fileSize := size, fileReadOffset := offset } n idx =
        q.slotsFrom cfg n idx := by
    induction n generalizing idx with
    | zero => rfl
    | succ n ih => rw [Queue.slotsFrom, Queue.slotsFrom, ih]
  rw [snapshotBytes, snapshotBytes, Queue.snapshotPieces, Queue.snapshotPieces, hslots]

theorem snapshotBytes_eq (h : q.InRange cfg) :
    snapshotBytes cfg q = leBytes 4 q.count ++ (leBytes 4 q.head ++ (leBytes 4 q.tail ++
      ((q.ringRows cfg).map cfg.element.image).flatten)) := by
  rw [snapshotBytes, Queue.snapshotPieces, slotsFrom_eq_ringWindow q q.count h.head_lt]
  simp only [List.flatten_append, List.flatten_cons, List.flatten_nil, List.append_assoc,
    List.nil_append, Queue.ringRows]

/-- The number of rows is the number asked for. -/
theorem length_of_snapshotRows {n : Nat} {bs : List Byte} {rows : List α}
    (h : snapshotRows cfg n bs = some rows) : rows.length = n := by
  induction n generalizing bs rows with
  | zero =>
    cases h
    rfl
  | succ n ih =>
    rw [snapshotRows] at h
    split at h
    · contradiction
    · obtain ⟨rest, hrest, rfl⟩ := Option.map_eq_some_iff.mp h
      rw [List.length_cons, ih hrest]

/-- Rows without pointers are read back. -/
theorem snapshotRows_flatten {rows : List α} (h : ∀ x ∈ rows, cfg.element.Plain x) :
    snapshotRows cfg rows.length (rows.map cfg.element.image).flatten = some rows := by
  induction rows with
  | nil => rfl
  | cons x rows ih =>
    have hx := cfg.element.length_image x
    rw [List.length_cons, snapshotRows, List.map_cons, List.flatten_cons, List.length_append, hx,
      QueueConfig.elementSize, if_neg (by omega), List.drop_left' hx, List.take_left' hx,
      cfg.element.ofImage_image x (h x List.mem_cons_self),
      ih fun y hy => h y (List.mem_cons_of_mem _ hy), Option.map_some]

/-- A snapshot of rows without pointers says what the ring was. -/
theorem snapshotParse_snapshotBytes (hcap : cfg.capacity < 2 ^ 32) (h : q.InRange cfg)
    (hplain : ∀ x ∈ q.ringRows cfg, cfg.element.Plain x) :
    snapshotParse cfg (snapshotBytes cfg q) =
      some ⟨q.count, q.head, q.tail, q.ringRows cfg⟩ := by
  have hhead := h.head_lt
  have htail := h.tail_lt
  have hcount := h.count_le
  have hword {v : Nat} (hv : v ≤ cfg.capacity) : leNat (leBytes 4 v) = v :=
    leNat_leBytes (hv.trans_lt hcap)
  have h4 (v : Nat) : (leBytes 4 v).length = 4 := length_leBytes ..
  have hrows := snapshotRows_flatten hplain
  rw [length_ringRows] at hrows
  have h0 : leNat ((snapshotBytes cfg q).take 4) = q.count := by
    rw [snapshotBytes_eq h, List.take_left' (h4 _), hword hcount]
  have h1 : leNat (((snapshotBytes cfg q).drop 4).take 4) = q.head := by
    rw [snapshotBytes_eq h, List.drop_left' (h4 _), List.take_left' (h4 _), hword hhead.le]
  have h2 : leNat (((snapshotBytes cfg q).drop 8).take 4) = q.tail := by
    rw [snapshotBytes_eq h, show 8 = 4 + 4 from rfl, ← List.drop_drop, List.drop_left' (h4 _),
      List.drop_left' (h4 _), List.take_left' (h4 _), hword htail.le]
  have h3 : (snapshotBytes cfg q).drop 12 = ((q.ringRows cfg).map cfg.element.image).flatten := by
    rw [snapshotBytes_eq h, show 12 = 4 + (4 + 4) from rfl, ← List.drop_drop, ← List.drop_drop,
      List.drop_left' (h4 _), List.drop_left' (h4 _), List.drop_left' (h4 _)]
  have hlen : ¬ (snapshotBytes cfg q).length < 12 := by
    rw [snapshotBytes_eq h]
    simp only [List.length_append, h4]
    omega
  have hheader : snapshotHeader cfg (snapshotBytes cfg q) = some (q.count, q.head, q.tail) := by
    simp only [snapshotHeader, h0, h1, h2]
    rw [if_neg hlen, if_neg (by omega)]
  simp only [snapshotParse, hheader, h3, hrows, Option.map_some]

/-- What an accepted snapshot guarantees about its indices. -/
theorem snapshotParse_range {bs : List Byte} {s : Snapshot α}
    (h : snapshotParse cfg bs = some s) :
    s.count ≤ cfg.capacity ∧ s.head < cfg.capacity ∧ s.tail < cfg.capacity ∧
      s.rows.length = s.count := by
  cases hh : snapshotHeader cfg bs with
  | none => simp [snapshotParse, hh] at h
  | some words =>
    obtain ⟨count, head, tail⟩ := words
    simp only [snapshotParse, hh] at h
    obtain ⟨rows, hrows, rfl⟩ := Option.map_eq_some_iff.mp h
    simp only [snapshotHeader] at hh
    split at hh
    · contradiction
    · split at hh
      · contradiction
      · rename_i hrange
        cases hh
        exact ⟨by dsimp only; omega, by dsimp only; omega, by dsimp only; omega,
          length_of_snapshotRows hrows⟩

/-- The ring of a snapshot holds the snapshot's rows. -/
theorem ringRows_withSnapshot {bs : List Byte} {s : Snapshot α}
    (h : snapshotParse cfg bs = some s) (q : Queue α) :
    (q.withSnapshot cfg s).ringRows cfg = s.rows := by
  obtain ⟨hcount, hhead, -, hlen⟩ := snapshotParse_range h
  have hfill := ringWindow_ringFill s.rows q.buffer hhead (hlen.le.trans hcount)
  rwa [hlen] at hfill

end Snapshots

/-! ## A flash where nothing fails -/

section Sound

variable {cfg : QueueConfig α} {d : Device α}

/-- The writes put the pieces one behind the other. -/
theorem queuePersistWrite_sound {fs : Flash FlashFile} (h : fs.Sound) (path : FlashFile)
    (pieces : List (List Byte)) (bytes : List Byte) :
    queuePersistWrite (fs.put path bytes) ⟨path, .wb, bytes.length⟩ pieces =
      (true, fs.put path (bytes ++ pieces.flatten)) := by
  induction pieces generalizing bytes with
  | nil => rw [queuePersistWrite, List.flatten_nil, List.append_nil]
  | cons piece pieces ih =>
    have hover : (⟨path, .wb, bytes.length⟩ : FileHandle FlashFile).overwrite bytes piece =
        bytes ++ piece := by
      simp [FileHandle.overwrite]
    simp only [queuePersistWrite, wmSdkFileWrite_sound (h.put path bytes), Flash.contents_put,
      hover, Flash.put_put, not_true_eq_false, ne_eq, or_self, if_false]
    rw [← List.length_append, ih, List.flatten_cons, List.append_assoc]

theorem queuePersistSave_sound (h : d.flash.Sound) (hp : cfg.persistOnReboot = true) :
    queuePersistSave cfg d =
      (.success, { d with flash := d.flash.put (snapshotFile cfg) (snapshotBytes cfg d.q) }) := by
  have hw := queuePersistWrite_sound h (snapshotFile cfg) (d.q.snapshotPieces cfg) []
  simp only [List.length_nil, List.nil_append] at hw
  simp only [queuePersistSave, hp, not_true_eq_false, if_false, wmSdkFileOpen_wb h, hw,
    wmSdkFileClose_sound (h.put _ _), if_true]
  rfl

theorem queuePersistReadWord_sound {fs : Flash FlashFile} (h : fs.Sound) (path : FlashFile)
    (mode : FileMode) (pos : Nat) :
    ∃ fp, queuePersistReadWord fs ⟨path, mode, pos⟩ =
        (if (fs.contents path).length < pos + 4 then none
          else some (leNat (((fs.contents path).drop pos).take 4)), fp, fs) ∧
      (pos + 4 ≤ (fs.contents path).length → fp = ⟨path, mode, pos + 4⟩) := by
  have hlen : (((fs.contents path).drop pos).take 4).length =
      min 4 ((fs.contents path).length - pos) := by
    rw [List.length_take, List.length_drop]
  refine ⟨⟨path, mode, pos + min 4 ((fs.contents path).length - pos)⟩, ?_, ?_⟩
  · simp only [queuePersistReadWord, wmSdkFileRead_sound h, hlen]
    by_cases hshort : (fs.contents path).length < pos + 4
    · rw [if_pos hshort, if_pos (Or.inr (by omega))]
    · rw [if_neg hshort, if_neg (by simp; omega)]
  · intro hroom
    rw [show min 4 ((fs.contents path).length - pos) = 4 by omega]

/-- The header is read at the start of the file, up to the rows. -/
theorem queuePersistReadHeader_sound (cfg : QueueConfig α) {fs : Flash FlashFile} (h : fs.Sound)
    (path : FlashFile)
    (mode : FileMode) :
    ∃ fp, queuePersistReadHeader cfg fs ⟨path, mode, 0⟩ =
        (snapshotHeader cfg (fs.contents path), fp, fs) ∧
      ((snapshotHeader cfg (fs.contents path)).isSome → fp = ⟨path, mode, 12⟩) := by
  obtain ⟨fp1, hread1, hfp1⟩ := queuePersistReadWord_sound h path mode 0
  obtain ⟨fp2, hread2, hfp2⟩ := queuePersistReadWord_sound h path mode 4
  obtain ⟨fp3, hread3, hfp3⟩ := queuePersistReadWord_sound h path mode 8
  simp only [queuePersistReadHeader, snapshotHeader, hread1]
  by_cases h1 : (fs.contents path).length < 0 + 4
  · rw [if_pos h1, if_pos (by omega)]
    exact ⟨fp1, rfl, fun hs => Bool.noConfusion hs⟩
  · rw [if_neg h1, hfp1 (by omega)]
    simp only [Nat.zero_add, hread2]
    by_cases h2 : (fs.contents path).length < 4 + 4
    · rw [if_pos h2, if_pos (by omega)]
      exact ⟨fp2, rfl, fun hs => Bool.noConfusion hs⟩
    · rw [if_neg h2, hfp2 (by omega)]
      simp only [hread3]
      by_cases h3 : (fs.contents path).length < 8 + 4
      · rw [if_pos h3, if_pos (by omega)]
        exact ⟨fp3, rfl, fun hs => Bool.noConfusion hs⟩
      · rw [if_neg h3, if_neg (by omega), List.drop_zero]
        dsimp only
        refine ⟨fp3, ?_, fun _ => hfp3 (by omega)⟩
        split <;> rfl

/-- The loop reads the elements and fills the ring from `idx` on. -/
theorem queuePersistReadRows_sound (cfg : QueueConfig α) {fs : Flash FlashFile} (h : fs.Sound)
    (path : FlashFile)
    (mode : FileMode) (n idx pos : Nat) (buffer : Nat → α) :
    ∃ buffer', queuePersistReadRows cfg n idx ⟨path, mode, pos⟩ fs buffer =
        ((snapshotRows cfg n ((fs.contents path).drop pos)).isSome, fs, buffer') ∧
      ∀ rows, snapshotRows cfg n ((fs.contents path).drop pos) = some rows →
        buffer' = ringFill cfg.capacity buffer idx rows := by
  induction n generalizing idx pos buffer with
  | zero =>
    refine ⟨buffer, rfl, ?_⟩
    rintro rows hrows
    cases hrows
    rfl
  | succ n ih =>
    have hlen : (((fs.contents path).drop pos).take cfg.elementSize).length =
        min cfg.elementSize ((fs.contents path).drop pos).length := List.length_take ..
    simp only [queuePersistReadRows, wmSdkFileRead_sound h, snapshotRows, hlen]
    by_cases hshort : ((fs.contents path).drop pos).length < cfg.elementSize
    · rw [if_pos hshort, if_pos (Or.inr (by omega))]
      exact ⟨buffer, rfl, fun _ hrows => absurd hrows (Option.some_ne_none _).symm⟩
    · rw [if_neg hshort, if_neg (by simp only [not_true_eq_false, false_or]; omega),
        show min cfg.elementSize ((fs.contents path).drop pos).length = cfg.elementSize by omega,
        List.drop_drop]
      obtain ⟨buffer', hread, hfill⟩ := ih ((idx + 1) % cfg.capacity) (pos + cfg.elementSize)
        (Function.update buffer idx
          (cfg.element.ofImage (((fs.contents path).drop pos).take cfg.elementSize)))
      refine ⟨buffer', by rw [hread, Option.isSome_map], ?_⟩
      intro rows hrows
      obtain ⟨rest, hrest, rfl⟩ := Option.map_eq_some_iff.mp hrows
      rw [hfill rest hrest, ringFill]

/-- A snapshot is restored as it is, a broken one deleted. -/
theorem queuePersistLoad_sound (h : d.flash.Sound) (hp : cfg.persistOnReboot = true) :
    (d.flash.files (snapshotFile cfg) = none ∧ queuePersistLoad cfg d = (.success, d)) ∨
    ∃ bytes, d.flash.files (snapshotFile cfg) = some bytes ∧
      match snapshotParse cfg bytes with
      | some s => queuePersistLoad cfg d = (.success, { d with q := d.q.withSnapshot cfg s })
      | none => ∃ q, queuePersistLoad cfg d =
          (.error, { d with flash := d.flash.erase (snapshotFile cfg), q := q }) ∧
          (q = d.q ∨ ∃ buffer, q = { d.q with count := 0, head := 0, tail := 0, buffer }) := by
  cases hf : d.flash.files (snapshotFile cfg) with
  | none =>
    refine Or.inl ⟨rfl, ?_⟩
    simp only [queuePersistLoad, hp, not_true_eq_false, if_false, wmSdkFileOpen_rb_none h hf]
  | some bytes =>
    refine Or.inr ⟨bytes, rfl, ?_⟩
    have hbytes : d.flash.contents (snapshotFile cfg) = bytes := Flash.contents_of_files hf
    obtain ⟨fp, hheader, hfp⟩ := queuePersistReadHeader_sound cfg h (snapshotFile cfg) .rb
    rw [hbytes] at hheader hfp
    simp only [queuePersistLoad, hp, not_true_eq_false, if_false, wmSdkFileOpen_rb_some h hf,
      hheader, snapshotParse]
    cases hwords : snapshotHeader cfg bytes with
    | none =>
      refine ⟨d.q, ?_, Or.inl rfl⟩
      simp only [queuePersistReject, wmSdkFileClose_sound h, wmSdkFileDelete_sound h]
    | some words =>
      obtain ⟨count, head, tail⟩ := words
      rw [hfp (by rw [hwords]; rfl)]
      obtain ⟨buffer, hrows, hfill⟩ := queuePersistReadRows_sound cfg h
        (snapshotFile cfg) .rb count head 12 d.q.buffer
      rw [hbytes] at hrows hfill
      simp only [hrows]
      cases hr : snapshotRows cfg count (bytes.drop 12) with
      | none =>
        refine ⟨_, ?_, Or.inr ⟨buffer, rfl⟩⟩
        simp only [Option.isSome_none, Bool.false_eq_true, if_false, queuePersistReject,
          wmSdkFileClose_sound h, wmSdkFileDelete_sound h]
      | some rows =>
        simp only [Option.isSome_some, if_true, wmSdkFileClose_sound h, Option.map_some,
          Queue.withSnapshot, hfill rows hr]

end Sound

end WalnutGateway
