import WalnutGateway.Queue.Operations

/-!
# What a queue call leaves alone

Whatever the flash driver does, a queue call touches one file and no pre-boot
record, and leaves indices that are in range and a read offset before the end
of the file. Reads, peeks and appends do not move the ring either.
-/

namespace WalnutGateway

variable {α : Type}

/-- The indices are in range, and reading stands before the end of the file. -/
structure Queue.Sane (cfg : QueueConfig α) (q : Queue α) : Prop extends q.InRange cfg where
  read_lt : q.fileReadOffset < q.fileSize ∨ (q.fileReadOffset = 0 ∧ q.fileSize = 0)

/-- At most the queue and its overflow file differ, and the queue is as sane as before. -/
structure Device.QueueEffect (cfg : QueueConfig α) (d d' : Device α) : Prop where
  sDisk : d'.sDisk = d.sDisk
  cacheHave : d'.cacheHave = d.cacheHave
  files : d.flash.SameBut (overflowFile cfg) d'.flash
  sane : d.q.Sane cfg → d'.q.Sane cfg
  size_le : d.q.fileSize ≤ uint32Max → d'.q.fileSize ≤ uint32Max

/-- The ring does not differ either. -/
structure Device.FileEffect (cfg : QueueConfig α) (d d' : Device α) : Prop
    extends d.QueueEffect cfg d' where
  ring : ∃ size offset, d'.q = { d.q with fileSize := size, fileReadOffset := offset }

section Effects

variable {cfg : QueueConfig α} {d d' d'' : Device α}

theorem Device.QueueEffect.refl (cfg : QueueConfig α) (d : Device α) : d.QueueEffect cfg d :=
  ⟨rfl, rfl, .refl _ _, id, id⟩

theorem Device.QueueEffect.trans (h : d.QueueEffect cfg d') (h' : d'.QueueEffect cfg d'') :
    d.QueueEffect cfg d'' :=
  ⟨h'.sDisk.trans h.sDisk, h'.cacheHave.trans h.cacheHave, h.files.trans h'.files,
    h'.sane ∘ h.sane, h'.size_le ∘ h.size_le⟩

/-- The copy of the pre-boot record is as valid as before. -/
theorem Device.QueueEffect.cacheOk (h : d.QueueEffect cfg d') (hd : d.CacheOk) : d'.CacheOk := by
  intro hhave
  rw [h.sDisk]
  exact hd (h.cacheHave.symm.trans hhave)

theorem Device.FileEffect.refl (cfg : QueueConfig α) (d : Device α) : d.FileEffect cfg d :=
  ⟨.refl _ _, _, _, rfl⟩

theorem Device.FileEffect.trans (h : d.FileEffect cfg d') (h' : d'.FileEffect cfg d'') :
    d.FileEffect cfg d'' := by
  obtain ⟨size, offset, hq⟩ := h.ring
  obtain ⟨size', offset', hq'⟩ := h'.ring
  exact ⟨h.toQueueEffect.trans h'.toQueueEffect, size', offset', by rw [hq', hq]⟩

/-- Only the flash differs. -/
theorem Device.FileEffect.of_flash (d : Device α) {fs : Flash FlashFile}
    (h : d.flash.SameBut (overflowFile cfg) fs) : d.FileEffect cfg { d with flash := fs } :=
  ⟨⟨rfl, rfl, h, id, id⟩, _, _, rfl⟩

/-- The file and the two fields about it differ. -/
theorem Device.FileEffect.of_file (d : Device α) {fs : Flash FlashFile} {size offset : Nat}
    (h : d.flash.SameBut (overflowFile cfg) fs)
    (hread : d.q.Sane cfg → offset < size ∨ (offset = 0 ∧ size = 0))
    (hsize : d.q.fileSize ≤ uint32Max → size ≤ uint32Max) :
    d.FileEffect cfg
      { d with flash := fs, q := { d.q with fileSize := size, fileReadOffset := offset } } :=
  ⟨⟨rfl, rfl, h, fun hs => ⟨⟨hs.head_lt, hs.tail_lt, hs.count_le⟩, hread hs⟩, hsize⟩, _, _, rfl⟩

/-- Only the ring differs, and stays in range. -/
theorem Device.QueueEffect.of_ring (d : Device α) {q : Queue α}
    (hsize : q.fileSize = d.q.fileSize) (hoff : q.fileReadOffset = d.q.fileReadOffset)
    (h : d.q.Sane cfg → q.InRange cfg) : d.QueueEffect cfg { d with q := q } where
  sDisk := rfl
  cacheHave := rfl
  files := .refl _ _
  sane hs := ⟨h hs, by rw [hsize, hoff]; exact hs.read_lt⟩
  size_le := by rw [hsize]; exact id

end Effects

/-! ## The overflow file -/

section Calls

variable {cfg : QueueConfig α}

theorem queueFileReset_effect (d : Device α) : d.FileEffect cfg (queueFileReset cfg d) :=
  .of_file d (wmSdkFileDelete_sameBut _ _) (fun _ => Or.inr ⟨rfl, rfl⟩) fun _ => Nat.zero_le _

/-- Room is made for a record that fits a 32-bit word. -/
theorem queueFileMakeRoom_effect (hmax : cfg.maxFileSize ≤ uint32Max) (d : Device α) {n : Nat}
    (hn : n ≤ uint32Max) :
    d.FileEffect cfg (queueFileMakeRoom cfg d n) ∧
      (queueFileMakeRoom cfg d n).q.fileSize + n ≤ uint32Max := by
  have hguard (e : Device α) (he : d.FileEffect cfg e) :
      d.FileEffect cfg
          (if e.q.fileSize + n > cfg.maxFileSize then queueFileReset cfg e else e) ∧
        (if e.q.fileSize + n > cfg.maxFileSize then queueFileReset cfg e else e).q.fileSize + n ≤
          uint32Max := by
    split
    · refine ⟨he.trans (queueFileReset_effect e), ?_⟩
      change 0 + n ≤ uint32Max
      omega
    · exact ⟨he, by omega⟩
  unfold queueFileMakeRoom
  dsimp only
  by_cases hwide : n > uint32Max - d.q.fileSize
  · rw [if_pos hwide]
    exact hguard _ (queueFileReset_effect d)
  · rw [if_neg hwide]
    exact hguard d (.refl cfg d)

theorem queueTcpFileWriteCompactRecord_sameBut {π : Type} [DecidableEq π] (fs : Flash π)
    (fp : FileHandle π) (m : ModuleMessage) :
    fs.SameBut fp.path (queueTcpFileWriteCompactRecord fs fp m).2.2 := by
  unfold queueTcpFileWriteCompactRecord
  cases queueTcpPayloadLenFromMessage m with
  | none => exact .refl _ _
  | some x =>
    obtain ⟨payloadLen, payload⟩ := x
    obtain ⟨hhdr, hpath⟩ :=
      wmSdkFileWrite_sameBut fs fp (leBytes 2 payloadLen ++ [payload.getD 2 0])
    have hbody := (wmSdkFileWrite_sameBut
      (wmSdkFileWrite fs fp (leBytes 2 payloadLen ++ [payload.getD 2 0])).flash
      (wmSdkFileWrite fs fp (leBytes 2 payloadLen ++ [payload.getD 2 0])).fp
      (memRead payload payloadLen)).1
    rw [hpath] at hbody
    dsimp only
    split
    · exact .refl _ _
    · split
      · exact .refl _ _
      · split
        · exact hhdr
        · split <;> exact hhdr.trans hbody

theorem queueFileWriteElem_sameBut (cfg : QueueConfig α) (fs : Flash FlashFile)
    (fp : FileHandle FlashFile) (elem : α) :
    fs.SameBut fp.path (queueFileWriteElem cfg fs fp elem).2.2 := by
  unfold queueFileWriteElem
  split
  · exact queueTcpFileWriteCompactRecord_sameBut fs fp _
  · dsimp only
    split <;> exact (wmSdkFileWrite_sameBut ..).1

/-- No more is counted as written than room was made for. -/
theorem queueFileWriteElem_size_le (fs : Flash FlashFile) (fp : FileHandle FlashFile) {elem : α}
    {n : Nat} (hn : queueFileRecordSize cfg elem = some n) :
    (queueFileWriteElem cfg fs fp elem).2.1 ≤ n := by
  unfold queueFileRecordSize at hn
  unfold queueFileWriteElem
  split at hn
  · rename_i htcp
    rw [if_pos htcp, queueTcpFileWriteCompactRecord]
    cases hp : queueTcpPayloadLenFromMessage (cfg.element.asMessage elem) with
    | none => exact Nat.zero_le _
    | some x =>
      obtain ⟨payloadLen, payload⟩ := x
      simp only [hp] at hn ⊢
      split at hn
      · contradiction
      · rename_i h0
        cases hn
        rw [if_neg h0]
        split
        · exact Nat.zero_le _
        · split
          · exact Nat.zero_le _
          · split
            · exact Nat.zero_le _
            · exact le_rfl
  · rename_i hraw
    cases hn
    rw [if_neg hraw]
    dsimp only
    split
    · exact Nat.zero_le _
    · exact le_rfl

/-- A compact record is a 16-bit length and a header. -/
theorem queueFileRecordSize_le (htcp : queueIsTcpSendQ cfg = true) {elem : α} {n : Nat}
    (hn : queueFileRecordSize cfg elem = some n) : n ≤ uint32Max := by
  unfold queueFileRecordSize at hn
  rw [if_pos htcp] at hn
  cases hp : queueTcpPayloadLenFromMessage (cfg.element.asMessage elem) with
  | none => simp [hp] at hn
  | some x =>
    obtain ⟨payloadLen, payload⟩ := x
    simp only [hp] at hn
    split at hn
    · contradiction
    · cases hn
      have hlen : payloadLen < 2 ^ 16 := queueTcpPayloadLenFromMessage_lt hp
      rw [uint32Max]
      omega

theorem queueFileAppend_effect (htcp : queueIsTcpSendQ cfg = true)
    (hmax : cfg.maxFileSize ≤ uint32Max) (d : Device α) (elem : α) :
    d.FileEffect cfg (queueFileAppend cfg d elem).2 := by
  unfold queueFileAppend
  split
  · exact .refl _ _
  · cases hn : queueFileRecordSize cfg elem with
    | none => exact .refl _ _
    | some n =>
      obtain ⟨hroom, hfit⟩ := queueFileMakeRoom_effect hmax d (queueFileRecordSize_le htcp hn)
      have hopen := wmSdkFileOpen_sameBut (queueFileMakeRoom cfg d n).flash (overflowFile cfg) .ab
      dsimp only
      cases ho : wmSdkFileOpen (queueFileMakeRoom cfg d n).flash (overflowFile cfg) .ab with
      | mk fp fs =>
        rw [ho] at hopen
        cases fp with
        | none => exact hroom.trans (.of_flash _ hopen)
        | some fp =>
          obtain rfl : fp = ⟨overflowFile cfg, .ab, 0⟩ :=
            wmSdkFileOpen_handle (congrArg Prod.fst ho)
          have hwrite := queueFileWriteElem_sameBut cfg fs ⟨overflowFile cfg, .ab, 0⟩ elem
          have hsize := queueFileWriteElem_size_le fs ⟨overflowFile cfg, .ab, 0⟩ hn
          have hclose := (hopen.trans hwrite).trans (.of_files (wmSdkFileClose_files _))
          dsimp only
          split
          · exact hroom.trans (.of_flash _ hclose)
          · refine hroom.trans (.of_file _ hclose (fun hs => ?_) fun _ => ?_)
            · have hread := hs.read_lt
              omega
            · omega

/-! ### Reading -/

theorem queueTcpReadHdr_files {π : Type} (fs : Flash π) (fp : FileHandle π) (offset : Nat) :
    (queueTcpReadHdr fs fp offset).2.2.files = fs.files := by
  have hread := (wmSdkFileRead_files (wmSdkFileSeek fs fp offset).2
    (wmSdkFileSeek fs fp offset).1 3).trans (wmSdkFileSeek_files fs fp offset)
  unfold queueTcpReadHdr
  dsimp only
  split <;> exact hread

theorem queueTcpFileReadCompactRecord_files {π : Type} (fs : Flash π) (fp : FileHandle π)
    (offset fileSize : Nat) :
    (queueTcpFileReadCompactRecord fs fp offset fileSize).2.files = fs.files := by
  have hhdr := queueTcpReadHdr_files fs fp offset
  unfold queueTcpFileReadCompactRecord
  split
  · rfl
  · split
    · rename_i h
      rw [h] at hhdr
      exact hhdr
    · rename_i payloadLen type fp' fs' h
      rw [h] at hhdr
      have hread := (wmSdkFileRead_files fs' fp' payloadLen).trans hhdr
      split
      · exact hhdr
      · split
        · exact hhdr
        · split
          · exact hhdr
          · dsimp only
            split
            · exact hhdr
            · split <;> exact hread

theorem queueFileReadElem_files (cfg : QueueConfig α) (fs : Flash FlashFile)
    (fp : FileHandle FlashFile) (offset fileSize : Nat) :
    (queueFileReadElem cfg fs fp offset fileSize).2.files = fs.files := by
  have hread := (wmSdkFileRead_files (wmSdkFileSeek fs fp offset).2
    (wmSdkFileSeek fs fp offset).1 cfg.elementSize).trans (wmSdkFileSeek_files fs fp offset)
  unfold queueFileReadElem
  split
  · exact queueTcpFileReadCompactRecord_files ..
  · dsimp only
    split <;> exact hread

theorem countRecordsLoop_files (fileSize fuel : Nat) (fp : FileHandle FlashFile)
    (fs : Flash FlashFile) (offset : Nat) :
    (countRecordsLoop fileSize fuel fp fs offset).2.files = fs.files := by
  induction fuel generalizing fp fs offset with
  | zero => rfl
  | succ fuel ih =>
    have hhdr := queueTcpReadHdr_files fs fp offset
    rw [countRecordsLoop]
    split
    · rfl
    · split
      · rename_i h
        rw [h] at hhdr
        exact hhdr
      · rename_i h
        rw [h] at hhdr
        split
        · exact hhdr
        · split
          · exact hhdr
          · exact (ih ..).trans hhdr

theorem peekRecordLoop_files (fileSize which : Nat) (fp : FileHandle FlashFile)
    (fs : Flash FlashFile) (offset : Nat) :
    (peekRecordLoop fileSize which fp fs offset).2.files = fs.files := by
  induction which generalizing fp fs offset with
  | zero =>
    rw [peekRecordLoop]
    split
    · rfl
    · exact queueTcpFileReadCompactRecord_files ..
  | succ which ih =>
    have hhdr := queueTcpReadHdr_files fs fp offset
    rw [peekRecordLoop]
    split
    · rfl
    · split
      · rename_i h
        rw [h] at hhdr
        exact hhdr
      · rename_i h
        rw [h] at hhdr
        split
        · exact hhdr
        · exact (ih ..).trans hhdr

theorem peekRawElement_files (cfg : QueueConfig α) (q : Queue α) (fs : Flash FlashFile)
    (fp : FileHandle FlashFile) (which : Nat) :
    (peekRawElement cfg q fs fp which).2.files = fs.files := by
  have hread (offset : Nat) := (wmSdkFileRead_files (wmSdkFileSeek fs fp offset).2
    (wmSdkFileSeek fs fp offset).1 cfg.elementSize).trans (wmSdkFileSeek_files fs fp offset)
  unfold peekRawElement
  split
  · rfl
  · dsimp only
    split
    · rfl
    · split
      · rfl
      · split
        · rfl
        · split <;> exact hread _

/-- A read moves the offset to a place before the end, or resets the file. -/
theorem queueFileRead_effect (d : Device α) : d.FileEffect cfg (queueFileRead cfg d).2 := by
  unfold queueFileRead
  split
  · exact .refl _ _
  · split
    · exact .refl _ _
    · have hopen := wmSdkFileOpen_rb_files d.flash (overflowFile cfg)
      split
      · rename_i h
        rw [h] at hopen
        exact .of_flash d (.of_files hopen)
      · rename_i fp fs h
        rw [h] at hopen
        have hclose := ((wmSdkFileClose_files
          (queueFileReadElem cfg fs fp d.q.fileReadOffset d.q.fileSize).2).trans
            (queueFileReadElem_files ..)).trans hopen
        dsimp only
        split
        · exact .of_flash d (.of_files hclose)
        · split
          · exact .of_file d ((Flash.SameBut.of_files hclose).trans (wmSdkFileDelete_sameBut _ _))
              (fun _ => Or.inr ⟨rfl, rfl⟩) fun _ => Nat.zero_le _
          · rename_i hend
            exact .of_file d (.of_files hclose) (fun _ => Or.inl (by omega)) id

theorem queueTcpFileCountRecords_effect (d : Device α) :
    d.FileEffect cfg (queueTcpFileCountRecords cfg d).2 := by
  unfold queueTcpFileCountRecords
  split
  · exact .refl _ _
  · split
    · exact .refl _ _
    · have hopen := wmSdkFileOpen_rb_files d.flash (overflowFile cfg)
      split
      · rename_i h
        rw [h] at hopen
        exact .of_flash d (.of_files hopen)
      · rename_i fp fs h
        rw [h] at hopen
        exact .of_flash d (.of_files (((wmSdkFileClose_files _).trans
          (countRecordsLoop_files ..)).trans hopen))

theorem queueFilePeekElement_effect (d : Device α) (which : Nat) :
    d.FileEffect cfg (queueFilePeekElement cfg d which).2 := by
  unfold queueFilePeekElement
  split
  · exact .refl _ _
  · split
    · exact .refl _ _
    · have hopen := wmSdkFileOpen_rb_files d.flash (overflowFile cfg)
      split
      · rename_i h
        rw [h] at hopen
        exact .of_flash d (.of_files hopen)
      · rename_i fp fs h
        rw [h] at hopen
        refine .of_flash d (.of_files (((wmSdkFileClose_files _).trans ?_).trans hopen))
        split
        · exact peekRecordLoop_files ..
        · exact peekRawElement_files ..

end Calls

/-! ## The operations -/

section Operations

variable {cfg : QueueConfig α} {q : Queue α}

/-- Storing in a ring with room keeps the indices in range. -/
theorem Queue.InRange.storeTail (h : q.InRange cfg) (hc : q.count < cfg.capacity) (data : α) :
    (q.storeTail cfg data).InRange cfg :=
  ⟨h.head_lt, Nat.mod_lt _ (Nat.zero_lt_of_lt hc), hc⟩

theorem Queue.InRange.dropHead (h : q.InRange cfg) : (q.dropHead cfg).InRange cfg :=
  ⟨Nat.mod_lt _ (Nat.zero_lt_of_lt h.head_lt), h.tail_lt, (Nat.sub_le _ _).trans h.count_le⟩

theorem Queue.InRange.dropTail (h : q.InRange cfg) : (q.dropTail cfg).InRange cfg :=
  ⟨h.head_lt, Nat.mod_lt _ (Nat.zero_lt_of_lt h.head_lt), (Nat.sub_le _ _).trans h.count_le⟩

theorem queuePush_effect (htcp : queueIsTcpSendQ cfg = true) (hmax : cfg.maxFileSize ≤ uint32Max)
    (d : Device α) (data : α) : d.QueueEffect cfg (queuePush cfg d data).2 := by
  unfold queuePush
  split
  · exact .refl _ _
  · split
    · split
      · exact .refl _ _
      · have happend := queueFileAppend_effect htcp hmax d (d.q.buffer d.q.head)
        dsimp only
        split
        · exact happend.toQueueEffect
        · refine happend.toQueueEffect.trans (.of_ring _ rfl rfl fun hs => ?_)
          have hcount := hs.count_le
          have hpos := Nat.zero_lt_of_lt hs.head_lt
          refine hs.toInRange.dropHead.storeTail ?_ data
          change (queueFileAppend cfg d (d.q.buffer d.q.head)).2.q.count - 1 < cfg.capacity
          omega
    · rename_i hroom
      exact .of_ring _ rfl rfl fun hs => hs.toInRange.storeTail (by omega) data

theorem queuePopOne_effect (d : Device α) : d.QueueEffect cfg (queuePopOne cfg d).2 := by
  unfold queuePopOne
  split
  · exact (queueFileRead_effect d).toQueueEffect
  · split
    · split
      · exact .refl _ _
      · exact .of_ring _ rfl rfl fun hs => hs.toInRange.dropHead
    · exact .refl _ _

theorem queuePopLoop_effect (n : Nat) (d : Device α) :
    d.QueueEffect cfg (queuePopLoop cfg n d).2 := by
  induction n generalizing d with
  | zero => exact .refl _ _
  | succ n ih =>
    have hone : d.QueueEffect cfg _ := queuePopOne_effect d
    rw [queuePopLoop]
    cases hp : queuePopOne cfg d with
    | mk r d' =>
      rw [hp] at hone
      cases r with
      | error e => exact hone
      | ok x => exact hone.trans (ih d')

theorem queuePop_effect (d : Device α) (max : Nat) :
    d.QueueEffect cfg (queuePop cfg d max).2 := by
  have hloop : d.QueueEffect cfg _ := queuePopLoop_effect max d
  unfold queuePop
  split
  · exact .refl _ _
  · split
    · exact .refl _ _
    · dsimp only
      split <;> exact hloop

theorem queuePopTail_effect (d : Device α) : d.QueueEffect cfg (queuePopTail cfg d).2 := by
  unfold queuePopTail
  split
  · exact .refl _ _
  · split
    · exact .refl _ _
    · exact .of_ring _ rfl rfl fun hs => hs.toInRange.dropTail

theorem queuePeekBatchLoop_effect (slots n cnt : Nat) (d : Device α) :
    d.FileEffect cfg (queuePeekBatchLoop cfg slots n cnt d).2 := by
  induction n generalizing cnt d with
  | zero => exact .refl _ _
  | succ n ih =>
    have hpeek : d.FileEffect cfg _ := queueFilePeekElement_effect d cnt
    rw [queuePeekBatchLoop]
    split
    · cases hp : queueFilePeekElement cfg d cnt with
      | mk r d' =>
        rw [hp] at hpeek
        cases r with
        | error e => exact hpeek
        | ok x => exact hpeek.trans (ih (cnt + 1) d')
    · split
      · exact .refl _ _
      · exact ih (cnt + 1) d

theorem queuePeekBatch_effect (d : Device α) (max : Nat) :
    d.FileEffect cfg (queuePeekBatch cfg d max).2 := by
  have hslots : d.FileEffect cfg (queueFileSlots cfg d).2 := by
    unfold queueFileSlots
    split
    · split
      · exact queueTcpFileCountRecords_effect d
      · split <;> exact .refl _ _
    · exact .refl _ _
  unfold queuePeekBatch
  split
  · exact .refl _ _
  · split
    · exact .refl _ _
    · dsimp only
      split
      · exact hslots
      · split <;> exact hslots.trans (queuePeekBatchLoop_effect ..)

end Operations

end WalnutGateway
