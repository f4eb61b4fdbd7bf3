import WalnutGateway.Queue.Persist

/-!
# Booting a queue

What `queue_manager_create` makes of the three files it finds, on a flash where
nothing fails: the ring of the snapshot, if that is accepted, and the overflow
file from the saved offset on, if that lies in the file. Calls that leave ring,
offset and overflow file alone are collected under one relation.
-/

namespace WalnutGateway

variable {α : Type}

/-! ## Calls that only touch other files -/

/-- The queue and its overflow file are the same, and still no call will fail. -/
structure Device.SameQueue (cfg : QueueConfig α) (d d' : Device α) : Prop where
  queue : d'.q = d.q
  sound : d'.flash.Sound
  bytes : d'.overflowBytes cfg = d.overflowBytes cfg

section SameQueue

variable {cfg : QueueConfig α} {d d' d'' : Device α}

theorem Device.SameQueue.refl (h : d.flash.Sound) : d.SameQueue cfg d := ⟨rfl, h, rfl⟩

theorem Device.SameQueue.trans (h : d.SameQueue cfg d') (h' : d'.SameQueue cfg d'') :
    d.SameQueue cfg d'' :=
  ⟨h'.queue.trans h.queue, h'.sound, h'.bytes.trans h.bytes⟩

theorem Device.SameQueue.storeOk (h : d.SameQueue cfg d') (hd : StoreOk cfg d) :
    StoreOk cfg d' where
  sound := h.sound
  ring := by rw [h.queue]; exact hd.ring
  size_eq := by rw [h.queue, h.bytes]; exact hd.size_eq
  read_lt := by rw [h.queue]; exact hd.read_lt

theorem Device.SameQueue.queueInv (h : d.SameQueue cfg d') (hd : QueueInv cfg d) :
    QueueInv cfg d' where
  toStoreOk := h.storeOk hd.toStoreOk
  done := by rw [DoneOk, h.queue, h.bytes]; exact hd.done
  unread := by rw [h.queue, h.bytes]; exact hd.unread

theorem Device.SameQueue.unreadRecords (h : d.SameQueue cfg d') :
    unreadRecords cfg d' = unreadRecords cfg d := by
  rw [WalnutGateway.unreadRecords, h.queue, h.bytes, WalnutGateway.unreadRecords]

theorem Device.SameQueue.logicalContent (h : d.SameQueue cfg d') :
    logicalContent cfg d' = logicalContent cfg d := by
  rw [WalnutGateway.logicalContent, h.unreadRecords, h.queue, WalnutGateway.logicalContent]

/-- A store that keeps the overflow file keeps the queue. -/
theorem Device.SameQueue.of_files {s : PreBootStore} (hs : s.flash.Sound)
    (hf : s.flash.files (overflowFile cfg) = d.flash.files (overflowFile cfg)) :
    d.SameQueue cfg { d with toPreBootStore := s } where
  queue := rfl
  sound := hs
  bytes := congrArg (Option.getD · []) hf

theorem overflowFile_ne_preBootInfo (cfg : QueueConfig α) : overflowFile cfg ≠ .preBootInfo :=
  FlashFile.noConfusion

theorem overflowFile_ne_snapshotFile (cfg : QueueConfig α) :
    overflowFile cfg ≠ snapshotFile cfg := FlashFile.noConfusion

theorem snapshotFile_ne_preBootInfo (cfg : QueueConfig α) : snapshotFile cfg ≠ .preBootInfo :=
  FlashFile.noConfusion

theorem sameQueue_saveTcpSendQueueOffset (h : d.flash.Sound) (offset : Nat) :
    d.SameQueue cfg { d with toPreBootStore := (d.saveTcpSendQueueOffset offset).2 } := by
  rw [PreBootStore.saveTcpSendQueueOffset_sound h]
  exact .of_files (h.put _ _) (Flash.put_files_of_ne _ _ (overflowFile_ne_preBootInfo cfg))

theorem sameQueue_clearTcpSendQueueOffset (h : d.flash.Sound) :
    d.SameQueue cfg { d with toPreBootStore := d.clearTcpSendQueueOffset.2 } := by
  rw [PreBootStore.clearTcpSendQueueOffset_sound h]
  exact .of_files (h.put _ _) (Flash.put_files_of_ne _ _ (overflowFile_ne_preBootInfo cfg))

theorem sameQueue_saveBeforeSocReset (h : d.flash.Sound) (kind : ResetType) (utc : UInt32)
    (source : List Byte) :
    d.SameQueue cfg { d with toPreBootStore := (d.saveBeforeSocReset kind utc source).2 } := by
  have hfiles := (d.saveBeforeSocReset_effect kind utc source).files
    (overflowFile cfg) (overflowFile_ne_preBootInfo cfg)
  refine .of_files ?_ hfiles
  unfold PreBootStore.saveBeforeSocReset
  split
  · exact h
  · dsimp only
    rw [PreBootStore.diskStore_sound h]
    exact h.put _ _

theorem sameQueue_takeTcpSendQueueOffset (h : d.flash.Sound) :
    d.SameQueue cfg { d with toPreBootStore := d.takeTcpSendQueueOffset.2 } := by
  obtain ⟨-, hs, hf⟩ := PreBootStore.takeTcpSendQueueOffset_sound h
  exact .of_files hs (hf _ (overflowFile_ne_preBootInfo cfg))

/-- Deleting the snapshot leaves none, and every other file. -/
theorem queuePersistDeleteSnapshot_sound (h : d.flash.Sound) (hp : cfg.persistOnReboot = true) :
    ∃ fs : Flash FlashFile, (queuePersistDeleteSnapshot cfg d).2 = { d with flash := fs } ∧
      fs.Sound ∧ fs.files (snapshotFile cfg) = none ∧ d.flash.SameBut (snapshotFile cfg) fs := by
  simp only [queuePersistDeleteSnapshot, hp, not_true_eq_false, if_false,
    wmSdkFileExists_sound h, wmSdkFileDelete_sound h]
  by_cases hf : (d.flash.files (snapshotFile cfg)).isSome = true
  · rw [if_neg (not_not_intro hf), if_neg (not_not_intro hf)]
    exact ⟨_, rfl, h.erase _, Flash.erase_files_self _ _, Flash.sameBut_erase _ _⟩
  · rw [if_pos hf]
    exact ⟨_, rfl, h, by simpa using hf, .refl _ _⟩

theorem sameQueue_queuePersistDeleteSnapshot (h : d.flash.Sound) :
    d.SameQueue cfg (queuePersistDeleteSnapshot cfg d).2 := by
  by_cases hp : cfg.persistOnReboot = true
  · obtain ⟨fs, hd, hs, -, hother⟩ := queuePersistDeleteSnapshot_sound h hp
    rw [hd]
    exact .of_files hs (hother _ (overflowFile_ne_snapshotFile cfg))
  · rw [queuePersistDeleteSnapshot, if_pos hp]
    exact .refl h

/-- The clean-up after an acknowledged batch does not touch the queue. -/
theorem sameQueue_clearSnapshotAfterConsume (h : d.flash.Sound) :
    d.SameQueue cfg (queuePersistClearSnapshotAfterConsume cfg d).2 := by
  unfold queuePersistClearSnapshotAfterConsume
  split
  · exact .refl h
  · split
    · exact .refl h
    · split
      · have hclear : d.SameQueue cfg _ := sameQueue_clearTcpSendQueueOffset h
        exact hclear.trans (sameQueue_queuePersistDeleteSnapshot hclear.sound)
      · exact sameQueue_queuePersistDeleteSnapshot h

theorem sameQueue_queueTcpPersistFileOffset (h : d.flash.Sound) :
    d.SameQueue cfg (queueTcpPersistFileOffset cfg d).2 := by
  unfold queueTcpPersistFileOffset
  split
  · exact .refl h
  · split
    · exact sameQueue_clearTcpSendQueueOffset h
    · exact sameQueue_saveTcpSendQueueOffset h _

end SameQueue

/-! ## The overflow file after a boot -/

/-- Where reading starts in a file of a given size, with an offset saved or not. -/
def restoredOffset (cfg : QueueConfig α) (saved : Option Nat) (size : Nat) : Nat :=
  if queueIsTcpSendQ cfg then
    match saved with
    | none => 0
    | some offset => if offset ≤ size then offset else 0
  else 0

theorem restoredOffset_none (cfg : QueueConfig α) (size : Nat) :
    restoredOffset cfg none size = 0 := by
  unfold restoredOffset
  split <;> rfl

theorem restoredOffset_some {cfg : QueueConfig α} (htcp : queueIsTcpSendQ cfg = true)
    (offset size : Nat) :
    restoredOffset cfg (some offset) size = if offset ≤ size then offset else 0 := if_pos htcp

theorem restoredOffset_le (cfg : QueueConfig α) (saved : Option Nat) (size : Nat) :
    restoredOffset cfg saved size ≤ size := by
  unfold restoredOffset
  split
  · split
    · exact Nat.zero_le _
    · split
      · assumption
      · exact Nat.zero_le _
  · exact Nat.zero_le _

theorem restoredOffset_zero (cfg : QueueConfig α) (saved : Option Nat) :
    restoredOffset cfg saved 0 = 0 := Nat.le_zero.mp (restoredOffset_le ..)

/-- The queue that reads a file of `size` bytes from `offset` on; nothing is left
of a file that was read to its end. -/
def Queue.resumed (q : Queue α) (size offset : Nat) : Queue α :=
  { q with
    fileSize := if offset = size then 0 else size
    fileReadOffset := if offset = size then 0 else offset }

section Restore

variable {cfg : QueueConfig α} {d : Device α}

/-- The saved offset moves the read position, if it lies in the file. -/
theorem queueTcpRestoreSavedFileOffset_sound (h : d.flash.Sound)
    (htcp : queueIsTcpSendQ cfg = true) (hsize : d.q.fileSize ≠ 0)
    (hoff : d.q.fileReadOffset = 0) :
    let o := restoredOffset cfg d.savedOffset d.q.fileSize
    let d' := (queueTcpRestoreSavedFileOffset cfg d).2
    d'.flash.Sound ∧ d'.q = d.q.resumed d.q.fileSize o ∧
      d'.overflowBytes cfg = if o = d.q.fileSize then [] else d.overflowBytes cfg := by
  obtain ⟨htake, hs, hf⟩ := PreBootStore.takeTcpSendQueueOffset_sound h
  have hsame : d.SameQueue cfg _ := sameQueue_takeTcpSendQueueOffset h
  have hq0 : d.q.resumed d.q.fileSize 0 = d.q := by
    rw [Queue.resumed, if_neg hsize.symm, if_neg hsize.symm, ← hoff]
  dsimp only
  simp only [queueTcpRestoreSavedFileOffset, htcp, not_true_eq_false, false_or, if_neg hsize,
    htake]
  cases d.savedOffset with
  | none =>
    rw [restoredOffset_none, hq0, if_neg hsize.symm]
    exact ⟨hsame.sound, rfl, hsame.bytes⟩
  | some offset =>
    rw [restoredOffset_some htcp]
    dsimp only
    by_cases hbig : offset > d.q.fileSize
    · rw [if_pos hbig, if_neg (by omega : ¬ offset ≤ d.q.fileSize), hq0, if_neg hsize.symm]
      refine ⟨hsame.sound, ?_, hsame.bytes⟩
      change ({ d.q with fileReadOffset := 0 } : Queue α) = d.q
      rw [← hoff]
    · rw [if_neg hbig, if_pos (by omega : offset ≤ d.q.fileSize)]
      by_cases hend : offset = d.q.fileSize
      · rw [if_pos hend, if_pos hend, queueFileReset_sound hsame.sound]
        refine ⟨hsame.sound.erase _, ?_, Flash.contents_erase ..⟩
        rw [Queue.resumed, if_pos hend, if_pos hend]
        rfl
      · rw [if_neg hend, if_neg hend]
        refine ⟨hsame.sound, ?_, hsame.bytes⟩
        rw [Queue.resumed, if_neg hend, if_neg hend]

/-- The overflow file is taken up where the saved offset says. -/
theorem queueFileRestore_sound (h : d.flash.Sound) (hfile : queueHasFile cfg = true)
    (hsize : d.q.fileSize = 0) (hoff : d.q.fileReadOffset = 0) :
    let size := (d.overflowBytes cfg).length
    let o := restoredOffset cfg d.savedOffset size
    let d' := (queueFileRestore cfg d).2
    d'.flash.Sound ∧ d'.q = d.q.resumed size o ∧
      d'.overflowBytes cfg = if o = size then [] else d.overflowBytes cfg := by
  have hempty (hnil : d.overflowBytes cfg = []) {fs : Flash FlashFile} (hfs : fs.Sound)
      (hc : fs.contents (overflowFile cfg) = []) :
      ({ d with flash := fs } : Device α).flash.Sound ∧
        ({ d with flash := fs } : Device α).q = d.q.resumed (d.overflowBytes cfg).length
          (restoredOffset cfg d.savedOffset (d.overflowBytes cfg).length) ∧
        ({ d with flash := fs } : Device α).overflowBytes cfg =
          if restoredOffset cfg d.savedOffset (d.overflowBytes cfg).length =
            (d.overflowBytes cfg).length then [] else d.overflowBytes cfg := by
    have hzero : restoredOffset cfg d.savedOffset (d.overflowBytes cfg).length = 0 := by
      have hle := restoredOffset_le cfg d.savedOffset (d.overflowBytes cfg).length
      rw [hnil] at hle ⊢
      exact Nat.le_zero.mp hle
    refine ⟨hfs, ?_, ?_⟩
    · change d.q = _
      rw [hzero, hnil, Queue.resumed, List.length_nil, if_pos rfl]
      nth_rewrite 1 [← hsize]
      nth_rewrite 1 [← hoff]
      rfl
    · rw [hzero, hnil, List.length_nil, if_pos rfl]
      exact hc
  dsimp only
  simp only [queueFileRestore, hfile, not_true_eq_false, if_false, wmSdkFileExists_sound h]
  cases hf : d.flash.files (overflowFile cfg) with
  | none =>
    have hc : d.flash.contents (overflowFile cfg) = [] := by rw [Flash.contents, hf]; rfl
    simp only [Option.isSome_none, Bool.false_eq_true, not_false_eq_true, if_true]
    exact hempty hc h hc
  | some bytes =>
    have hc : d.flash.contents (overflowFile cfg) = bytes := Flash.contents_of_files hf
    simp only [Option.isSome_some, not_true_eq_false, if_false, wmSdkFileOpen_rb_some h hf,
      wmSdkFileGetSize_sound h, Option.getD_some, wmSdkFileClose_sound h]
    by_cases hnil : (d.flash.contents (overflowFile cfg)).length = 0
    · rw [if_pos hnil]
      simp only [wmSdkFileDelete_sound h]
      exact hempty (List.eq_nil_of_length_eq_zero hnil) (h.erase _) (Flash.contents_erase ..)
    · rw [if_neg hnil]
      by_cases htcp : queueIsTcpSendQ cfg = true
      · rw [if_pos htcp]
        exact queueTcpRestoreSavedFileOffset_sound
          (d := { d with
            q := { d.q with
              fileSize := (d.flash.contents (overflowFile cfg)).length, fileReadOffset := 0 } })
          h htcp hnil rfl
      · rw [if_neg htcp]
        have hzero : restoredOffset cfg d.savedOffset (d.overflowBytes cfg).length = 0 := by
          unfold restoredOffset
          rw [if_neg htcp]
        have hne : ¬ 0 = (d.overflowBytes cfg).length := fun h0 => hnil h0.symm
        rw [hzero, if_neg hne, Queue.resumed, if_neg hne, if_neg hne]
        exact ⟨h, rfl, rfl⟩

end Restore

/-! ## The queue after a boot -/

/-- The snapshot a boot goes by: the one on flash, or an empty one. -/
def bootSnapshot (cfg : QueueConfig α) (flash : Flash FlashFile) : Snapshot α :=
  ((flash.files (snapshotFile cfg)).bind (snapshotParse cfg)).getD ⟨0, 0, 0, []⟩

/-- Where a boot starts to read the overflow file. -/
def bootOffset (cfg : QueueConfig α) (s : PreBootStore) : Nat :=
  restoredOffset cfg s.savedOffset (s.flash.contents (overflowFile cfg)).length

/-- The indices a boot goes by are in range, whatever the snapshot file holds. -/
theorem bootSnapshot_range {cfg : QueueConfig α} (hcfg : cfg.WellFormed) (flash : Flash FlashFile) :
    (bootSnapshot cfg flash).count ≤ cfg.capacity ∧
      (bootSnapshot cfg flash).head < cfg.capacity := by
  unfold bootSnapshot
  cases hs : (flash.files (snapshotFile cfg)).bind (snapshotParse cfg) with
  | none => exact ⟨Nat.zero_le _, hcfg.capacity_pos⟩
  | some sn =>
    obtain ⟨bytes, -, hparse⟩ := Option.bind_eq_some_iff.mp hs
    obtain ⟨hcount, hhead, -⟩ := snapshotParse_range hparse
    exact ⟨hcount, hhead⟩

/-- What `queue_manager_create` makes of the store it starts from. -/
structure BootedFrom (cfg : QueueConfig α) (s : PreBootStore) (d : Device α) : Prop where
  sound : d.flash.Sound
  count_eq : d.q.count = (bootSnapshot cfg s.flash).count
  head_eq : d.q.head = (bootSnapshot cfg s.flash).head
  tail_eq : d.q.tail = (bootSnapshot cfg s.flash).tail
  rows_eq : d.q.ringRows cfg = (bootSnapshot cfg s.flash).rows
  file : ∃ q : Queue α,
    d.q = q.resumed (s.flash.contents (overflowFile cfg)).length (bootOffset cfg s)
  bytes_eq : d.overflowBytes cfg =
    if bootOffset cfg s = (s.flash.contents (overflowFile cfg)).length then []
    else s.flash.contents (overflowFile cfg)

section Create

variable {cfg : QueueConfig α} {s : PreBootStore}

/-- Loading the snapshot of a zeroed queue. -/
theorem queuePersistLoad_zeroed (h : s.flash.Sound) (hp : cfg.persistOnReboot = true)
    (buffer : Nat → α) :
    ∃ fs q, (queuePersistLoad cfg (Device.zeroed s buffer)).2 =
        { Device.zeroed s buffer with flash := fs, q := q } ∧ fs.Sound ∧
      fs.contents (overflowFile cfg) = s.flash.contents (overflowFile cfg) ∧
      q.fileSize = 0 ∧ q.fileReadOffset = 0 ∧ q.count = (bootSnapshot cfg s.flash).count ∧
      q.head = (bootSnapshot cfg s.flash).head ∧ q.tail = (bootSnapshot cfg s.flash).tail ∧
      q.ringRows cfg = (bootSnapshot cfg s.flash).rows := by
  obtain ⟨hf, hload⟩ | ⟨bytes, hf, hload⟩ :=
    queuePersistLoad_sound (d := Device.zeroed s buffer) h hp
  · have hboot : bootSnapshot cfg s.flash = ⟨0, 0, 0, []⟩ := by
      rw [bootSnapshot, show s.flash.files (snapshotFile cfg) = none from hf]
      rfl
    rw [hboot, hload]
    exact ⟨s.flash, (Device.zeroed s buffer).q, rfl, h, rfl, rfl, rfl, rfl, rfl, rfl, rfl⟩
  · have hfiles : s.flash.files (snapshotFile cfg) = some bytes := hf
    cases hparse : snapshotParse cfg bytes with
    | some sn =>
      have hboot : bootSnapshot cfg s.flash = sn := by
        rw [bootSnapshot, hfiles, Option.bind_some, hparse, Option.getD_some]
      rw [hparse] at hload
      simp only [hload, hboot]
      exact ⟨s.flash, _, rfl, h, rfl, rfl, rfl, rfl, rfl, rfl,
        ringRows_withSnapshot hparse (Device.zeroed s buffer).q⟩
    | none =>
      have hboot : bootSnapshot cfg s.flash = ⟨0, 0, 0, []⟩ := by
        rw [bootSnapshot, hfiles, Option.bind_some, hparse, Option.getD_none]
      rw [hparse] at hload
      obtain ⟨q, hload, hq⟩ := hload
      have hother : (s.flash.erase (snapshotFile cfg)).contents (overflowFile cfg) =
          s.flash.contents (overflowFile cfg) :=
        congrArg (Option.getD · []) (Flash.erase_files_of_ne _ (overflowFile_ne_snapshotFile cfg))
      rw [hload, hboot]
      refine ⟨_, q, rfl, h.erase _, hother, ?_⟩
      obtain rfl | ⟨buffer', rfl⟩ := hq <;> exact ⟨rfl, rfl, rfl, rfl, rfl, rfl⟩

/-- `queue_manager_create` puts ring and overflow file together. -/
theorem queueManagerCreate_sound (h : s.flash.Sound) (hp : cfg.persistOnReboot = true)
    (hfile : queueHasFile cfg = true) (buffer : Nat → α) :
    BootedFrom cfg s (queueManagerCreate cfg s buffer) := by
  obtain ⟨fs, q, hload, hfs, hbytes, hsize, hoff, hcount, hhead, htail, hrows⟩ :=
    queuePersistLoad_zeroed h hp buffer
  have hrestore := queueFileRestore_sound
    (d := { Device.zeroed s buffer with flash := fs, q := q }) hfs hfile hsize hoff
  have hcreate : queueManagerCreate cfg s buffer =
      (queueFileRestore cfg { Device.zeroed s buffer with flash := fs, q := q }).2 := by
    simp only [queueManagerCreate, hp, if_true, hload, hfile]
  have hbytes' : Device.overflowBytes cfg
      { Device.zeroed s buffer with flash := fs, q := q } =
        s.flash.contents (overflowFile cfg) := hbytes
  have hsaved : PreBootStore.savedOffset
      { (Device.zeroed s buffer).toPreBootStore with flash := fs } = s.savedOffset := rfl
  dsimp only at hrestore
  rw [hbytes', hsaved] at hrestore
  obtain ⟨hsound, hq, hc⟩ := hrestore
  rw [← hcreate] at hsound hq hc
  exact
    { sound := hsound
      count_eq := by rw [hq]; exact hcount
      head_eq := by rw [hq]; exact hhead
      tail_eq := by rw [hq]; exact htail
      rows_eq := by rw [hq]; exact hrows
      file := ⟨q, hq⟩
      bytes_eq := hc }

end Create

namespace BootedFrom

variable {cfg : QueueConfig α} {s : PreBootStore} {d : Device α}

/-- The unread bytes are those behind the boot offset. -/
theorem drop_eq (h : BootedFrom cfg s d) :
    (d.overflowBytes cfg).drop d.q.fileReadOffset =
      (s.flash.contents (overflowFile cfg)).drop (bootOffset cfg s) := by
  obtain ⟨q, hq⟩ := h.file
  rw [h.bytes_eq, hq]
  simp only [Queue.resumed]
  by_cases hend : bootOffset cfg s = (s.flash.contents (overflowFile cfg)).length
  · rw [if_pos hend, if_pos hend, List.drop_nil, hend, List.drop_length]
  · rw [if_neg hend, if_neg hend]

/-- RAM knows the size of the file, and reading stands before its end. -/
theorem file_ok (h : BootedFrom cfg s d) :
    (d.overflowBytes cfg).length = d.q.fileSize ∧
      (d.q.fileReadOffset < d.q.fileSize ∨ (d.q.fileReadOffset = 0 ∧ d.q.fileSize = 0)) := by
  obtain ⟨q, hq⟩ := h.file
  have hle : bootOffset cfg s ≤ (s.flash.contents (overflowFile cfg)).length :=
    restoredOffset_le ..
  rw [h.bytes_eq, hq]
  simp only [Queue.resumed]
  by_cases hend : bootOffset cfg s = (s.flash.contents (overflowFile cfg)).length
  · rw [if_pos hend, if_pos hend, if_pos hend]
    exact ⟨rfl, Or.inr ⟨rfl, rfl⟩⟩
  · rw [if_neg hend, if_neg hend, if_neg hend]
    exact ⟨rfl, Or.inl (by omega)⟩

/-- The ring of a booted queue is a window exactly when the snapshot's tail says so. -/
theorem ringOk_iff (hcfg : cfg.WellFormed) (h : BootedFrom cfg s d) :
    d.q.RingOk cfg ↔ (bootSnapshot cfg s.flash).tail =
      ((bootSnapshot cfg s.flash).head + (bootSnapshot cfg s.flash).count) % cfg.capacity := by
  obtain ⟨hcount, hhead⟩ := bootSnapshot_range hcfg s.flash
  rw [← h.tail_eq, ← h.head_eq, ← h.count_eq]
  refine ⟨fun hring => hring.tail_eq, fun htail => ⟨?_, htail, ?_⟩⟩
  · rwa [h.head_eq]
  · rwa [h.count_eq]

/-- With consistent indices the store is in order. -/
theorem storeOk (h : BootedFrom cfg s d) (hring : d.q.RingOk cfg) : StoreOk cfg d where
  sound := h.sound
  ring := hring
  size_eq := h.file_ok.1
  read_lt := h.file_ok.2

/-- The content is what the file says from the offset on, then the snapshot's rows. -/
theorem logicalContent_eq (h : BootedFrom cfg s d) :
    logicalContent cfg d =
      (queueFraming cfg).parse
        ((s.flash.contents (overflowFile cfg)).drop (bootOffset cfg s)) ++
      (bootSnapshot cfg s.flash).rows := by
  rw [logicalContent, unreadRecords, h.drop_eq, h.rows_eq]

end BootedFrom

end WalnutGateway
