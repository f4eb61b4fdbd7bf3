import WalnutGateway.Queue.Frame
import WalnutGateway.Queue.PeekCommit
import WalnutGateway.Queue.Reboot
import WalnutGateway.Queue.Usable

/-!
# The lifetime of a send queue

Calls, boots and crashes in any order, and a flash driver that fails whenever it
likes. Whatever happened, indices and read offset stay sane and the copy of the
pre-boot record stays valid. So a `queue_manager_persist` that succeeds writes
all that the next boot needs, provided RAM still knows the size of the overflow
file. The driver can break that: no caller of the delete in `queue_file_reset`
and `queue_file_read` looks at its result.
-/

namespace WalnutGateway

variable {α : Type}

/-- What can happen to a send queue. -/
inductive LifeOp (α : Type)
  | call (op : SendQueueOp α)
  | peek (max : Nat)
  | persist
  | deleteSnapshot
  | clearSnapshot
  | saveOffset (offset : Nat)
  | clearOffset
  | takeOffset
  | announce (kind : ResetType) (utc : UInt32) (source : List Byte)
  | boot (buffer : Nat → α)

/-- The device with the outcomes the driver has in store. -/
def Device.under (d : Device α) (outcomes : List IoOutcome) : Device α :=
  { d with flash := ⟨d.flash.files, outcomes⟩ }

/-- A send queue and its device, each event under driver outcomes of its own. -/
def lifeMachine (cfg : QueueConfig α) :
    Machine (Device α) (LifeOp α × List IoOutcome) Unit where
  step d o :=
    let d := d.under o.2
    ((), match o.1 with
      | .call op => ((sendQueueMachine cfg).step d op).2
      | .peek max => (queuePeekBatch cfg d max).2
      | .persist => (queueManagerPersist cfg d).2
      | .deleteSnapshot => (queuePersistDeleteSnapshot cfg d).2
      | .clearSnapshot => (queuePersistClearSnapshotAfterConsume cfg d).2
      | .saveOffset offset => { d with toPreBootStore := (d.saveTcpSendQueueOffset offset).2 }
      | .clearOffset => { d with toPreBootStore := d.clearTcpSendQueueOffset.2 }
      | .takeOffset => { d with toPreBootStore := d.takeTcpSendQueueOffset.2 }
      | .announce kind utc source =>
        { d with toPreBootStore := (d.saveBeforeSocReset kind utc source).2 }
      | .boot buffer => bootQueue cfg d.flash buffer)

/-- The content of a queue as RAM knows it: the records up to `file_size`, then the ring. -/
def queueContent (cfg : QueueConfig α) (d : Device α) : List α :=
  (queueFraming cfg).parse
    (((d.overflowBytes cfg).take d.q.fileSize).drop d.q.fileReadOffset) ++ d.q.ringRows cfg

/-- RAM knows the size of the overflow file, a 32-bit word. -/
def SizeKnown (cfg : QueueConfig α) (d : Device α) : Prop :=
  (d.overflowBytes cfg).length = d.q.fileSize ∧ d.q.fileSize ≤ uint32Max

instance (cfg : QueueConfig α) (d : Device α) : Decidable (SizeKnown cfg d) :=
  inferInstanceAs (Decidable (_ ∧ _))

/-! ## Sane at all times -/

/-- What no failure of the driver can break. -/
structure Robust (cfg : QueueConfig α) (d : Device α) : Prop where
  sane : d.q.Sane cfg
  cache : d.CacheOk

section Robust

variable {cfg : QueueConfig α} {d d' : Device α}

theorem Robust.of_effect (h : Robust cfg d) (he : d.QueueEffect cfg d') : Robust cfg d' :=
  ⟨he.sane h.sane, he.cacheOk h.cache⟩

/-- Calls of the pre-boot handler do not see the queue. -/
theorem Robust.of_record (h : Robust cfg d) {s : PreBootStore}
    (hs : d.toPreBootStore.RecordEffect s) : Robust cfg { d with toPreBootStore := s } :=
  ⟨h.sane, hs.cache h.cache⟩

/-- The fields about the file lie before its end. -/
theorem Robust.of_file (h : Robust cfg d) {s : PreBootStore} (hs : s.CacheOk)
    {size offset : Nat} (hread : offset < size) :
    Robust cfg ⟨s, { d.q with fileSize := size, fileReadOffset := offset }⟩ :=
  ⟨⟨⟨h.sane.head_lt, h.sane.tail_lt, h.sane.count_le⟩, Or.inl hread⟩, hs⟩

/-- Nor do calls on the flash alone. -/
theorem Robust.of_flash (h : Robust cfg d) (fs : Flash FlashFile) :
    Robust cfg { d with flash := fs } := ⟨h.sane, h.cache⟩

theorem Robust.call (htcp : queueIsTcpSendQ cfg = true) (hmax : cfg.maxFileSize ≤ uint32Max)
    (h : Robust cfg d) (op : SendQueueOp α) :
    Robust cfg ((sendQueueMachine cfg).step d op).2 := by
  cases op with
  | push data => exact h.of_effect (queuePush_effect htcp hmax d data)
  | pop max => exact h.of_effect (queuePop_effect d max)
  | popTail =>
    have hpop : d.QueueEffect cfg _ := queuePopTail_effect d
    cases ho : queuePopTail cfg d with
    | mk r d' =>
      rw [ho] at hpop
      simp only [sendQueueMachine, ho]
      cases r <;> exact h.of_effect hpop

theorem Robust.deleteSnapshot (h : Robust cfg d) :
    Robust cfg (queuePersistDeleteSnapshot cfg d).2 := by
  unfold queuePersistDeleteSnapshot
  split
  · exact h
  · dsimp only
    split
    · exact h.of_flash _
    · split <;> exact h.of_flash _

theorem Robust.clearSnapshot (h : Robust cfg d) :
    Robust cfg (queuePersistClearSnapshotAfterConsume cfg d).2 := by
  unfold queuePersistClearSnapshotAfterConsume
  split
  · exact h
  · split
    · exact h
    · split
      · exact (h.of_record d.clearTcpSendQueueOffset_effect).deleteSnapshot
      · exact h.deleteSnapshot

theorem Robust.save (h : Robust cfg d) : Robust cfg (queuePersistSave cfg d).2 := by
  unfold queuePersistSave
  split
  · exact h
  · split <;> exact h.of_flash _

theorem Robust.persistFileOffset (h : Robust cfg d) :
    Robust cfg (queueTcpPersistFileOffset cfg d).2 := by
  unfold queueTcpPersistFileOffset
  split
  · exact h
  · split
    · exact h.of_record d.clearTcpSendQueueOffset_effect
    · exact h.of_record (d.saveTcpSendQueueOffset_effect _)

theorem Robust.persist (h : Robust cfg d) : Robust cfg (queueManagerPersist cfg d).2 := by
  unfold queueManagerPersist
  split
  · exact h
  · dsimp only
    split
    · exact h.save
    · exact h.save.persistFileOffset

/-! ### Booting -/

/-- A header is accepted only in range. -/
theorem queuePersistReadHeader_range {fs fs' : Flash FlashFile} {fp fp' : FileHandle FlashFile}
    {count head tail : Nat}
    (h : queuePersistReadHeader cfg fs fp = (some (count, head, tail), fp', fs')) :
    count ≤ cfg.capacity ∧ head < cfg.capacity ∧ tail < cfg.capacity := by
  unfold queuePersistReadHeader at h
  split at h
  · cases h
  · split at h
    · cases h
    · split at h
      · cases h
      · split at h
        · cases h
        · rename_i hrange
          cases h
          omega

/-- A snapshot is taken over with indices in range, or not at all. -/
theorem Robust.load (hcfg : cfg.WellFormed) (h : Robust cfg d) :
    Robust cfg (queuePersistLoad cfg d).2 := by
  have hempty (buffer : Nat → α) :
      Queue.Sane cfg { d.q with count := 0, head := 0, tail := 0, buffer := buffer } :=
    ⟨⟨hcfg.capacity_pos, hcfg.capacity_pos, Nat.zero_le _⟩, h.sane.read_lt⟩
  unfold queuePersistLoad
  split
  · exact h
  · split
    · exact h.of_flash _
    · split
      · exact h.of_flash _
      · rename_i hheader
        obtain ⟨hcount, hhead, htail⟩ := queuePersistReadHeader_range hheader
        dsimp only
        split
        · exact ⟨⟨⟨hhead, htail, hcount⟩, h.sane.read_lt⟩, h.cache⟩
        · exact ⟨hempty _, h.cache⟩

/-- A saved offset is taken over when it lies in the file. -/
theorem Robust.restoreOffset (h : Robust cfg d) (hsize : d.q.fileSize ≠ 0) :
    Robust cfg (queueTcpRestoreSavedFileOffset cfg d).2 := by
  have htake := h.of_record d.takeTcpSendQueueOffset_effect
  unfold queueTcpRestoreSavedFileOffset
  split
  · exact h
  · dsimp only
    split
    · exact htake
    · split
      · exact h.of_file htake.cache (Nat.pos_of_ne_zero hsize)
      · split
        · exact htake.of_effect (queueFileReset_effect _).toQueueEffect
        · exact h.of_file htake.cache (by omega)

theorem Robust.fileRestore (h : Robust cfg d) : Robust cfg (queueFileRestore cfg d).2 := by
  unfold queueFileRestore
  split
  · exact h
  · dsimp only
    split
    · exact h.of_flash _
    · split
      · exact h.of_flash _
      · split
        · exact h.of_flash _
        · rename_i hsize
          have hopened (fs : Flash FlashFile) (size : Nat) (hne : size ≠ 0) :
              Robust cfg
                { d with flash := fs, q := { d.q with fileSize := size, fileReadOffset := 0 } } :=
            h.of_file (s := { d.toPreBootStore with flash := fs }) h.cache (Nat.pos_of_ne_zero hne)
          split
          · exact (hopened _ _ hsize).restoreOffset hsize
          · exact hopened _ _ hsize

/-- Every boot ends sane, whatever it finds. -/
theorem robust_bootQueue (hcfg : cfg.WellFormed) (flash : Flash FlashFile) (buffer : Nat → α) :
    Robust cfg (bootQueue cfg flash buffer) := by
  have hstart : Robust cfg (Device.zeroed (PreBootStore.powerOn flash).loadPriorReset.2 buffer) :=
    ⟨⟨⟨hcfg.capacity_pos, hcfg.capacity_pos, Nat.zero_le _⟩, Or.inr ⟨rfl, rfl⟩⟩,
      (PreBootStore.loadPriorReset_effect _).2⟩
  have hload : Robust cfg (if cfg.persistOnReboot = true then (queuePersistLoad cfg
      (Device.zeroed (PreBootStore.powerOn flash).loadPriorReset.2 buffer)).2 else
        Device.zeroed (PreBootStore.powerOn flash).loadPriorReset.2 buffer) := by
    split
    · exact hstart.load hcfg
    · exact hstart
  unfold bootQueue queueManagerCreate
  dsimp only
  rw [if_pos hcfg.hasFile]
  exact hload.fileRestore

theorem Robust.step (hcfg : cfg.WellFormed) (htcp : queueIsTcpSendQ cfg = true)
    (h : Robust cfg d) (o : LifeOp α × List IoOutcome) :
    Robust cfg ((lifeMachine cfg).step d o).2 := by
  obtain ⟨op, outcomes⟩ := o
  have hunder : Robust cfg (d.under outcomes) := h.of_flash _
  cases op with
  | call op => exact hunder.call htcp hcfg.file_le op
  | peek max => exact hunder.of_effect (queuePeekBatch_effect _ max).toQueueEffect
  | persist => exact hunder.persist
  | deleteSnapshot => exact hunder.deleteSnapshot
  | clearSnapshot => exact hunder.clearSnapshot
  | saveOffset offset => exact hunder.of_record (PreBootStore.saveTcpSendQueueOffset_effect ..)
  | clearOffset => exact hunder.of_record (PreBootStore.clearTcpSendQueueOffset_effect _)
  | takeOffset => exact hunder.of_record (PreBootStore.takeTcpSendQueueOffset_effect _)
  | announce kind utc source =>
    exact hunder.of_record (PreBootStore.saveBeforeSocReset_effect ..)
  | boot buffer => exact robust_bootQueue hcfg _ buffer

/-- Every state reached is sane. -/
theorem robust_run (hcfg : cfg.WellFormed) (htcp : queueIsTcpSendQ cfg = true)
    (h : Robust cfg d) (ops : List (LifeOp α × List IoOutcome)) :
    Robust cfg ((lifeMachine cfg).run d ops).2 :=
  (lifeMachine cfg).invariant (P := fun _ _ => True) (fun _ o hd _ => hd.step hcfg htcp o) h
    (.trivial _ _ _)

end Robust

/-! ## What a successful persist leaves on flash -/

section Persist

variable {cfg : QueueConfig α} {d : Device α}

/-- If no write is short, the pieces are in the file one behind the other. -/
theorem queuePersistWrite_complete {path : FlashFile} (pieces : List (List Byte))
    {fs : Flash FlashFile} {bytes : List Byte} (hfile : fs.files path = some bytes)
    (h : (queuePersistWrite fs ⟨path, .wb, bytes.length⟩ pieces).1 = true) :
    (queuePersistWrite fs ⟨path, .wb, bytes.length⟩ pieces).2.files path =
        some (bytes ++ pieces.flatten) ∧
      fs.SameBut path (queuePersistWrite fs ⟨path, .wb, bytes.length⟩ pieces).2 := by
  induction pieces generalizing fs bytes with
  | nil => exact ⟨by rw [queuePersistWrite, hfile, List.flatten_nil, List.append_nil], .refl _ _⟩
  | cons piece pieces ih =>
    rw [queuePersistWrite] at h ⊢
    split at h
    · cases h
    · rename_i hall
      rw [if_neg hall]
      rw [not_or, not_not, not_not] at hall
      obtain ⟨hwritten, hfp⟩ := wmSdkFileWrite_complete hall.1 hall.2
      have hother := (wmSdkFileWrite_sameBut fs ⟨path, .wb, bytes.length⟩ piece).1
      have hover : (⟨path, .wb, bytes.length⟩ : FileHandle FlashFile).overwrite
          (fs.contents path) piece = bytes ++ piece := by
        rw [Flash.contents_of_files hfile]
        simp [FileHandle.overwrite]
      rw [hover] at hwritten
      rw [hfp, ← List.length_append] at h ⊢
      obtain ⟨hrest, hsame⟩ := ih hwritten h
      rw [hrest, List.flatten_cons, List.append_assoc]
      exact ⟨rfl, hother.trans hsame⟩

/-- A save that succeeds leaves the ring's snapshot. -/
theorem queuePersistSave_success (h : (queuePersistSave cfg d).1 = .success) :
    ∃ fs : Flash FlashFile, (queuePersistSave cfg d).2 = { d with flash := fs } ∧
      fs.files (snapshotFile cfg) = some (snapshotBytes cfg d.q) ∧
      d.flash.SameBut (snapshotFile cfg) fs := by
  have hopen := wmSdkFileOpen_sameBut d.flash (snapshotFile cfg) .wb
  have hempty := wmSdkFileOpen_wb_files d.flash (snapshotFile cfg)
  unfold queuePersistSave at h ⊢
  split at h
  · cases h
  · rename_i hp
    rw [if_neg hp]
    cases ho : wmSdkFileOpen d.flash (snapshotFile cfg) .wb with
    | mk file fs =>
      rw [ho] at h hopen hempty
      cases file with
      | none => cases h
      | some file =>
        obtain rfl : file = ⟨snapshotFile cfg, .wb, 0⟩ :=
          wmSdkFileOpen_handle (congrArg Prod.fst ho)
        dsimp only at h ⊢
        split at h
        · rename_i hw
          obtain ⟨hfile, hsame⟩ := queuePersistWrite_complete _ (hempty _ rfl) hw
          refine ⟨_, rfl, ?_, (hopen.trans hsame).trans (.of_files (wmSdkFileClose_files _))⟩
          exact (congrFun (wmSdkFileClose_files _) _).trans hfile
        · cases h

/-- Saving or clearing the offset leads the next boot to it. -/
theorem queueTcpPersistFileOffset_success (htcp : queueIsTcpSendQ cfg = true)
    (h : Robust cfg d) (hsize : d.q.fileSize ≤ uint32Max)
    (hok : (queueTcpPersistFileOffset cfg d).1 = .success) :
    ∃ s : PreBootStore, (queueTcpPersistFileOffset cfg d).2 = { d with toPreBootStore := s } ∧
      d.flash.SameBut .preBootInfo s.flash ∧
      OffsetCurrent cfg { d with toPreBootStore := s } := by
  have hread := h.sane.read_lt
  unfold queueTcpPersistFileOffset at hok ⊢
  rw [if_neg (not_not_intro htcp)] at hok ⊢
  split at hok
  · rename_i hend
    rw [if_pos hend]
    obtain ⟨hfile, -, -⟩ := PreBootStore.diskStore_success hok
    refine ⟨_, rfl, d.clearTcpSendQueueOffset_effect.files, _, hfile, h.cache.stagedFromCache, ?_⟩
    rw [PreBootStore.savedOffset_diskClearTcpOffset, restoredOffset_none]
    change 0 = d.q.fileReadOffset
    omega
  · rename_i hend
    rw [if_neg hend]
    obtain ⟨hfile, -, -⟩ := PreBootStore.diskStore_success hok
    refine ⟨_, rfl, (d.saveTcpSendQueueOffset_effect _).files, _, hfile,
      h.cache.stagedFromCache, ?_⟩
    rw [PreBootStore.savedOffset_diskSetTcpOffset _ _ (by rw [uint32Max] at hsize; omega),
      restoredOffset_some htcp, if_pos (by dsimp only; omega)]

/-- A persist that succeeds leaves the snapshot and the offset of this moment. -/
theorem queueManagerPersist_success (hp : cfg.persistOnReboot = true)
    (htcp : queueIsTcpSendQ cfg = true) (h : Robust cfg d) (hsize : d.q.fileSize ≤ uint32Max)
    (hok : (queueManagerPersist cfg d).1 = .success) :
    (queueManagerPersist cfg d).2.q = d.q ∧
      (queueManagerPersist cfg d).2.overflowBytes cfg = d.overflowBytes cfg ∧
      SnapshotCurrent cfg (queueManagerPersist cfg d).2 ∧
      OffsetCurrent cfg (queueManagerPersist cfg d).2 := by
  unfold queueManagerPersist at hok ⊢
  rw [if_neg (not_not_intro hp)] at hok ⊢
  dsimp only at hok ⊢
  split at hok
  · rename_i herr
    rw [hok] at herr
    cases herr
  · rename_i herr
    rw [if_neg herr]
    have hsave : (queuePersistSave cfg d).1 = .success := by
      simpa [Result.isError] using herr
    obtain ⟨fs, hd, hsnap, hother⟩ := queuePersistSave_success hsave
    rw [hd] at hok ⊢
    obtain ⟨s, hs, hsame, hoff⟩ := queueTcpPersistFileOffset_success htcp (h.of_flash fs) hsize hok
    rw [hs]
    refine ⟨rfl, ?_, Or.inl ?_, hoff⟩
    · refine congrArg (Option.getD · []) ((hsame _ (overflowFile_ne_preBootInfo cfg)).trans ?_)
      exact hother _ (overflowFile_ne_snapshotFile cfg)
    · exact (hsame _ (snapshotFile_ne_preBootInfo cfg)).trans hsnap

/-- With the size of the file known, RAM's view of the content is that of the file. -/
theorem SizeKnown.queueContent (h : SizeKnown cfg d) :
    queueContent cfg d = logicalContent cfg d := by
  rw [WalnutGateway.queueContent, ← h.1, List.take_length, logicalContent, unreadRecords]

/-- A planned reboot of any state in which RAM knows the size of the file. -/
theorem Robust.planned_reboot (hcfg : cfg.WellFormed) (hp : cfg.persistOnReboot = true)
    (htcp : queueIsTcpSendQ cfg = true) (h : Robust cfg d) (hsize : SizeKnown cfg d)
    (hplain : ∀ x ∈ d.q.ringRows cfg, cfg.element.Plain x)
    (hok : (queueManagerPersist cfg d).1 = .success) (buffer : Nat → α) :
    queueContent cfg ((queueManagerPersist cfg d).2.rebooted cfg buffer) = queueContent cfg d := by
  obtain ⟨hq, hbytes, hsnap, hoff⟩ := queueManagerPersist_success hp htcp h hsize.2 hok
  have hlen : ((queueManagerPersist cfg d).2.overflowBytes cfg).length =
      (queueManagerPersist cfg d).2.q.fileSize := by rw [hbytes, hq]; exact hsize.1
  have hafter := logicalContent_rebooted hcfg hp hsnap hoff (by rw [hq]; exact h.sane.toInRange)
    (by rw [hq]; exact hplain) hlen buffer
  have hboot := (bootedFrom_rebooted hcfg hp (queueManagerPersist cfg d).2 buffer).file_ok
  have hbooted : queueContent cfg ((queueManagerPersist cfg d).2.rebooted cfg buffer) =
      logicalContent cfg ((queueManagerPersist cfg d).2.rebooted cfg buffer) := by
    rw [queueContent, ← hboot.1, List.take_length, logicalContent, unreadRecords]
  rw [hbooted, hafter, hsize.queueContent, logicalContent, unreadRecords, hbytes, hq,
    logicalContent, unreadRecords]

end Persist

/-- From any boot, through any calls, crashes and driver failures: if RAM knows
the size of the overflow file, a persist that succeeds lets the next boot find
the content as it was. -/
theorem planned_reboot_keeps_content {cfg : QueueConfig α} (hcfg : cfg.WellFormed)
    (hp : cfg.persistOnReboot = true) (htcp : queueIsTcpSendQ cfg = true)
    (flash : Flash FlashFile) (buffer : Nat → α) (ops : List (LifeOp α × List IoOutcome))
    (outcomes : List IoOutcome) :
    let d := ((lifeMachine cfg).run (bootQueue cfg flash buffer) ops).2.under outcomes
    SizeKnown cfg d → (∀ x ∈ d.q.ringRows cfg, cfg.element.Plain x) →
      (queueManagerPersist cfg d).1 = .success → ∀ buffer',
        queueContent cfg ((queueManagerPersist cfg d).2.rebooted cfg buffer') =
          queueContent cfg d := by
  intro d hsize hplain hok buffer'
  have hrun := robust_run hcfg htcp (robust_bootQueue hcfg flash buffer) ops
  exact (hrun.of_flash _).planned_reboot hcfg hp htcp hsize hplain hok buffer'

/-- Eight responses: the first is in the overflow file, seven are in the ring. -/
def eightReplies : List (LifeOp ModuleMessage × List IoOutcome) :=
  List.replicate 8 (.call (.push shortReply), [])

/-- A boot from an empty flash, and eight responses. -/
theorem planned_reboot_keeps_content_overflow :
    let d := ((lifeMachine tcpSendQueueConfig).run
      (bootQueue tcpSendQueueConfig ⟨fun _ => none, []⟩ zeroBuffer) eightReplies).2.under []
    queueContent tcpSendQueueConfig
        ((queueManagerPersist tcpSendQueueConfig d).2.rebooted tcpSendQueueConfig zeroBuffer) =
      queueContent tcpSendQueueConfig d :=
  planned_reboot_keeps_content wellFormed_tcpSendQueueConfig rfl
    queueIsTcpSendQ_tcpSendQueueConfig ⟨fun _ => none, []⟩ zeroBuffer eightReplies []
    (by decide +kernel) (by decide +kernel) (by decide +kernel) zeroBuffer

/-- The first response is popped and the delete of the drained file fails. The
persist and the boot succeed, and the response is back. -/
theorem failed_delete_brings_row_back :
    let d := ((lifeMachine tcpSendQueueConfig).run
      (bootQueue tcpSendQueueConfig ⟨fun _ => none, []⟩ zeroBuffer)
      (eightReplies ++
        [(.call (.pop 1), [.success, .success, .success, .success, .success, .fail 0])])).2.under []
    (∀ x ∈ d.q.ringRows tcpSendQueueConfig, tcpSendQueueConfig.element.Plain x) ∧
      (queueManagerPersist tcpSendQueueConfig d).1 = .success ∧
      (queueContent tcpSendQueueConfig d).length = 7 ∧
      (queueContent tcpSendQueueConfig
        ((queueManagerPersist tcpSendQueueConfig d).2.rebooted tcpSendQueueConfig
          zeroBuffer)).length = 8 ∧
      queueContent tcpSendQueueConfig
        ((queueManagerPersist tcpSendQueueConfig d).2.rebooted tcpSendQueueConfig zeroBuffer) ≠
          queueContent tcpSendQueueConfig d := by
  decide +kernel

end WalnutGateway
