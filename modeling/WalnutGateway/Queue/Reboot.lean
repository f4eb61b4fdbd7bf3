import WalnutGateway.Queue.Boot

/-!
# What a reboot restores

Three things have to be right at a reset: the snapshot file holds the ring, the
pre-boot record leads to the read offset, and RAM knows the size of the overflow
file. Then the next boot finds the queue as it was, row by row, and the read
offset between the same two records.
-/

namespace WalnutGateway

variable {α : Type}

/-- The snapshot on flash is that of the ring, or both are missing. -/
def SnapshotCurrent (cfg : QueueConfig α) (d : Device α) : Prop :=
  d.flash.files (snapshotFile cfg) = some (snapshotBytes cfg d.q) ∨
    (d.flash.files (snapshotFile cfg) = none ∧ d.q.count = 0)

/-- The pre-boot record on flash leads the next boot to the read offset. -/
def OffsetCurrent (cfg : QueueConfig α) (d : Device α) : Prop :=
  ∃ r : PreBootOnDisk, d.flash.files .preBootInfo = some r.toBytes ∧ diskHeaderOk r = true ∧
    restoredOffset cfg (PreBootStore.savedOffset ⟨d.flash, r, true⟩) d.q.fileSize =
      d.q.fileReadOffset

/-- A reset at this moment, followed by a boot where nothing fails. -/
def Device.rebooted (cfg : QueueConfig α) (d : Device α) (buffer : Nat → α) : Device α :=
  bootQueue cfg ⟨d.flash.files, []⟩ buffer

/-- The store the boot starts from. -/
def Device.rebootStore (d : Device α) : PreBootStore :=
  (PreBootStore.powerOn ⟨d.flash.files, []⟩).loadPriorReset.2

section Reboot

variable {cfg : QueueConfig α} {d : Device α}

/-- What was read stays framed where a boot reads on. -/
theorem BootedFrom.doneOk {s : PreBootStore} (h : BootedFrom cfg s d)
    (hdone : ∃ rs, (queueFraming cfg).Framed
      ((s.flash.contents (overflowFile cfg)).take (bootOffset cfg s)) rs) : DoneOk cfg d := by
  obtain ⟨q, hq⟩ := h.file
  by_cases hend : bootOffset cfg s = (s.flash.contents (overflowFile cfg)).length
  · refine .of_start ?_
    rw [hq, Queue.resumed, if_pos hend, if_pos hend]
  · have hoff : d.q.fileReadOffset = bootOffset cfg s := by
      rw [hq, Queue.resumed, if_neg hend, if_neg hend]
    rw [DoneOk, h.bytes_eq, if_neg hend, hoff]
    exact hdone

/-- The boot sequence touches neither the snapshot nor the overflow file. -/
theorem rebootStore_files {path : FlashFile} (hp : path ≠ .preBootInfo) :
    d.rebootStore.flash.files path = d.flash.files path :=
  (PreBootStore.loadPriorReset_sound (s := .powerOn ⟨d.flash.files, []⟩) rfl).2.2 path hp

theorem rebootStore_overflow (cfg : QueueConfig α) (d : Device α) :
    d.rebootStore.flash.contents (overflowFile cfg) = d.overflowBytes cfg :=
  congrArg (Option.getD · []) (rebootStore_files (overflowFile_ne_preBootInfo cfg))

theorem bootedFrom_rebooted (hcfg : cfg.WellFormed) (hp : cfg.persistOnReboot = true)
    (d : Device α) (buffer : Nat → α) : BootedFrom cfg d.rebootStore (d.rebooted cfg buffer) :=
  queueManagerCreate_sound
    (PreBootStore.loadPriorReset_sound (s := .powerOn ⟨d.flash.files, []⟩) rfl).1 hp hcfg.hasFile
    buffer

/-- A current snapshot gives the rows, and a window if the ring was one. -/
theorem SnapshotCurrent.bootSnapshot (hcfg : cfg.WellFormed) (h : SnapshotCurrent cfg d)
    (hr : d.q.InRange cfg) (hplain : ∀ x ∈ d.q.ringRows cfg, cfg.element.Plain x) :
    (bootSnapshot cfg d.rebootStore.flash).rows = d.q.ringRows cfg ∧
      (d.q.RingOk cfg → (bootSnapshot cfg d.rebootStore.flash).tail =
        ((bootSnapshot cfg d.rebootStore.flash).head +
          (bootSnapshot cfg d.rebootStore.flash).count) % cfg.capacity) := by
  unfold WalnutGateway.bootSnapshot
  rw [rebootStore_files (snapshotFile_ne_preBootInfo cfg)]
  obtain hf | ⟨hf, hcount⟩ := h
  · rw [hf, Option.bind_some, snapshotParse_snapshotBytes hcfg.capacity_lt hr hplain,
      Option.getD_some]
    exact ⟨rfl, fun hring => hring.tail_eq⟩
  · rw [hf, Option.bind_none, Option.getD_none]
    refine ⟨?_, fun _ => (Nat.zero_mod _).symm⟩
    rw [Queue.ringRows, hcount]
    rfl

/-- A current record gives the offset. -/
theorem OffsetCurrent.bootOffset (h : OffsetCurrent cfg d)
    (hsize : (d.overflowBytes cfg).length = d.q.fileSize) :
    bootOffset cfg d.rebootStore = d.q.fileReadOffset := by
  obtain ⟨r, hf, hr, hoff⟩ := h
  rw [WalnutGateway.bootOffset, rebootStore_overflow, hsize, Device.rebootStore,
    PreBootStore.savedOffset_loadPriorReset (s := .powerOn ⟨d.flash.files, []⟩) rfl hf hr]
  exact hoff

/-- The content survives. -/
theorem logicalContent_rebooted (hcfg : cfg.WellFormed) (hp : cfg.persistOnReboot = true)
    (hsnap : SnapshotCurrent cfg d) (hoff : OffsetCurrent cfg d) (hr : d.q.InRange cfg)
    (hplain : ∀ x ∈ d.q.ringRows cfg, cfg.element.Plain x)
    (hsize : (d.overflowBytes cfg).length = d.q.fileSize) (buffer : Nat → α) :
    logicalContent cfg (d.rebooted cfg buffer) = logicalContent cfg d := by
  rw [(bootedFrom_rebooted hcfg hp d buffer).logicalContent_eq, rebootStore_overflow,
    hoff.bootOffset hsize, (hsnap.bootSnapshot hcfg hr hplain).1, logicalContent, unreadRecords]

/-- So does the order of the queue. -/
theorem queueInv_rebooted (hcfg : cfg.WellFormed) (hp : cfg.persistOnReboot = true)
    (hsnap : SnapshotCurrent cfg d) (hoff : OffsetCurrent cfg d) (h : QueueInv cfg d)
    (hplain : ∀ x ∈ d.q.ringRows cfg, cfg.element.Plain x) (buffer : Nat → α) :
    QueueInv cfg (d.rebooted cfg buffer) := by
  have hboot := bootedFrom_rebooted hcfg hp d buffer
  have htail := (hsnap.bootSnapshot hcfg h.ring.inRange hplain).2 h.ring
  have hread := hoff.bootOffset h.size_eq
  have hring := (hboot.ringOk_iff hcfg).mpr htail
  refine ⟨⟨hboot.storeOk hring, ?_⟩, hboot.doneOk ?_⟩
  · rw [hboot.drop_eq, rebootStore_overflow, hread]
    exact h.unread
  · rw [rebootStore_overflow, hread]
    exact h.done

end Reboot

end WalnutGateway
