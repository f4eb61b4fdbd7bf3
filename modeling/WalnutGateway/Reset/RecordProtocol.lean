import WalnutGateway.Core.Machine
import WalnutGateway.Reset.PreBoot
import Mathlib.Data.List.Induction

/-!
# The protocol of the pre-boot record

Boots, planned resets, crashes and offset calls in any order on a flash where
nothing fails. A ledger says what the record is for: a planned reset that no
boot has reported, how many were saved, and an offset to be taken once. The
handler answers as the ledger does. What the ledger holds is then read off the
history of calls, provided each power-on is followed by a boot: a call before it
stages from an empty record.
-/

namespace WalnutGateway

/-! ## Calls and their histories -/

/-- A planned reset that was saved. -/
structure PlannedReset where
  kind : ResetType
  time : UInt32
  source : List Byte
  deriving DecidableEq

/-- What can happen to the pre-boot record; a crash loses RAM. -/
inductive RecordOp
  | boot
  | crash
  | announce (kind : ResetType) (time : UInt32) (source : List Byte)
  | saveOffset (offset : UInt32)
  | clearOffset
  | takeOffset
  deriving DecidableEq

/-- What the caller gets to see. -/
inductive RecordAnswer
  | silent
  | prior (info : ResetHandlerLastSwResetInfo)
  | result (r : Result)
  | taken (offset : Option Nat)
  deriving DecidableEq

namespace RecordOp

/-- The planned reset a call saves, unless it is of a kind that is rejected. -/
def planned : RecordOp → Option PlannedReset
  | announce kind time source =>
    if kind ≠ .soft ∧ kind ≠ .hard then none else some ⟨kind, time, source⟩
  | _ => none

/-- Save, clear and take. -/
def isOffset : RecordOp → Bool
  | saveOffset _ => true
  | clearOffset => true
  | takeOffset => true
  | _ => false

/-- Whether RAM holds the record after the call, given whether it did before. -/
def powers : Bool → RecordOp → Bool
  | _, boot => true
  | _, crash => false
  | up, _ => up

end RecordOp

/-- Power, as the calls see it. -/
def powerMachine : Machine Bool RecordOp Unit where
  step up op := ((), op.powers up)

/-- The first call after power-on and after a crash is a boot. -/
def BootFirst (ops : List RecordOp) : Prop :=
  powerMachine.Along (fun up op => up = true ∨ op = .boot ∨ op = .crash) false ops

instance (ops : List RecordOp) : Decidable (BootFirst ops) :=
  inferInstanceAs (Decidable (powerMachine.Along _ _ _))

/-- The last planned reset that was saved, and no boot since. -/
def Unreported (ops : List RecordOp) (p : PlannedReset) : Prop :=
  Since (fun op => op.planned = some p) (fun op => op.planned = none ∧ op ≠ .boot) ops

/-- The latest of the offset calls saved `offset`. -/
def LatestSave (ops : List RecordOp) (offset : UInt32) : Prop :=
  Since (· = .saveOffset offset) (fun op => op.isOffset = false) ops

/-- How many planned resets were saved. -/
def savedResets (ops : List RecordOp) : Nat := ops.countP fun op => op.planned.isSome

/-! ## The ledger -/

/-- What the record is for. -/
structure Ledger where
  up : Bool
  pending : Option PlannedReset
  resets : Nat
  offset : Option UInt32

namespace Ledger

/-- Nothing saved yet. -/
def empty (up : Bool) : Ledger := ⟨up, none, 0, none⟩

/-- What a writing call starts from: without a boot, from nothing. -/
def staged (l : Ledger) : Ledger := if l.up then l else empty true

/-- What a boot reports. -/
def prior (l : Ledger) : ResetHandlerLastSwResetInfo :=
  match l.pending with
  | none => .zero
  | some p => ⟨p.kind, p.time, UInt32.ofNat l.resets, utilsStrncpySafe 33 p.source, true⟩

/-- What a take returns. -/
def taken (l : Ledger) : Option Nat :=
  if l.up then l.offset.map UInt32.toNat else none

end Ledger

/-- The record as two one-shot slots and a counter. -/
def ledgerMachine : Machine Ledger RecordOp RecordAnswer where
  step l op :=
    match op with
    | .boot => (.prior l.prior, { l with up := true, pending := none })
    | .crash => (.silent, { l with up := false })
    | .announce kind time source =>
      match (RecordOp.announce kind time source).planned with
      | none => (.result .invalidParam, l)
      | some p =>
        (.result .success, { l.staged with pending := some p, resets := l.staged.resets + 1 })
    | .saveOffset offset => (.result .success, { l.staged with offset := some offset })
    | .clearOffset => (.result .success, { l.staged with offset := none })
    | .takeOffset =>
      (.taken l.taken, { l with offset := if l.up then none else l.offset })

/-! ## The handler -/

/-- The calls of the pre-boot handler; a boot finds RAM zeroed. -/
def recordMachine : Machine PreBootStore RecordOp RecordAnswer where
  step s op :=
    match op with
    | .boot =>
      let b := (PreBootStore.powerOn s.flash).loadPriorReset
      (.prior b.1, b.2)
    | .crash => (.silent, .powerOn s.flash)
    | .announce kind time source =>
      let a := s.saveBeforeSocReset kind time source
      (.result a.1, a.2)
    | .saveOffset offset =>
      let o := s.saveTcpSendQueueOffset offset.toNat
      (.result o.1, o.2)
    | .clearOffset =>
      let c := s.clearTcpSendQueueOffset
      (.result c.1, c.2)
    | .takeOffset =>
      let t := s.takeTcpSendQueueOffset
      (.taken t.1, t.2)

/-- The record a boot would load, or create. -/
def recordOn (fs : Flash FlashFile) : PreBootOnDisk :=
  (PreBootStore.powerOn fs).diskLoadOrCreate.1

/-- The slot of the planned reset. -/
def PreBootOnDisk.resetSlot (r : PreBootOnDisk) : UInt32 × UInt32 × CArray 33 :=
  (r.resetType, r.resetTime, r.resetModule)

/-- The slot of the offset. -/
def PreBootOnDisk.offsetSlot (r : PreBootOnDisk) : UInt32 × UInt8 :=
  (r.tcpSendQueueFileReadOffset, r.tcpSendQueueOffsetValid)

/-! ## The handler keeps the ledger -/

/-- The fields of a record say what the ledger says. -/
structure PreBootOnDisk.Says (r : PreBootOnDisk) (l : Ledger) : Prop where
  header : diskHeaderOk r = true
  prior : PreBootStore.priorFromDisk r = l.prior
  total : r.totalResets = UInt32.ofNat l.resets
  absent : l.offset = none → r.tcpSendQueueOffsetValid = 0
  present : ∀ o, l.offset = some o →
    r.tcpSendQueueOffsetValid = 1 ∧ r.tcpSendQueueFileReadOffset = o

/-- Flash, and RAM while it holds the record, agree with the ledger. -/
structure KeepsLedger (s : PreBootStore) (l : Ledger) : Prop where
  sound : s.flash.Sound
  onFlash : (recordOn s.flash).Says l
  have_iff : s.cacheHave = l.up
  copy : l.up = true → s.sDisk = recordOn s.flash

namespace PreBootOnDisk

/-- The empty record says that nothing is saved. -/
theorem says_diskInitEmpty (up : Bool) : diskInitEmpty.Says (.empty up) where
  header := PreBootStore.diskHeaderOk_diskInitEmpty
  prior := (by decide : PreBootStore.priorFromDisk diskInitEmpty = .zero)
  total := rfl
  absent := fun _ => rfl
  present := fun _ h => nomatch h

/-- Power does not matter to what is on record. -/
theorem Says.power {r : PreBootOnDisk} {l : Ledger} (h : r.Says l) (up : Bool) :
    r.Says { l with up } := ⟨h.header, h.prior, h.total, h.absent, h.present⟩

/-- An offset slot that is set. -/
theorem Says.setOffset {r : PreBootOnDisk} {l : Ledger} (h : r.Says l) (offset : UInt32) :
    (diskSetTcpOffset r offset.toNat).Says { l with offset := some offset } where
  header := h.header
  prior := h.prior
  total := h.total
  absent := fun hnone => nomatch hnone
  present := by
    rintro o ⟨⟩
    exact ⟨rfl, UInt32.ofNat_toNat⟩

/-- An offset slot that is cleared. -/
theorem Says.clearOffset {r : PreBootOnDisk} {l : Ledger} (h : r.Says l) :
    (diskClearTcpOffset r).Says { l with offset := none } where
  header := h.header
  prior := h.prior
  total := h.total
  absent := fun _ => rfl
  present := fun _ hsome => nomatch hsome

/-- A reset slot that is cleared. -/
theorem Says.clearReset {r : PreBootOnDisk} {l : Ledger} (h : r.Says l) :
    (diskClearResetSlot r).Says { l with pending := none } where
  header := PreBootStore.diskHeaderOk_diskClearResetSlot h.header
  prior := if_pos (Or.inr rfl)
  total := h.total
  absent := h.absent
  present := h.present

/-- A record stays valid when a reset is announced in it. -/
theorem headerOk_announce {r : PreBootOnDisk} (h : diskHeaderOk r = true) {kind : ResetType}
    (hkind : kind = .soft ∨ kind = .hard) (time total : UInt32) (name : CArray 33) :
    diskHeaderOk { r with
      resetType := kind.toUInt32, resetTime := time, totalResets := total
      resetModule := name } = true := by
  simp only [diskHeaderOk, decide_eq_true_eq] at h ⊢
  refine ⟨h.1, h.2.1, ?_⟩
  rcases hkind with rfl | rfl <;> decide

/-- A name whose first character is cleared is the empty string. -/
theorem cString_set_zero (a : CArray 33) : cString (a.set 0 0).toList = [] := by
  rw [List.Vector.toList_set, cString]
  cases ha : a.toList with
  | nil => rfl
  | cons b bs => rfl

/-- A reset that is announced, with its module as far as the slot holds it. -/
theorem Says.announce {r : PreBootOnDisk} {l : Ledger} (h : r.Says l) {kind : ResetType}
    (hkind : kind = .soft ∨ kind = .hard) (time : UInt32) (source : List Byte) :
    ({ r with
      resetType := kind.toUInt32
      resetTime := time
      totalResets := r.totalResets + 1
      resetModule :=
        if cString source ≠ [] then utilsStrncpySafe 33 source
        else r.resetModule.set 0 0 } : PreBootOnDisk).Says
      { l with pending := some ⟨kind, time, source⟩, resets := l.resets + 1 } where
  header := headerOk_announce h.header hkind _ _ _
  prior := by
    have htype : kind.toUInt32 ≠ ResetType.none.toUInt32 := by
      rcases hkind with rfl | rfl <;> decide
    have hback : ResetType.ofUInt32 kind.toUInt32 = kind := by
      rcases hkind with rfl | rfl <;> decide
    have hmodule : utilsStrncpySafe 33 (if cString source ≠ [] then utilsStrncpySafe 33 source
        else r.resetModule.set 0 0 : CArray 33).toList = utilsStrncpySafe 33 source := by
      by_cases hs : cString source = []
      · rw [if_neg (not_not.mpr hs), utilsStrncpySafe, utilsStrncpySafe, hs, cString_set_zero]
      · rw [if_pos hs]
        exact utilsStrncpySafe_idem (by decide) source
    rw [PreBootStore.priorFromDisk, if_neg, hmodule, hback, h.total, ← UInt32.ofNat_one,
      ← UInt32.ofNat_add]
    · rfl
    · rw [not_or, not_not]
      exact ⟨headerOk_announce h.header hkind _ _ _, htype⟩
  total := by
    rw [h.total]
    exact (UInt32.ofNat_add _ _).symm
  absent := h.absent
  present := h.present

/-- A reset that nobody waits for leaves the slot as a boot finds it. -/
theorem Says.noReset {r : PreBootOnDisk} {l : Ledger} (h : r.Says l) (hp : l.pending = none) :
    r.Says { l with pending := none } := by
  obtain ⟨up, pending, resets, offset⟩ := l
  cases hp
  exact h

end PreBootOnDisk

section Steps

variable {fs : Flash FlashFile} {s : PreBootStore} {l : Ledger} {r : PreBootOnDisk}

/-- A record that was written is the one a boot loads. -/
theorem recordOn_put (h : fs.Sound) (hr : diskHeaderOk r = true) :
    recordOn (fs.put .preBootInfo r.toBytes) = r := by
  rw [recordOn, PreBootStore.diskLoadOrCreate_of_files (h.put _ _) (Flash.put_files_self _ _ _) hr]

/-- A record is read without changing the flash. -/
theorem diskRead_flash (h : s.flash.Sound) : s.diskRead.2.flash = s.flash := by
  unfold PreBootStore.diskRead
  cases hf : s.flash.files .preBootInfo with
  | none => rw [fileSystemReadFile_none h hf]
  | some bytes =>
    rw [fileSystemReadFile_some h hf]
    dsimp only
    split <;> rfl

/-- What is loaded was on flash, or is written there. -/
theorem diskLoadOrCreate_kept (h : s.flash.Sound) :
    s.diskLoadOrCreate.2.flash = s.flash ∨
      s.diskLoadOrCreate.2.flash.files .preBootInfo = some s.diskLoadOrCreate.1.toBytes := by
  have hread := diskRead_flash h
  have hnew (t : PreBootStore) (ht : t.flash.Sound) :
      (t.diskWrite diskInitEmpty).2.flash.files .preBootInfo = some diskInitEmpty.toBytes := by
    rw [PreBootStore.diskWrite_sound ht]
    exact Flash.put_files_self _ _ _
  have hdelete : (wmSdkFileDelete s.diskRead.2.flash .preBootInfo).2.Sound := by
    rw [hread, wmSdkFileDelete_sound h]
    exact h.erase _
  unfold PreBootStore.diskLoadOrCreate
  dsimp only
  split
  · exact Or.inr (hnew _ (hread.symm ▸ h))
  · exact Or.inr (hnew _ hdelete)
  · split
    · exact Or.inl hread
    · exact Or.inr (hnew _ hdelete)

/-- Loading leaves a flash from which the same record is loaded. -/
theorem diskLoadOrCreate_powerOn (h : fs.Sound) :
    ∃ fs', (PreBootStore.powerOn fs).diskLoadOrCreate = (recordOn fs, ⟨fs', recordOn fs, true⟩) ∧
      fs'.Sound ∧ recordOn fs' = recordOn fs := by
  obtain ⟨r, fs', hload, hr, hfs', -⟩ :=
    PreBootStore.diskLoadOrCreate_sound (s := .powerOn fs) h
  have hon : recordOn fs = r := congrArg Prod.fst hload
  refine ⟨fs', hon ▸ hload, hfs', ?_⟩
  have hkept := diskLoadOrCreate_kept (s := .powerOn fs) h
  rw [hload] at hkept
  rcases hkept with rfl | hfile
  · rfl
  · rw [hon, recordOn,
      PreBootStore.diskLoadOrCreate_of_files (s := .powerOn fs') hfs' hfile hr]

/-- Every store of a valid record is a step of the ledger that the record says. -/
theorem keepsLedger_store (h : s.flash.Sound) (hr : r.Says l) (hup : l.up = true) :
    KeepsLedger (s.diskStore r).2 l := by
  rw [PreBootStore.diskStore_sound h]
  have hon := recordOn_put h hr.header
  refine ⟨h.put _ _, ?_, hup.symm, fun _ => hon.symm⟩
  rw [hon]
  exact hr

/-- The count goes on from the copy, or starts at one. -/
theorem stagedFromCache_totalResets (s : PreBootStore) :
    s.stagedFromCache.totalResets + 1 =
      if s.cacheHave then s.sDisk.totalResets + 1 else 1 := by
  unfold PreBootStore.stagedFromCache
  split <;> rfl

/-- What is staged says what the ledger stages. -/
theorem KeepsLedger.staged (h : KeepsLedger s l) : s.stagedFromCache.Says l.staged := by
  unfold PreBootStore.stagedFromCache Ledger.staged
  rw [h.have_iff]
  split
  · rename_i hup
    rw [h.copy hup]
    exact h.onFlash
  · exact PreBootOnDisk.says_diskInitEmpty true

@[simp] theorem Ledger.staged_up (l : Ledger) : l.staged.up = true := by
  unfold Ledger.staged
  split
  · assumption
  · rfl

/-- Power off, and on again. -/
theorem KeepsLedger.crash (h : KeepsLedger s l) :
    KeepsLedger (.powerOn s.flash) { l with up := false } :=
  ⟨h.sound, h.onFlash.power false, rfl, fun hup => nomatch hup⟩

/-- A boot reports the pending reset and consumes it. -/
theorem KeepsLedger.boot (h : KeepsLedger s l) :
    (PreBootStore.powerOn s.flash).loadPriorReset.1 = l.prior ∧
      KeepsLedger (PreBootStore.powerOn s.flash).loadPriorReset.2
        { l with up := true, pending := none } := by
  obtain ⟨fs', hload, hfs', hon⟩ := diskLoadOrCreate_powerOn h.sound
  have hprior := h.onFlash.prior
  simp only [PreBootStore.loadPriorReset, hload, hprior]
  by_cases hv : l.prior.valid = true
  · rw [if_pos hv]
    refine ⟨rfl, ?_⟩
    simp only [PreBootStore.diskConsumeResetSlot, not_true_eq_false, if_false]
    exact keepsLedger_store hfs' (h.onFlash.clearReset.power true) rfl
  · rw [if_neg hv]
    have hnone : l.pending = none := by
      cases hp : l.pending with
      | none => rfl
      | some p => exact absurd (by rw [Ledger.prior, hp]) hv
    refine ⟨rfl, hfs', ?_, rfl, fun _ => hon.symm⟩
    rw [hon]
    exact (h.onFlash.noReset hnone).power true

/-- Every store succeeds. -/
theorem KeepsLedger.store_result (h : KeepsLedger s l) (r : PreBootOnDisk) :
    (s.diskStore r).1 = .success := by
  rw [PreBootStore.diskStore_sound h.sound]

/-- Taking hands the offset over once. -/
theorem KeepsLedger.take (h : KeepsLedger s l) :
    s.takeTcpSendQueueOffset.1 = l.taken ∧
      KeepsLedger s.takeTcpSendQueueOffset.2
        { l with offset := if l.up then none else l.offset } := by
  unfold PreBootStore.takeTcpSendQueueOffset Ledger.taken
  rw [h.have_iff]
  by_cases hup : l.up = true
  · rw [if_pos hup, if_pos hup]
    have hcopy := h.copy hup
    cases ho : l.offset with
    | none =>
      rw [if_pos (Or.inr (by rw [hcopy, h.onFlash.absent ho]))]
      refine ⟨rfl, ?_⟩
      obtain ⟨up, pending, resets, offset⟩ := l
      cases ho
      exact h
    | some o =>
      obtain ⟨hvalid, hoffset⟩ := h.onFlash.present o ho
      rw [if_neg (by rw [hcopy, hvalid, not_or, not_not]; exact ⟨hup, by decide⟩)]
      have hclear : KeepsLedger s.clearTcpSendQueueOffset.2 { l with offset := none } := by
        apply keepsLedger_store h.sound
        · have hstaged := h.staged.clearOffset
          rwa [Ledger.staged, if_pos hup] at hstaged
        · exact hup
      rw [PreBootStore.clearTcpSendQueueOffset_sound h.sound] at hclear ⊢
      refine ⟨?_, hclear⟩
      rw [hcopy, hoffset]
      rfl
  · rw [if_pos (Or.inl hup), if_neg hup, if_neg hup]
    exact ⟨rfl, h⟩

/-- The handler answers as the ledger does. -/
theorem recordMachine_step (h : KeepsLedger s l) (op : RecordOp) :
    (recordMachine.step s op).1 = (ledgerMachine.step l op).1 ∧
      KeepsLedger (recordMachine.step s op).2 (ledgerMachine.step l op).2 := by
  cases op with
  | boot =>
    obtain ⟨hprior, hnext⟩ := h.boot
    exact ⟨congrArg RecordAnswer.prior hprior, hnext⟩
  | crash => exact ⟨rfl, h.crash⟩
  | announce kind time source =>
    simp only [recordMachine, ledgerMachine, RecordOp.planned, PreBootStore.saveBeforeSocReset]
    by_cases hkind : kind ≠ .soft ∧ kind ≠ .hard
    · rw [if_pos hkind, if_pos hkind]
      exact ⟨rfl, h⟩
    · rw [if_neg hkind, if_neg hkind]
      have hok : kind = .soft ∨ kind = .hard := by
        by_contra hnot
        exact hkind (not_or.mp hnot)
      have hnext := keepsLedger_store h.sound (h.staged.announce hok time source) l.staged_up
      rw [stagedFromCache_totalResets] at hnext
      exact ⟨congrArg RecordAnswer.result (h.store_result _), hnext⟩
  | saveOffset offset =>
    have hnext := keepsLedger_store h.sound (h.staged.setOffset offset) l.staged_up
    exact ⟨congrArg RecordAnswer.result (h.store_result _), hnext⟩
  | clearOffset =>
    have hnext := keepsLedger_store h.sound h.staged.clearOffset l.staged_up
    exact ⟨congrArg RecordAnswer.result (h.store_result _), hnext⟩
  | takeOffset =>
    obtain ⟨htaken, hnext⟩ := h.take
    exact ⟨congrArg RecordAnswer.taken htaken, hnext⟩

end Steps

/-! ## What the history says -/

/-- The ledger is what the calls so far amount to. -/
structure Ledger.Recounts (l : Ledger) (past : List RecordOp) : Prop where
  pending : ∀ p, l.pending = some p ↔ Unreported past p
  resets : l.resets = savedResets past
  offset : ∀ o, l.offset = some o ↔ LatestSave past o

/-- A call that comes after the first boot. -/
def Ledger.Admits (l : Ledger) (op : RecordOp) : Prop := l.up = true ∨ op = .boot ∨ op = .crash

section Histories

variable {l : Ledger} {past : List RecordOp}

theorem Ledger.recounts_nil (up : Bool) : (Ledger.empty up).Recounts [] where
  pending := fun _ => ⟨nofun, fun h => absurd h not_since_nil⟩
  resets := rfl
  offset := fun _ => ⟨nofun, fun h => absurd h not_since_nil⟩

/-- In order, power is all that the calls tell about power. -/
theorem ledgerMachine_up {op : RecordOp} (h : l.Admits op) :
    (ledgerMachine.step l op).2.up = op.powers l.up := by
  rcases h with h | rfl | rfl
  · cases op with
    | announce kind time source =>
      simp only [ledgerMachine, RecordOp.powers]
      split
      · rfl
      · exact l.staged_up.trans h.symm
    | saveOffset offset => exact l.staged_up.trans h.symm
    | clearOffset => exact l.staged_up.trans h.symm
    | boot => rfl
    | crash => rfl
    | takeOffset => rfl
  · rfl
  · rfl

/-- Calls in order are admitted by the ledger, one after the other. -/
theorem ledgerMachine_along {ops : List RecordOp}
    (h : powerMachine.Along (fun up op => up = true ∨ op = .boot ∨ op = .crash) l.up ops) :
    ledgerMachine.Along Ledger.Admits l ops := by
  induction ops generalizing l with
  | nil => trivial
  | cons op ops ih =>
    refine ⟨h.1, ih ?_⟩
    rw [ledgerMachine_up h.1]
    exact h.2

theorem unreported_concat {op : RecordOp} {p : PlannedReset} :
    Unreported (past ++ [op]) p ↔
      op.planned = some p ∨ ((op.planned = none ∧ op ≠ .boot) ∧ Unreported past p) :=
  since_concat

theorem latestSave_concat {op : RecordOp} {o : UInt32} :
    LatestSave (past ++ [op]) o ↔
      op = .saveOffset o ∨ (op.isOffset = false ∧ LatestSave past o) :=
  since_concat

theorem savedResets_concat (past : List RecordOp) (op : RecordOp) :
    savedResets (past ++ [op]) = savedResets past + if op.planned.isSome then 1 else 0 := by
  rw [savedResets, List.countP_append, List.countP_singleton, savedResets]

/-- The reset slot after a call that neither saves nor reports a reset. -/
theorem Ledger.Recounts.keepReset (h : l.Recounts past) {op : RecordOp}
    (hplanned : op.planned = none) (hboot : op ≠ .boot) (p : PlannedReset) :
    l.pending = some p ↔ Unreported (past ++ [op]) p := by
  rw [unreported_concat, h.pending, hplanned]
  simp [hboot]

/-- The count after a call that saves no reset. -/
theorem Ledger.Recounts.keepCount (h : l.Recounts past) {op : RecordOp}
    (hplanned : op.planned = none) : l.resets = savedResets (past ++ [op]) := by
  rw [savedResets_concat, hplanned, h.resets]
  rfl

/-- The offset slot after a call that is not about offsets. -/
theorem Ledger.Recounts.keepOffset (h : l.Recounts past) {op : RecordOp}
    (hop : op.isOffset = false) (o : UInt32) :
    l.offset = some o ↔ LatestSave (past ++ [op]) o := by
  have hne : op ≠ .saveOffset o := by
    rintro rfl
    contradiction
  rw [latestSave_concat, h.offset]
  simp [hop, hne]

/-- The offset slot after a call that empties it. -/
theorem not_latestSave_concat {op : RecordOp} (hop : op.isOffset = true)
    (hsave : ∀ o, op ≠ .saveOffset o) (o : UInt32) : ¬ LatestSave (past ++ [op]) o := by
  rw [latestSave_concat]
  simp [hop, hsave o]

theorem Ledger.staged_of_up (h : l.up = true) : l.staged = l := if_pos h

/-- One call, and what it adds to the history. -/
theorem Ledger.Recounts.step (h : l.Recounts past) {op : RecordOp} (hop : l.Admits op) :
    (ledgerMachine.step l op).2.Recounts (past ++ [op]) := by
  cases op with
  | boot =>
    refine ⟨?_, h.keepCount rfl, h.keepOffset rfl⟩
    intro p
    rw [unreported_concat]
    simp [ledgerMachine, RecordOp.planned]
  | crash => exact ⟨h.keepReset rfl (by simp), h.keepCount rfl, h.keepOffset rfl⟩
  | announce kind time source =>
    have hup : l.up = true := by simpa [Admits] using hop
    cases hp : (RecordOp.announce kind time source).planned with
    | none =>
      simp only [ledgerMachine, hp]
      exact ⟨h.keepReset hp (by simp), h.keepCount hp, h.keepOffset rfl⟩
    | some q =>
      simp only [ledgerMachine, hp, staged_of_up hup]
      refine ⟨?_, ?_, h.keepOffset rfl⟩
      · intro p
        rw [unreported_concat, hp]
        simp
      · rw [savedResets_concat, hp, h.resets]
        rfl
  | saveOffset offset =>
    have hup : l.up = true := by simpa [Admits] using hop
    simp only [ledgerMachine, staged_of_up hup]
    refine ⟨h.keepReset rfl (by simp), h.keepCount rfl, ?_⟩
    intro o
    rw [latestSave_concat]
    constructor
    · intro ho
      exact Or.inl (congrArg RecordOp.saveOffset (Option.some.inj ho))
    · rintro (ho | ⟨hnot, -⟩)
      · exact congrArg some (RecordOp.saveOffset.inj ho)
      · cases hnot
  | clearOffset =>
    have hup : l.up = true := by simpa [Admits] using hop
    simp only [ledgerMachine, staged_of_up hup]
    refine ⟨h.keepReset rfl (by simp), h.keepCount rfl, ?_⟩
    intro o
    exact ⟨nofun, fun ho => absurd ho (not_latestSave_concat rfl (by simp) o)⟩
  | takeOffset =>
    have hup : l.up = true := by simpa [Admits] using hop
    simp only [ledgerMachine, if_pos hup]
    refine ⟨h.keepReset rfl (by simp), h.keepCount rfl, ?_⟩
    intro o
    exact ⟨nofun, fun ho => absurd ho (not_latestSave_concat rfl (by simp) o)⟩

end Histories

/-! ## One slot at a time -/

section Slots

variable {s : PreBootStore} {l : Ledger}

/-- With power on, calls start from the record on flash. -/
theorem KeepsLedger.staged_eq (h : KeepsLedger s l) (hup : l.up = true) :
    s.stagedFromCache = recordOn s.flash := by
  rw [PreBootStore.stagedFromCache, h.have_iff, if_pos hup, h.copy hup]

/-- The record a boot would load after a store. -/
theorem KeepsLedger.recordOn_store (h : KeepsLedger s l) {r : PreBootOnDisk}
    (hr : diskHeaderOk r = true) : recordOn (s.diskStore r).2.flash = r := by
  rw [PreBootStore.diskStore_sound h.sound]
  exact recordOn_put h.sound hr

/-- An offset call leaves the reset slot and the count alone. -/
theorem KeepsLedger.resetSlot_step (h : KeepsLedger s l) {op : RecordOp} (hop : l.Admits op)
    (hoffset : op.isOffset = true) :
    (recordOn (recordMachine.step s op).2.flash).resetSlot = (recordOn s.flash).resetSlot ∧
      (recordOn (recordMachine.step s op).2.flash).totalResets =
        (recordOn s.flash).totalResets := by
  have hup : l.up = true := by
    rcases hop with hup | rfl | rfl
    · exact hup
    · contradiction
    · contradiction
  have hstaged := h.staged_eq hup
  have hheader := h.onFlash.header
  have hclear : recordOn s.clearTcpSendQueueOffset.2.flash =
      diskClearTcpOffset (recordOn s.flash) := by
    rw [← hstaged] at hheader ⊢
    exact h.recordOn_store hheader
  cases op with
  | boot => contradiction
  | crash => contradiction
  | announce => contradiction
  | saveOffset offset =>
    have hsave : recordOn (s.saveTcpSendQueueOffset offset.toNat).2.flash =
        diskSetTcpOffset (recordOn s.flash) offset.toNat := by
      rw [← hstaged] at hheader ⊢
      exact h.recordOn_store hheader
    simp only [recordMachine, hsave]
    exact ⟨rfl, rfl⟩
  | clearOffset =>
    simp only [recordMachine, hclear]
    exact ⟨rfl, rfl⟩
  | takeOffset =>
    simp only [recordMachine, PreBootStore.takeTcpSendQueueOffset]
    split
    · exact ⟨rfl, rfl⟩
    · split
      · rw [hclear]
        exact ⟨rfl, rfl⟩
      · rw [hclear]
        exact ⟨rfl, rfl⟩

/-- A reset, a boot or a crash leaves the offset slot alone. -/
theorem KeepsLedger.offsetSlot_step (h : KeepsLedger s l) {op : RecordOp} (hop : l.Admits op)
    (hoffset : op.isOffset = false) :
    (recordOn (recordMachine.step s op).2.flash).offsetSlot = (recordOn s.flash).offsetSlot := by
  cases op with
  | crash => rfl
  | boot =>
    obtain ⟨fs', hload, hfs', hon⟩ := diskLoadOrCreate_powerOn h.sound
    simp only [recordMachine, PreBootStore.loadPriorReset, hload]
    split
    · simp only [PreBootStore.diskConsumeResetSlot, not_true_eq_false, if_false]
      rw [PreBootStore.diskStore_sound hfs',
        recordOn_put hfs' (PreBootStore.diskHeaderOk_diskClearResetSlot h.onFlash.header)]
      rfl
    · rw [hon]
  | announce kind time source =>
    have hup : l.up = true := by simpa [Ledger.Admits] using hop
    simp only [recordMachine, PreBootStore.saveBeforeSocReset]
    split
    · rfl
    · rename_i hkind
      have hok : kind = .soft ∨ kind = .hard := by
        by_contra hnot
        exact hkind (not_or.mp hnot)
      rw [h.recordOn_store (PreBootOnDisk.headerOk_announce h.staged.header hok _ _ _),
        h.staged_eq hup]
      rfl
  | saveOffset => contradiction
  | clearOffset => contradiction
  | takeOffset => contradiction

end Slots

/-! ## The protocol -/

/-- The handler after some calls, from the first power-on. -/
def recordAfter (fs : Flash FlashFile) (ops : List RecordOp) : PreBootStore :=
  (recordMachine.run (.powerOn fs) ops).2

/-- Calls in order keep a ledger that recounts them. -/
theorem recordAfter_ledger {fs : Flash FlashFile} (hfs : fs.Sound)
    (hnew : recordOn fs = diskInitEmpty) {ops : List RecordOp} (hops : BootFirst ops) :
    ∃ l, KeepsLedger (recordAfter fs ops) l ∧ l.Recounts ops ∧
      ∀ op, BootFirst (ops ++ [op]) → l.Admits op := by
  have hfirst : KeepsLedger (.powerOn fs) (.empty false) := by
    refine ⟨hfs, ?_, rfl, nofun⟩
    change (recordOn fs).Says _
    rw [hnew]
    exact PreBootOnDisk.says_diskInitEmpty false
  have hkeep := (Machine.refines recordMachine ledgerMachine (R := KeepsLedger) id id
    (fun _ _ op h _ => recordMachine_step h op) hfirst (Machine.Along.trivial _ _ ops)).2
  rw [List.map_id] at hkeep
  have halong := ledgerMachine_along (l := .empty false) hops
  have hrecount := ledgerMachine.invariant_past (I := fun past l => l.Recounts past)
    (fun _ _ _ h hop => Ledger.Recounts.step h hop) (Ledger.recounts_nil false) halong
  refine ⟨_, hkeep, hrecount, ?_⟩
  intro op hmore
  have hlong := ledgerMachine_along (l := .empty false) hmore
  exact (Machine.along_append.mp hlong).2.1

/-- The last step of a longer run. -/
theorem recordAfter_concat (fs : Flash FlashFile) (ops : List RecordOp) (op : RecordOp) :
    recordAfter fs (ops ++ [op]) = (recordMachine.step (recordAfter fs ops) op).2 :=
  Machine.run_append_snd recordMachine _ ops [op]

/-- What a take returns was saved, and no other offset call came since. -/
theorem take_of_recounts {s : PreBootStore} {l : Ledger} {past : List RecordOp}
    (hs : KeepsLedger s l) (hl : l.Recounts past) {o : Nat}
    (h : s.takeTcpSendQueueOffset.1 = some o) :
    ∃ offset, o = offset.toNat ∧ LatestSave past offset := by
  rw [hs.take.1, Ledger.taken] at h
  split at h
  · obtain ⟨offset, hoffset, rfl⟩ := Option.map_eq_some_iff.mp h
    exact ⟨offset, rfl, (hl.offset offset).mp hoffset⟩
  · contradiction

/-- A save that is the latest offset call came after any earlier one. -/
theorem LatestSave.mem_later {ops later : List RecordOp} {op : RecordOp} {offset : UInt32}
    (hop : op.isOffset = true) (hne : op ≠ .saveOffset offset)
    (h : LatestSave (ops ++ op :: later) offset) : .saveOffset offset ∈ later := by
  induction later using List.reverseRecOn with
  | nil =>
    rcases latestSave_concat.mp h with rfl | ⟨hkept, -⟩
    · exact absurd rfl hne
    · rw [hop] at hkept
      contradiction
  | append_singleton later last ih =>
    rw [← List.cons_append, ← List.append_assoc] at h
    rcases latestSave_concat.mp h with rfl | ⟨-, hpast⟩
    · exact List.mem_append_right _ (List.mem_singleton_self _)
    · exact List.mem_append_left _ (ih hpast)

/-- On a flash where nothing fails and with a boot first after each power-on: a
boot reports the last planned reset that was saved unless one did already, the
count is that of the saved resets, each call leaves the other slot alone, and a
take returns an offset only if saving it was the latest offset call, so that
after a take an offset has to be saved before one is returned. -/
theorem record_protocol {fs : Flash FlashFile} (hfs : fs.Sound)
    (hnew : recordOn fs = diskInitEmpty) {ops : List RecordOp} (hops : BootFirst ops) :
    let s := recordAfter fs ops
    let prior := (PreBootStore.powerOn s.flash).loadPriorReset.1
    (prior.valid = true ↔ ∃ p, Unreported ops p) ∧
    (∀ p, Unreported ops p →
      prior = ⟨p.kind, p.time, UInt32.ofNat (savedResets ops), utilsStrncpySafe 33 p.source,
        true⟩) ∧
    (recordOn s.flash).totalResets = UInt32.ofNat (savedResets ops) ∧
    (∀ op, BootFirst (ops ++ [op]) →
      let s' := recordAfter fs (ops ++ [op])
      (op.isOffset = true → (recordOn s'.flash).resetSlot = (recordOn s.flash).resetSlot ∧
        (recordOn s'.flash).totalResets = (recordOn s.flash).totalResets) ∧
      (op.isOffset = false →
        (recordOn s'.flash).offsetSlot = (recordOn s.flash).offsetSlot)) ∧
    (∀ o, s.takeTcpSendQueueOffset.1 = some o →
      ∃ offset, o = offset.toNat ∧ LatestSave ops offset) ∧
    (∀ later o, BootFirst (ops ++ .takeOffset :: later) →
      (recordAfter fs (ops ++ .takeOffset :: later)).takeTcpSendQueueOffset.1 = some o →
      ∃ offset, o = offset.toNat ∧ .saveOffset offset ∈ later) := by
  obtain ⟨l, hkeep, hl, hadmits⟩ := recordAfter_ledger hfs hnew hops
  have hprior := hkeep.boot.1
  refine ⟨?_, ?_, ?_, ?_, ?_, ?_⟩
  · rw [hprior]
    cases hp : l.pending with
    | none =>
      simp only [Ledger.prior, hp, ResetHandlerLastSwResetInfo.zero]
      refine ⟨nofun, ?_⟩
      rintro ⟨p, h⟩
      rw [(hl.pending p).mpr h] at hp
      contradiction
    | some p =>
      simp only [Ledger.prior, hp, true_iff]
      exact ⟨p, (hl.pending p).mp hp⟩
  · intro p h
    rw [hprior, Ledger.prior, (hl.pending p).mpr h, ← hl.resets]
  · rw [hkeep.onFlash.total, hl.resets]
  · intro op hmore
    rw [recordAfter_concat]
    exact ⟨hkeep.resetSlot_step (hadmits op hmore), hkeep.offsetSlot_step (hadmits op hmore)⟩
  · intro o h
    exact take_of_recounts hkeep hl h
  · intro later o hmore h
    obtain ⟨l', hkeep', hl', -⟩ := recordAfter_ledger hfs hnew hmore
    obtain ⟨offset, ho, hsave⟩ := take_of_recounts hkeep' hl' h
    exact ⟨offset, ho, hsave.mem_later rfl (by simp)⟩

/-- A planned reset, an offset, and a crash before the reset: the next boot reports it. -/
theorem record_protocol_crash :
    (PreBootStore.powerOn (recordAfter ⟨fun _ => none, []⟩
      [.boot, .announce .soft 7 [0x54], .saveOffset 5, .crash]).flash).loadPriorReset.1 =
      ⟨.soft, 7, 1, utilsStrncpySafe 33 [0x54], true⟩ :=
  (record_protocol (rfl : Flash.Sound (⟨fun _ => none, []⟩ : Flash FlashFile)) (by decide)
    (by decide)).2.1 ⟨.soft, 7, [0x54]⟩
    ⟨[.boot], .announce .soft 7 [0x54], [.saveOffset 5, .crash], rfl, by decide, by decide⟩

/-- An offset saved between a crash and the next boot erases the reset that waits for the boot. -/
theorem record_protocol_no_boot :
    let ops := [.boot, .announce .soft 7 [0x54], .crash, .saveOffset 5]
    let s := recordAfter ⟨fun _ => none, []⟩ ops
    Unreported ops ⟨.soft, 7, [0x54]⟩ ∧
      (PreBootStore.powerOn s.flash).loadPriorReset.1.valid = false ∧
      savedResets ops = 1 ∧ (recordOn s.flash).totalResets = 0 := by
  refine ⟨⟨[.boot], .announce .soft 7 [0x54], [.crash, .saveOffset 5], rfl, ?_, ?_⟩, ?_⟩
  · decide
  · decide
  · decide +kernel

end WalnutGateway
