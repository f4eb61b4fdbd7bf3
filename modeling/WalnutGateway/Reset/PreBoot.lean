import WalnutGateway.Common.Utils
import WalnutGateway.Storage.FileSystem

/-!
# The pre-boot record

`system/reset/pre_boot_handler.c`: one packed record on flash with a copy in
RAM. It carries the reason of the last planned reset and the read offset of the
TCP send queue's overflow file. Every store writes the whole record and then
refreshes the copy; the offset is taken at most once.
-/

namespace WalnutGateway

/-! ## The record -/

/-- `PRE_BOOT_MAGIC`. -/
def preBootMagic : UInt32 := 0x46494250

/-- `PRE_BOOT_VERSION`. -/
def preBootVersion : UInt32 := 4

/-- `ResetType` of `pre_boot_handler.h`. -/
inductive ResetType
  | none
  | cfun
  | soft
  | hard
  deriving DecidableEq, Repr

/-- The enumerator's value. -/
def ResetType.toUInt32 : ResetType → UInt32
  | .none => 0
  | .cfun => 1
  | .soft => 2
  | .hard => 3

/-- `(ResetType)v` for a value that `resetTypeValid` admits. -/
def ResetType.ofUInt32 (v : UInt32) : ResetType :=
  if v = 1 then .cfun else if v = 2 then .soft else if v = 3 then .hard else .none

/-- `PreBootOnDisk`, packed. -/
structure PreBootOnDisk where
  magic : UInt32
  version : UInt32
  resetType : UInt32
  resetTime : UInt32
  totalResets : UInt32
  resetModule : CArray 33
  tcpSendQueueFileReadOffset : UInt32
  tcpSendQueueOffsetValid : UInt8
  deriving DecidableEq

/-- `ResetHandlerLastSwResetInfo`. -/
structure ResetHandlerLastSwResetInfo where
  resetType : ResetType
  resetTime : UInt32
  totalResets : UInt32
  moduleName : CArray 33
  valid : Bool
  deriving DecidableEq

/-- The zeroed snapshot (`memset`). -/
def ResetHandlerLastSwResetInfo.zero : ResetHandlerLastSwResetInfo :=
  ⟨.none, 0, 0, CArray.ofList 33 [], false⟩

namespace PreBootOnDisk

/-- `sizeof(PreBootOnDisk)`. -/
def size : Nat := 58

/-- The bytes of a record. -/
def toBytes (r : PreBootOnDisk) : List Byte :=
  leBytes 4 r.magic.toNat ++ (leBytes 4 r.version.toNat ++ (leBytes 4 r.resetType.toNat ++
    (leBytes 4 r.resetTime.toNat ++ (leBytes 4 r.totalResets.toNat ++ (r.resetModule.toList ++
      (leBytes 4 r.tcpSendQueueFileReadOffset.toNat ++ [r.tcpSendQueueOffsetValid]))))))

/-- The 32-bit word at a byte position. -/
def wordAt (bs : List Byte) (i : Nat) : UInt32 := UInt32.ofNat (leNat ((bs.drop i).take 4))

/-- The record found in `size` bytes. -/
def ofBytes (bs : List Byte) : PreBootOnDisk where
  magic := wordAt bs 0
  version := wordAt bs 4
  resetType := wordAt bs 8
  resetTime := wordAt bs 12
  totalResets := wordAt bs 16
  resetModule := CArray.ofList 33 ((bs.drop 20).take 33)
  tcpSendQueueFileReadOffset := wordAt bs 53
  tcpSendQueueOffsetValid := (bs.drop 57).headD 0

@[simp] theorem length_toBytes (r : PreBootOnDisk) : r.toBytes.length = size := by
  simp [toBytes, size]

theorem toBytes_ne_nil (r : PreBootOnDisk) : r.toBytes ≠ [] := by
  intro h
  have hl := r.length_toBytes
  rw [h] at hl
  contradiction

/-- A word is found behind the bytes that precede it. -/
theorem wordAt_append {pre suf : List Byte} {i : Nat} (hi : pre.length = i) (v : UInt32) :
    wordAt (pre ++ (leBytes 4 v.toNat ++ suf)) i = v := by
  have hl : (leBytes 4 v.toNat).length = 4 := length_leBytes ..
  rw [wordAt, ← hi, List.drop_left, List.take_left' hl,
    leNat_leBytes (by simpa using v.toNat_lt), UInt32.ofNat_toNat]

/-- Writing a record and reading it back gives the record. -/
theorem ofBytes_toBytes (r : PreBootOnDisk) : ofBytes r.toBytes = r := by
  have hmod : (r.resetModule.toList).length = 33 := r.resetModule.toList_length
  have h4 (v : UInt32) : (leBytes 4 v.toNat).length = 4 := length_leBytes ..
  have hmagic : wordAt r.toBytes 0 = r.magic := wordAt_append List.length_nil r.magic
  have hversion : wordAt r.toBytes 4 = r.version := wordAt_append (h4 _) r.version
  have htype : wordAt r.toBytes 8 = r.resetType := by
    rw [toBytes]
    simp only [← List.append_assoc _ _ (leBytes 4 r.resetType.toNat ++ _)]
    exact wordAt_append (by simp) r.resetType
  have htime : wordAt r.toBytes 12 = r.resetTime := by
    rw [toBytes]
    simp only [← List.append_assoc _ _ (leBytes 4 r.resetTime.toNat ++ _)]
    exact wordAt_append (by simp) r.resetTime
  have htotal : wordAt r.toBytes 16 = r.totalResets := by
    rw [toBytes]
    simp only [← List.append_assoc _ _ (leBytes 4 r.totalResets.toNat ++ _)]
    exact wordAt_append (by simp) r.totalResets
  have hoffset : wordAt r.toBytes 53 = r.tcpSendQueueFileReadOffset := by
    rw [toBytes]
    simp only [← List.append_assoc _ _ (leBytes 4 r.tcpSendQueueFileReadOffset.toNat ++ _)]
    exact wordAt_append (by simp) r.tcpSendQueueFileReadOffset
  have hname : (r.toBytes.drop 20).take 33 = r.resetModule.toList := by
    simp [toBytes, List.drop_append, hmod, List.drop_eq_nil_of_le]
  have hvalid : (r.toBytes.drop 57).headD 0 = r.tcpSendQueueOffsetValid := by
    simp [toBytes, List.drop_append, hmod]
  rw [ofBytes, hmagic, hversion, htype, htime, htotal, hoffset, hname, hvalid,
    CArray.ofList_toList]

end PreBootOnDisk

/-- `reset_type_valid`. -/
def resetTypeValid (v : UInt32) : Bool := v ≤ ResetType.hard.toUInt32

/-- `disk_header_ok`. -/
def diskHeaderOk (r : PreBootOnDisk) : Bool :=
  r.magic = preBootMagic ∧ r.version = preBootVersion ∧ resetTypeValid r.resetType

/-- `disk_init_empty`. -/
def diskInitEmpty : PreBootOnDisk :=
  ⟨preBootMagic, preBootVersion, 0, 0, 0, CArray.ofList 33 [], 0, 0⟩

/-- `disk_clear_reset_slot`: of the module name only the first character is cleared. -/
def diskClearResetSlot (r : PreBootOnDisk) : PreBootOnDisk :=
  { r with
    resetType := ResetType.none.toUInt32
    resetTime := 0
    resetModule := r.resetModule.set 0 0 }

/-- `disk_clear_tcp_offset`. -/
def diskClearTcpOffset (r : PreBootOnDisk) : PreBootOnDisk :=
  { r with tcpSendQueueFileReadOffset := 0, tcpSendQueueOffsetValid := 0 }

/-- The record with an offset in it (`pre_boot_handler_save_tcp_send_queue_offset`). -/
def diskSetTcpOffset (r : PreBootOnDisk) (offset : Nat) : PreBootOnDisk :=
  { r with tcpSendQueueFileReadOffset := UInt32.ofNat offset, tcpSendQueueOffsetValid := 1 }

/-! ## The handler -/

/-- The flash, the copy `s_disk`, and the `PB_CACHE_HAVE` flag. -/
structure PreBootStore where
  flash : Flash FlashFile
  sDisk : PreBootOnDisk
  cacheHave : Bool

namespace PreBootStore

/-- After a reset: the flash as it was, and zeroed RAM. -/
def powerOn (flash : Flash FlashFile) : PreBootStore :=
  ⟨flash, ⟨0, 0, 0, 0, 0, CArray.ofList 33 [], 0, 0⟩, false⟩

/-- `cache_set`. -/
def cacheSet (s : PreBootStore) (r : PreBootOnDisk) : PreBootStore :=
  { s with sDisk := r, cacheHave := true }

/-- `staged_from_cache`. -/
def stagedFromCache (s : PreBootStore) : PreBootOnDisk :=
  if s.cacheHave then s.sDisk else diskInitEmpty

/-- `disk_read`. -/
def diskRead (s : PreBootStore) : Except Result PreBootOnDisk × PreBootStore :=
  let r := fileSystemReadFile s.flash .preBootInfo PreBootOnDisk.size
  match r.1 with
  | .error _ => (.error .notFound, { s with flash := r.2 })
  | .ok bs =>
    if bs.length ≠ PreBootOnDisk.size then (.error .error, { s with flash := r.2 })
    else (.ok (PreBootOnDisk.ofBytes bs), { s with flash := r.2 })

/-- `disk_write`. -/
def diskWrite (s : PreBootStore) (r : PreBootOnDisk) : Result × PreBootStore :=
  let w := fileSystemWriteFile s.flash .preBootInfo r.toBytes
  (w.1, { s with flash := w.2 })

/-- `disk_store`. -/
def diskStore (s : PreBootStore) (r : PreBootOnDisk) : Result × PreBootStore :=
  let w := s.diskWrite r
  if w.1 = .success then (w.1, w.2.cacheSet r) else w

/-- `disk_load_or_create`. -/
def diskLoadOrCreate (s : PreBootStore) : PreBootOnDisk × PreBootStore :=
  let rd := s.diskRead
  let recreate (s : PreBootStore) : PreBootOnDisk × PreBootStore :=
    (diskInitEmpty, (s.diskWrite diskInitEmpty).2.cacheSet diskInitEmpty)
  match rd.1 with
  | .error .notFound => recreate rd.2
  | .error _ => recreate { rd.2 with flash := (wmSdkFileDelete rd.2.flash .preBootInfo).2 }
  | .ok r =>
    if diskHeaderOk r then (r, rd.2.cacheSet r)
    else recreate { rd.2 with flash := (wmSdkFileDelete rd.2.flash .preBootInfo).2 }

/-- `prior_from_disk`. -/
def priorFromDisk (r : PreBootOnDisk) : ResetHandlerLastSwResetInfo :=
  if ¬ diskHeaderOk r ∨ r.resetType = ResetType.none.toUInt32 then .zero
  else ⟨.ofUInt32 r.resetType, r.resetTime, r.totalResets,
    utilsStrncpySafe 33 r.resetModule.toList, true⟩

/-- `disk_consume_reset_slot`. -/
def diskConsumeResetSlot (s : PreBootStore) : Result × PreBootStore :=
  if ¬ s.cacheHave then (.error, s) else s.diskStore (diskClearResetSlot s.sDisk)

/-- `pre_boot_handler_load_prior_reset`. -/
def loadPriorReset (s : PreBootStore) : ResetHandlerLastSwResetInfo × PreBootStore :=
  let l := s.diskLoadOrCreate
  let prior := priorFromDisk l.1
  if prior.valid then (prior, l.2.diskConsumeResetSlot.2) else (prior, l.2)

/-- `pre_boot_handler_save_before_soc_reset`. -/
def saveBeforeSocReset (s : PreBootStore) (resetType : ResetType) (resetTime : UInt32)
    (moduleName : List Byte) : Result × PreBootStore :=
  if resetType ≠ .soft ∧ resetType ≠ .hard then (.invalidParam, s) else
  let staged := s.stagedFromCache
  s.diskStore
    { staged with
      resetType := resetType.toUInt32
      resetTime := resetTime
      totalResets := if s.cacheHave then s.sDisk.totalResets + 1 else 1
      resetModule :=
        if cString moduleName ≠ [] then utilsStrncpySafe 33 moduleName
        else staged.resetModule.set 0 0 }

/-- `pre_boot_handler_save_tcp_send_queue_offset`. -/
def saveTcpSendQueueOffset (s : PreBootStore) (offset : Nat) : Result × PreBootStore :=
  s.diskStore (diskSetTcpOffset s.stagedFromCache offset)

/-- `pre_boot_handler_clear_tcp_send_queue_offset`. -/
def clearTcpSendQueueOffset (s : PreBootStore) : Result × PreBootStore :=
  s.diskStore (diskClearTcpOffset s.stagedFromCache)

/-- `pre_boot_handler_take_tcp_send_queue_offset`: the offset, if one is saved. -/
def takeTcpSendQueueOffset (s : PreBootStore) : Option Nat × PreBootStore :=
  if ¬ s.cacheHave ∨ s.sDisk.tcpSendQueueOffsetValid = 0 then (none, s) else
  let offset := s.sDisk.tcpSendQueueFileReadOffset.toNat
  let c := s.clearTcpSendQueueOffset
  if c.1 ≠ .success then (some offset, { c.2 with sDisk := diskClearTcpOffset c.2.sDisk })
  else (some offset, c.2)

/-- The copy in RAM, if there is one, has a valid header. -/
def CacheOk (s : PreBootStore) : Prop := s.cacheHave = true → diskHeaderOk s.sDisk = true

/-- The saved offset the next take will give. -/
def savedOffset (s : PreBootStore) : Option Nat :=
  if ¬ s.cacheHave ∨ s.sDisk.tcpSendQueueOffsetValid = 0 then none
  else some s.sDisk.tcpSendQueueFileReadOffset.toNat

/-! ### Records and their headers -/

theorem diskHeaderOk_diskInitEmpty : diskHeaderOk diskInitEmpty = true := by decide

/-- Clearing the reset slot keeps a valid header. -/
theorem diskHeaderOk_diskClearResetSlot {r : PreBootOnDisk} (h : diskHeaderOk r = true) :
    diskHeaderOk (diskClearResetSlot r) = true := by
  simp only [diskHeaderOk, decide_eq_true_eq] at h ⊢
  exact ⟨h.1, h.2.1, (by decide : resetTypeValid ResetType.none.toUInt32 = true)⟩

/-- Every record staged from a valid copy has a valid header. -/
theorem CacheOk.stagedFromCache {s : PreBootStore} (h : s.CacheOk) :
    diskHeaderOk s.stagedFromCache = true := by
  unfold PreBootStore.stagedFromCache
  split
  · exact h ‹_›
  · exact diskHeaderOk_diskInitEmpty

/-! ### What a call leaves alone, whatever the driver does -/

/-- At most the record's file and its copy differ, and the copy is as valid as before. -/
structure RecordEffect (s s' : PreBootStore) : Prop where
  files : s.flash.SameBut .preBootInfo s'.flash
  cache : s.CacheOk → s'.CacheOk

section Effects

variable {s s' s'' : PreBootStore}

theorem RecordEffect.refl (s : PreBootStore) : s.RecordEffect s := ⟨.refl _ _, id⟩

theorem RecordEffect.trans (h : s.RecordEffect s') (h' : s'.RecordEffect s'') :
    s.RecordEffect s'' := ⟨h.files.trans h'.files, h'.cache ∘ h.cache⟩

/-- The copy is taken only of what was written in full. -/
theorem diskStore_effect (s : PreBootStore) {r : PreBootOnDisk}
    (hr : s.CacheOk → diskHeaderOk r = true) : s.RecordEffect (s.diskStore r).2 := by
  have hwrite := fileSystemWriteFile_sameBut s.flash .preBootInfo r.toBytes
  unfold diskStore diskWrite
  dsimp only
  split
  · exact ⟨hwrite, fun h _ => hr h⟩
  · exact ⟨hwrite, id⟩

/-- A store that succeeds puts the record on flash and in the copy. -/
theorem diskStore_success {s : PreBootStore} {r : PreBootOnDisk}
    (h : (s.diskStore r).1 = .success) :
    (s.diskStore r).2.flash.files .preBootInfo = some r.toBytes ∧
      (s.diskStore r).2.sDisk = r ∧ (s.diskStore r).2.cacheHave = true := by
  unfold diskStore diskWrite at h ⊢
  dsimp only at h ⊢
  split at h
  · rename_i hw
    rw [if_pos hw]
    exact ⟨fileSystemWriteFile_success hw, rfl, rfl⟩
  · contradiction

/-- However the read goes, a valid record is cached afterwards. -/
theorem diskLoadOrCreate_effect (s : PreBootStore) :
    s.flash.SameBut .preBootInfo s.diskLoadOrCreate.2.flash ∧
      s.diskLoadOrCreate.2.cacheHave = true ∧ s.diskLoadOrCreate.2.sDisk = s.diskLoadOrCreate.1 ∧
      diskHeaderOk s.diskLoadOrCreate.1 = true := by
  have hread : s.flash.SameBut .preBootInfo s.diskRead.2.flash := by
    have hfiles := fileSystemReadFile_files s.flash .preBootInfo PreBootOnDisk.size
    unfold diskRead
    dsimp only
    split
    · exact .of_files hfiles
    · split <;> exact .of_files hfiles
  have hdelete := hread.trans (wmSdkFileDelete_sameBut s.diskRead.2.flash .preBootInfo)
  unfold diskLoadOrCreate
  dsimp only
  split
  · exact ⟨hread.trans (fileSystemWriteFile_sameBut _ _ _), rfl, rfl, diskHeaderOk_diskInitEmpty⟩
  · exact ⟨hdelete.trans (fileSystemWriteFile_sameBut _ _ _), rfl, rfl, diskHeaderOk_diskInitEmpty⟩
  · split
    · exact ⟨hread, rfl, rfl, ‹_›⟩
    · exact ⟨hdelete.trans (fileSystemWriteFile_sameBut _ _ _), rfl, rfl,
        diskHeaderOk_diskInitEmpty⟩

/-- The boot sequence ends with a valid copy. -/
theorem loadPriorReset_effect (s : PreBootStore) :
    s.flash.SameBut .preBootInfo s.loadPriorReset.2.flash ∧ s.loadPriorReset.2.CacheOk := by
  obtain ⟨hfiles, -, hcopy, hheader⟩ := s.diskLoadOrCreate_effect
  have hok : s.diskLoadOrCreate.2.CacheOk := fun _ => by rw [hcopy]; exact hheader
  unfold loadPriorReset
  dsimp only
  split
  · unfold diskConsumeResetSlot
    split
    · exact ⟨hfiles, hok⟩
    · have hstore := s.diskLoadOrCreate.2.diskStore_effect
        (r := diskClearResetSlot s.diskLoadOrCreate.2.sDisk)
        fun _ => diskHeaderOk_diskClearResetSlot (by rw [hcopy]; exact hheader)
      exact ⟨hfiles.trans hstore.files, hstore.cache hok⟩
  · exact ⟨hfiles, hok⟩

theorem saveTcpSendQueueOffset_effect (s : PreBootStore) (offset : Nat) :
    s.RecordEffect (s.saveTcpSendQueueOffset offset).2 :=
  s.diskStore_effect fun h => h.stagedFromCache

theorem clearTcpSendQueueOffset_effect (s : PreBootStore) :
    s.RecordEffect s.clearTcpSendQueueOffset.2 :=
  s.diskStore_effect fun h => h.stagedFromCache

theorem takeTcpSendQueueOffset_effect (s : PreBootStore) :
    s.RecordEffect s.takeTcpSendQueueOffset.2 := by
  have hclear := s.clearTcpSendQueueOffset_effect
  unfold takeTcpSendQueueOffset
  split
  · exact .refl s
  · dsimp only
    split
    · exact ⟨hclear.files, fun h => hclear.cache h⟩
    · exact hclear

theorem saveBeforeSocReset_effect (s : PreBootStore) (resetType : ResetType)
    (resetTime : UInt32) (moduleName : List Byte) :
    s.RecordEffect (s.saveBeforeSocReset resetType resetTime moduleName).2 := by
  unfold saveBeforeSocReset
  split
  · exact .refl s
  · rename_i htype
    refine s.diskStore_effect fun h => ?_
    have hstaged := h.stagedFromCache
    simp only [diskHeaderOk, decide_eq_true_eq] at hstaged ⊢
    refine ⟨hstaged.1, hstaged.2.1, ?_⟩
    cases resetType <;> decide

end Effects

/-! ### A flash where nothing fails -/

section Sound

variable {s : PreBootStore}

theorem diskWrite_sound (h : s.flash.Sound) (r : PreBootOnDisk) :
    s.diskWrite r = (.success, { s with flash := s.flash.put .preBootInfo r.toBytes }) := by
  simp only [diskWrite, fileSystemWriteFile_sound h .preBootInfo r.toBytes_ne_nil]

/-- A store puts the record on flash and in the cache. -/
theorem diskStore_sound (h : s.flash.Sound) (r : PreBootOnDisk) :
    s.diskStore r = (.success, ⟨s.flash.put .preBootInfo r.toBytes, r, true⟩) := by
  simp only [diskStore, diskWrite_sound h, if_true, cacheSet]

/-- Without a failing call every read ends with a valid cached record; other files stay. -/
theorem diskLoadOrCreate_sound (h : s.flash.Sound) :
    ∃ r fs, s.diskLoadOrCreate = (r, ⟨fs, r, true⟩) ∧ diskHeaderOk r = true ∧ fs.Sound ∧
      (∀ path, path ≠ .preBootInfo → fs.files path = s.flash.files path) := by
  have hnew (t : PreBootStore) (ht : t.flash.Sound)
      (hother : ∀ path, path ≠ .preBootInfo → t.flash.files path = s.flash.files path) :
      ∃ r fs, (diskInitEmpty, (t.diskWrite diskInitEmpty).2.cacheSet diskInitEmpty) =
        (r, (⟨fs, r, true⟩ : PreBootStore)) ∧ diskHeaderOk r = true ∧ fs.Sound ∧
        (∀ path, path ≠ .preBootInfo → fs.files path = s.flash.files path) := by
    refine ⟨_, _, by rw [diskWrite_sound ht]; rfl, diskHeaderOk_diskInitEmpty, ht.put _ _, ?_⟩
    intro path hp
    rw [Flash.put_files_of_ne _ _ hp, hother path hp]
  have herase : ∀ path, path ≠ .preBootInfo →
      (s.flash.erase .preBootInfo).files path = s.flash.files path :=
    fun path hp => Flash.erase_files_of_ne _ hp
  cases hf : s.flash.files .preBootInfo with
  | none =>
    have hread : s.diskRead = (.error .notFound, s) := by
      simp only [diskRead, fileSystemReadFile_none h hf]
    simp only [diskLoadOrCreate, hread]
    exact hnew s h fun _ _ => rfl
  | some bytes =>
    have hread : s.diskRead =
        (if (bytes.take PreBootOnDisk.size).length ≠ PreBootOnDisk.size then .error .error
          else .ok (PreBootOnDisk.ofBytes (bytes.take PreBootOnDisk.size)), s) := by
      simp only [diskRead, fileSystemReadFile_some h hf]
      split <;> rfl
    by_cases hlen : (bytes.take PreBootOnDisk.size).length ≠ PreBootOnDisk.size
    · rw [if_pos hlen] at hread
      simp only [diskLoadOrCreate, hread, wmSdkFileDelete_sound h]
      exact hnew { s with flash := s.flash.erase .preBootInfo } (h.erase _) herase
    · rw [if_neg hlen] at hread
      simp only [diskLoadOrCreate, hread, wmSdkFileDelete_sound h]
      split
      · exact ⟨_, _, rfl, ‹_›, h, fun _ _ => rfl⟩
      · exact hnew { s with flash := s.flash.erase .preBootInfo } (h.erase _) herase

/-- A valid record on flash is what is loaded. -/
theorem diskLoadOrCreate_of_files (h : s.flash.Sound) {r : PreBootOnDisk}
    (hf : s.flash.files .preBootInfo = some r.toBytes) (hr : diskHeaderOk r = true) :
    s.diskLoadOrCreate = (r, ⟨s.flash, r, true⟩) := by
  have htake : r.toBytes.take PreBootOnDisk.size = r.toBytes :=
    List.take_of_length_le (by rw [PreBootOnDisk.length_toBytes])
  have hread : s.diskRead = (.ok r, s) := by
    simp only [diskRead, fileSystemReadFile_some h hf, htake, PreBootOnDisk.length_toBytes,
      ne_eq, not_true_eq_false, if_false, PreBootOnDisk.ofBytes_toBytes]
  simp only [diskLoadOrCreate, hread, hr, if_true, cacheSet]

/-- The boot sequence caches a valid record and changes no other file. -/
theorem loadPriorReset_sound (h : s.flash.Sound) :
    s.loadPriorReset.2.flash.Sound ∧ s.loadPriorReset.2.CacheOk ∧
      (∀ path, path ≠ .preBootInfo →
        s.loadPriorReset.2.flash.files path = s.flash.files path) := by
  obtain ⟨r, fs, hload, hr, hfs, hother⟩ := diskLoadOrCreate_sound h
  simp only [loadPriorReset, hload]
  split
  · simp only [diskConsumeResetSlot, not_true_eq_false, if_false]
    rw [diskStore_sound hfs]
    refine ⟨hfs.put _ _, fun _ => diskHeaderOk_diskClearResetSlot hr, ?_⟩
    intro path hp
    rw [Flash.put_files_of_ne _ _ hp, hother path hp]
  · exact ⟨hfs, fun _ => hr, hother⟩

/-- The boot sequence hands over the offset that was saved before the reset. -/
theorem savedOffset_loadPriorReset (h : s.flash.Sound) {r : PreBootOnDisk}
    (hf : s.flash.files .preBootInfo = some r.toBytes) (hr : diskHeaderOk r = true) :
    s.loadPriorReset.2.savedOffset = (⟨s.flash, r, true⟩ : PreBootStore).savedOffset := by
  simp only [loadPriorReset, diskLoadOrCreate_of_files h hf hr]
  split
  · simp only [diskConsumeResetSlot, not_true_eq_false, if_false]
    rw [diskStore_sound (s := ⟨s.flash, r, true⟩) h]
    rfl
  · rfl

/-- Saving an offset makes it the saved one. -/
theorem saveTcpSendQueueOffset_sound (h : s.flash.Sound) (offset : Nat) :
    s.saveTcpSendQueueOffset offset =
      (.success, ⟨s.flash.put .preBootInfo (diskSetTcpOffset s.stagedFromCache offset).toBytes,
        diskSetTcpOffset s.stagedFromCache offset, true⟩) :=
  diskStore_sound h _

/-- Clearing the offset leaves none saved. -/
theorem clearTcpSendQueueOffset_sound (h : s.flash.Sound) :
    s.clearTcpSendQueueOffset =
      (.success, ⟨s.flash.put .preBootInfo (diskClearTcpOffset s.stagedFromCache).toBytes,
        diskClearTcpOffset s.stagedFromCache, true⟩) :=
  diskStore_sound h _

/-- Taking gives the saved offset, and leaves none saved. -/
theorem takeTcpSendQueueOffset_sound (h : s.flash.Sound) :
    s.takeTcpSendQueueOffset.1 = s.savedOffset ∧
      s.takeTcpSendQueueOffset.2.flash.Sound ∧
      (∀ path, path ≠ .preBootInfo →
        s.takeTcpSendQueueOffset.2.flash.files path = s.flash.files path) := by
  unfold takeTcpSendQueueOffset savedOffset
  split
  · exact ⟨rfl, h, fun _ _ => rfl⟩
  · simp only [clearTcpSendQueueOffset_sound h, ne_eq, not_true_eq_false, if_false]
    exact ⟨trivial, h.put _ _, fun path hp => Flash.put_files_of_ne _ _ hp⟩

end Sound

/-- Offsets of the width of the record survive. -/
theorem savedOffset_diskSetTcpOffset (fs : Flash FlashFile) (r : PreBootOnDisk) {offset : Nat}
    (h : offset < 2 ^ 32) :
    (⟨fs, diskSetTcpOffset r offset, true⟩ : PreBootStore).savedOffset = some offset := by
  simp only [savedOffset, diskSetTcpOffset, not_true_eq_false, false_or]
  rw [if_neg (by decide), UInt32.toNat_ofNat', Nat.mod_eq_of_lt h]

theorem savedOffset_diskClearTcpOffset (fs : Flash FlashFile) (r : PreBootOnDisk) :
    (⟨fs, diskClearTcpOffset r, true⟩ : PreBootStore).savedOffset = none := by
  simp [savedOffset, diskClearTcpOffset]

end PreBootStore

end WalnutGateway
