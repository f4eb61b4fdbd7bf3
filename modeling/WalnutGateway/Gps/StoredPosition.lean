import WalnutGateway.Core.OutputLog
import WalnutGateway.Gps.LastValid
import WalnutGateway.Reset.PreBoot

/-!
# The stored position

The GPS module keeps a position on flash for the next boot: where the fix was lost, or where the
vehicle stands. It is written when the fix or the motion changes, and removed when the vehicle moves
off with a fix. Any call of the file layer may fail, and a write may stop anywhere.
-/

namespace WalnutGateway

/-- `GPS_STORE_MAGIC`. -/
def gpsStoreMagic : UInt32 := 0x47505356

/-- `GPS_STORE_VERSION`. -/
def gpsStoreVersion : UInt32 := 2

/-- How a `GpsPacket` lies in memory: its `sizeof` bytes, and the packet found in them. -/
structure PacketLayout where
  size : Nat
  image : GpsPacket → List Byte
  read : List Byte → GpsPacket
  length_image : ∀ p, (image p).length = size

variable {π : Type} [DecidableEq π]

/-! ## The file -/

section File

variable (path : π)

/-- `gps_file_write`. -/
def gpsFileWrite (fs : Flash π) (data : List Byte) : Bool × Flash π :=
  match wmSdkFileOpen fs path .wb with
  | (none, fs') => (false, fs')
  | (some f, fs') =>
    let w := wmSdkFileWrite fs' f data
    (w.ok ∧ w.written = data.length, (wmSdkFileClose (wmSdkFileSync w.flash)).2)

/-- `gps_file_read` of `len` bytes. -/
def gpsFileRead (fs : Flash π) (len : Nat) : Option (List Byte) × Flash π :=
  match wmSdkFileOpen fs path .rb with
  | (none, fs') => (none, fs')
  | (some f, fs') =>
    let r := wmSdkFileRead fs' f len
    (if r.ok then some r.data else none, (wmSdkFileClose r.flash).2)

variable (layout : PacketLayout)

/-- The bytes of a `GpsStoredOnDisk`, packed. -/
def PacketLayout.record (p : GpsPacket) : List Byte :=
  leBytes 4 gpsStoreMagic.toNat ++ (leBytes 4 gpsStoreVersion.toNat ++ layout.image p)

/-- `sizeof(GpsStoredOnDisk)`. -/
def PacketLayout.recordSize : Nat := 8 + layout.size

/-- `disk_read_record`: the packet in it. -/
def diskReadRecord (fs : Flash π) : Option GpsPacket × Flash π :=
  let r := gpsFileRead path fs layout.recordSize
  (r.1.bind fun bs =>
    if bs.length = layout.recordSize ∧ PreBootOnDisk.wordAt bs 0 = gpsStoreMagic ∧
        PreBootOnDisk.wordAt bs 4 = gpsStoreVersion then some (layout.read (bs.drop 8))
    else none, r.2)

end File

/-! ## Saving and loading -/

/-- What becomes of the file. -/
inductive StoreOutput
  /-- `gps_storage_save_packet` writes a packet. -/
  | saved (p : GpsPacket)
  /-- `gps_storage_clear`. -/
  | cleared
  /-- `gps_storage_handle_post_boot`, and the position that it loads. -/
  | restored (p : Option GpsPacket)

/-- A packet has coordinates that can be used. -/
def GpsPacket.placed (p : GpsPacket) : Bool := gpsValidateCoordinates p.latitudeDeg p.longitudeDeg

section Storage

variable (layout : PacketLayout) (path : π)

/-- `gps_storage_clear`. -/
def gpsStorageClear (fs : Flash π) : List StoreOutput × Flash π :=
  ([.cleared], (wmSdkFileDelete fs path).2)

/-- A packet under the time of the clock, if there is one. -/
def GpsPacket.stamped (rtcUtc : Option UInt32) (p : GpsPacket) : GpsPacket :=
  match rtcUtc with
  | none => p
  | some utc => if utc ≠ 0 then { p with utcTime := utc } else p

/-- `gps_storage_save_packet`. -/
def gpsStorageSavePacket (rtcUtc : Option UInt32) (p : GpsPacket) (fs : Flash π) :
    List StoreOutput × Flash π :=
  if ¬ p.placed then ([], fs)
  else ([.saved (p.stamped rtcUtc)],
    (gpsFileWrite path fs (layout.record (p.stamped rtcUtc))).2)

/-- `gps_storage_save_last_valid`. -/
def gpsStorageSaveLastValid (rtcUtc : Option UInt32) (g : Gps) (fs : Flash π) :
    List StoreOutput × Flash π :=
  if g.lastValidGpsData.utcTime = 0 ∨ ¬ g.lastValidGpsData.placed then ([], fs)
  else gpsStorageSavePacket layout path rtcUtc g.lastValidGpsData fs

/-- `gps_post_boot_is_power_on_reset`: `N` is a normal power-on, and 0 no reason. -/
def gpsPostBootIsPowerOnReset (reason : UInt32) : Bool := reason = 0x4E ∨ reason = 0

/-- `gps_storage_load_from_disk`. -/
def gpsStorageLoadFromDisk (fs : Flash π) : Option GpsPacket × Flash π :=
  let r := diskReadRecord path layout fs
  (r.1.bind fun p => if p.placed then some p else none, r.2)

/-- `gps_storage_handle_post_boot`, and the position it puts into `g_gps`, if it does. -/
def gpsStorageHandlePostBoot (reason : UInt32) (rtcUtc : Option UInt32) (fs : Flash π) :
    List StoreOutput × Option GpsPacket × Flash π :=
  if gpsPostBootIsPowerOnReset reason ∧ ¬ rtcUtc.any (gpsTimeValidMinUtcUnix ≤ ·) then
    let c := gpsStorageClear path fs
    (c.1 ++ [.restored none], none, c.2)
  else
    let r := gpsStorageLoadFromDisk layout path fs
    ([.restored r.1], r.1, r.2)

/-- `gps_ops_loc_storage_on_edge`. -/
def gpsOpsLocStorageOnEdge (activeOn : Bool) (rtcUtc : Option UInt32) (g : Gps) (fs : Flash π) :
    List StoreOutput × Flash π :=
  if ¬ g.currentGpsData.fixValidReal then ([], fs)
  else if activeOn then gpsStorageClear path fs
  else gpsStorageSavePacket layout path rtcUtc g.currentGpsData fs

/-- What `gps_ops_handle_fix_transition` does about the file. -/
def handleFixTransitionStorage (ev : GpsFixTransition) (rtcUtc : Option UInt32) (g : Gps)
    (fs : Flash π) : List StoreOutput × Flash π :=
  match ev with
  | .connected =>
    if ¬ g.motStatus then gpsStorageSavePacket layout path rtcUtc g.currentGpsData fs
    else gpsStorageClear path fs
  | .disconnected => gpsStorageSaveLastValid layout path rtcUtc g fs
  | .none => ([], fs)

/-- What an event of the module does about the file. -/
def gpsEventStorage (e : GpsEvent) (rtcUtc : Option UInt32) (g : Gps) (fs : Flash π) :
    List StoreOutput × Flash π :=
  match e with
  | .task _ =>
    if g.pc = .fixTransition then
      handleFixTransitionStorage layout path g.processFixTransition rtcUtc g fs
    else ([], fs)
  | .setMotionStatus on =>
    if g.motStatus = on then ([], fs) else gpsOpsLocStorageOnEdge layout path on rtcUtc g fs
  | _ => ([], fs)

end Storage

/-- What happens to them; the clock is read where a position is saved or loaded. -/
inductive StoredEvent
  | gps (e : GpsEvent) (rtcUtc : Option UInt32)
  | restart (reason : UInt32) (rtcUtc : Option UInt32) (config : GpsConfig)

/-- What should be stored after a log. -/
def storedBy (log : List StoreOutput) : Option GpsPacket :=
  log.foldl (fun stored o =>
    match o with
    | .saved p => some p
    | .cleared => none
    | .restored _ => stored) none

section Good

variable (layout : PacketLayout) (log : List StoreOutput)

/-- What is loaded was saved in full some time before. -/
def RestoredWhole : StoreOutput → Prop
  | .restored (some p) => ∃ q, .saved q ∈ log ∧ p = layout.read (layout.image q) ∧ p.placed = true
  | _ => True

/-- What is loaded is what should be stored. -/
def RestoredLast : StoreOutput → Prop
  | .restored p => p = (storedBy log).bind fun q =>
      if (layout.read (layout.image q)).placed then some (layout.read (layout.image q)) else none
  | _ => True

end Good

@[simp] theorem storedBy_saved (log : List StoreOutput) (p : GpsPacket) :
    storedBy (log ++ [.saved p]) = some p := List.foldl_concat ..

@[simp] theorem storedBy_cleared (log : List StoreOutput) :
    storedBy (log ++ [.cleared]) = none := List.foldl_concat ..

@[simp] theorem storedBy_restored (log : List StoreOutput) (p : Option GpsPacket) :
    storedBy (log ++ [.restored p]) = storedBy log := List.foldl_concat ..

/-! ## What a save leaves -/

section Write

variable {path : π} {fs : Flash π}

/-- A write into an empty file leaves what the driver moves of it. -/
theorem wmSdkFileWrite_wb (data : List Byte) (h : fs.contents path = []) :
    (wmSdkFileWrite fs ⟨path, .wb, 0⟩ data).flash.files path =
      some (fs.tick.1.moved data) := by
  have hempty : fs.tick.2.contents path = [] := (fs.tick_contents path).trans h
  unfold wmSdkFileWrite
  dsimp only
  cases fs.tick.1 <;>
    simp [hempty, FileHandle.overwrite, IoOutcome.moved]

theorem IoOutcome.exists_moved (o : IoOutcome) (data : List Byte) :
    ∃ k, o.moved data = data.take k := by
  cases o with
  | success => exact ⟨data.length, (List.take_length ..).symm⟩
  | short k => exact ⟨k, rfl⟩
  | fail k => exact ⟨k, rfl⟩

/-- A file that is not opened for writing is left alone. -/
theorem wmSdkFileOpen_wb_refused (h : (wmSdkFileOpen fs path .wb).1 = none) :
    (wmSdkFileOpen fs path .wb).2.files = fs.files := by
  unfold wmSdkFileOpen at h ⊢
  dsimp only at h ⊢
  cases ho : fs.tick.1 with
  | success =>
    rw [ho] at h
    cases h
  | short k => exact fs.tick_files
  | fail k => exact fs.tick_files

/-- A write leaves the file as it was, or the first bytes of the data in it. -/
theorem gpsFileWrite_files (data : List Byte) :
    (gpsFileWrite path fs data).2.files path = fs.files path ∨
      ∃ k, (gpsFileWrite path fs data).2.files path = some (data.take k) := by
  unfold gpsFileWrite
  cases hopen : wmSdkFileOpen fs path .wb with
  | mk handle fs' =>
    cases handle with
    | none =>
      have hsame : (wmSdkFileOpen fs path .wb).2.files = fs.files :=
        wmSdkFileOpen_wb_refused (by rw [hopen])
      rw [hopen] at hsame
      exact Or.inl (congrFun hsame path)
    | some f =>
      have hf : f = ⟨path, .wb, 0⟩ := wmSdkFileOpen_handle (by rw [hopen])
      have hempty : fs'.files path = some [] := by
        have hfiles := wmSdkFileOpen_wb_files fs path f (by rw [hopen]; rfl)
        rwa [hopen] at hfiles
      obtain ⟨k, hk⟩ := fs'.tick.1.exists_moved data
      refine Or.inr ⟨k, ?_⟩
      dsimp only
      rw [wmSdkFileClose_files, wmSdkFileSync, Flash.tick_files, hf,
        wmSdkFileWrite_wb data (Flash.contents_of_files hempty), hk]

/-- Where nothing fails all of the data is written. -/
theorem gpsFileWrite_sound (h : fs.Sound) (data : List Byte) :
    gpsFileWrite path fs data = (true, fs.put path data) := by
  have hwritten : wmSdkFileWrite (fs.put path []) ⟨path, .wb, 0⟩ data =
      ⟨true, data.length, ⟨path, .wb, data.length⟩, fs.put path data⟩ := by
    rw [wmSdkFileWrite_sound (h.put _ _)]
    simp [FileHandle.overwrite]
  unfold gpsFileWrite
  rw [wmSdkFileOpen_wb h]
  dsimp only
  rw [hwritten]
  dsimp only
  rw [wmSdkFileSync, (h.put path data).tick, wmSdkFileClose_sound (h.put path data)]
  simp

/-- A read gives the first bytes of the file, and changes no file. -/
theorem gpsFileRead_data (len : Nat) :
    (∀ bs ∈ (gpsFileRead path fs len).1, bs <+: (fs.contents path).take len) ∧
      (gpsFileRead path fs len).2.files = fs.files := by
  have hfiles := wmSdkFileOpen_rb_files fs path
  unfold gpsFileRead
  cases hopen : wmSdkFileOpen fs path .rb with
  | mk handle fs' =>
    rw [hopen] at hfiles
    dsimp only at hfiles
    cases handle with
    | none =>
      refine ⟨fun bs hbs => ?_, hfiles⟩
      cases hbs
    | some f =>
      have hf : f = ⟨path, .rb, 0⟩ := wmSdkFileOpen_handle (by rw [hopen])
      have hcontents : fs'.contents path = fs.contents path := by
        rw [Flash.contents, hfiles, Flash.contents]
      refine ⟨fun bs hbs => ?_, ?_⟩
      · have hdata := (wmSdkFileRead_data fs' f len).1
        rw [hf, hcontents, List.drop_zero] at hdata
        dsimp only at hbs
        split_ifs at hbs
        · cases hbs
          rw [hf]
          exact hdata
        · cases hbs
      · dsimp only
        rw [wmSdkFileClose_files, wmSdkFileRead_files, hfiles]

/-- Where nothing fails a file is read as it is. -/
theorem gpsFileRead_sound (h : fs.Sound) (len : Nat) :
    gpsFileRead path fs len = ((fs.files path).map (·.take len), fs) := by
  unfold gpsFileRead
  cases hfile : fs.files path with
  | none =>
    rw [wmSdkFileOpen_rb_none h hfile]
    rfl
  | some bytes =>
    rw [wmSdkFileOpen_rb_some h hfile]
    dsimp only
    rw [wmSdkFileRead_sound h]
    dsimp only
    rw [Flash.contents_of_files hfile, List.drop_zero, wmSdkFileClose_sound h]
    rfl

end Write

section Record

variable {layout : PacketLayout} {path : π} {fs : Flash π} {p : GpsPacket}

@[simp] theorem length_record (layout : PacketLayout) (p : GpsPacket) :
    (layout.record p).length = layout.recordSize := by
  simp [PacketLayout.record, PacketLayout.recordSize, layout.length_image, ← Nat.add_assoc]

/-- A record that is read is the packet in it. -/
theorem recordBytes_read (layout : PacketLayout) (p : GpsPacket) :
    (if (layout.record p).length = layout.recordSize ∧
        PreBootOnDisk.wordAt (layout.record p) 0 = gpsStoreMagic ∧
        PreBootOnDisk.wordAt (layout.record p) 4 = gpsStoreVersion
      then some (layout.read ((layout.record p).drop 8)) else none) =
      some (layout.read (layout.image p)) := by
  have hmagic : PreBootOnDisk.wordAt (layout.record p) 0 = gpsStoreMagic :=
    PreBootOnDisk.wordAt_append List.length_nil gpsStoreMagic
  have hversion : PreBootOnDisk.wordAt (layout.record p) 4 = gpsStoreVersion :=
    PreBootOnDisk.wordAt_append (length_leBytes ..) gpsStoreVersion
  have hdrop : (layout.record p).drop 8 = layout.image p := by
    rw [PacketLayout.record, ← List.append_assoc]
    exact List.drop_left' (by simp)
  rw [if_pos ⟨length_record layout p, hmagic, hversion⟩, hdrop]

/-- From a file with the first bytes of a record nothing else is read than the packet. -/
theorem diskReadRecord_of_take {k : Nat} (h : fs.contents path = (layout.record p).take k)
    {q : GpsPacket} (hq : (diskReadRecord path layout fs).1 = some q) :
    q = layout.read (layout.image p) := by
  obtain ⟨bs, hbs, hread⟩ := Option.bind_eq_some_iff.mp hq
  have hwas := (gpsFileRead_data layout.recordSize).1 bs hbs
  have hlength : bs.length = layout.recordSize := by
    by_contra hne
    rw [if_neg fun hall => hne hall.1] at hread
    cases hread
  have hwhole : bs = layout.record p := by
    rw [h] at hwas
    apply (hwas.trans ((List.take_prefix _ _).trans (List.take_prefix _ _))).eq_of_length
    rw [hlength, length_record]
  rw [hwhole, recordBytes_read] at hread
  exact (Option.some.inj hread).symm

/-- From a file that is not there nothing is read. -/
theorem diskReadRecord_absent (h : fs.files path = none) :
    (diskReadRecord path layout fs).1 = none := by
  unfold diskReadRecord
  dsimp only
  cases hread : (gpsFileRead path fs layout.recordSize).1 with
  | none => rfl
  | some bs =>
    have hwas := (gpsFileRead_data layout.recordSize).1 bs hread
    rw [Flash.contents, h, Option.getD_none, List.take_nil, List.prefix_nil] at hwas
    refine if_neg fun hall => ?_
    have hlength := hall.1
    rw [hwas, PacketLayout.recordSize, List.length_nil] at hlength
    omega

/-- Where nothing fails the packet in a record is read. -/
theorem diskReadRecord_sound (h : fs.Sound) {stored : Option GpsPacket}
    (hfile : fs.files path = stored.map layout.record) :
    diskReadRecord path layout fs = (stored.map fun p => layout.read (layout.image p), fs) := by
  unfold diskReadRecord
  rw [gpsFileRead_sound h, hfile]
  cases stored with
  | none => rfl
  | some p =>
    have hall : (layout.record p).take layout.recordSize = layout.record p :=
      List.take_of_length_le (length_record layout p).le
    simp only [Option.map_some, Option.bind_some, hall, recordBytes_read]

end Record

/-! ## What an event does about the file -/

section Steps

variable {layout : PacketLayout} {path : π} {fs : Flash π}

/-- A file is left alone, written or removed. -/
inductive StoreStep (layout : PacketLayout) (path : π) (fs : Flash π) :
    List StoreOutput × Flash π → Prop
  | idle : StoreStep layout path fs ([], fs)
  | saved (p : GpsPacket) :
    StoreStep layout path fs ([.saved p], (gpsFileWrite path fs (layout.record p)).2)
  | cleared : StoreStep layout path fs ([.cleared], (wmSdkFileDelete fs path).2)

/-- Whatever fails, the file holds the first bytes of a record that was to be saved. -/
structure StoredWhole (layout : PacketLayout) (path : π) (log : List StoreOutput) (fs : Flash π) :
    Prop where
  file : ∀ bytes ∈ fs.files path, ∃ p k, .saved p ∈ log ∧ bytes = (layout.record p).take k
  order : InOrder (fun log o => RestoredWhole layout log o) log

/-- Where nothing fails, the file holds the record that should be there. -/
structure StoredLast (layout : PacketLayout) (path : π) (log : List StoreOutput) (fs : Flash π) :
    Prop where
  sound : fs.Sound
  file : fs.files path = (storedBy log).map layout.record
  order : InOrder (fun log o => RestoredLast layout log o) log

variable {log : List StoreOutput}

theorem wmSdkFileDelete_files (fs : Flash π) (path : π) :
    (wmSdkFileDelete fs path).2.files path = fs.files path ∨
      (wmSdkFileDelete fs path).2.files path = none := by
  unfold wmSdkFileDelete
  dsimp only
  cases fs.tick.1 with
  | success => exact Or.inr (Flash.erase_files_self _ _)
  | short k => exact Or.inl (congrFun fs.tick_files path)
  | fail k => exact Or.inl (congrFun fs.tick_files path)

theorem StoredWhole.step (h : StoredWhole layout path log fs) {w : List StoreOutput × Flash π}
    (hw : StoreStep layout path fs w) : StoredWhole layout path (log ++ w.1) w.2 := by
  cases hw with
  | idle =>
    rw [List.append_nil]
    exact h
  | saved p =>
    refine ⟨fun bytes hbytes => ?_, inOrder_concat.mpr ⟨h.order, trivial⟩⟩
    have hfiles : (gpsFileWrite path fs (layout.record p)).2.files path = fs.files path ∨
        ∃ k, (gpsFileWrite path fs (layout.record p)).2.files path =
          some ((layout.record p).take k) := gpsFileWrite_files _
    rcases hfiles with hsame | ⟨k, hk⟩
    · rw [hsame] at hbytes
      obtain ⟨q, k, hq, rfl⟩ := h.file bytes hbytes
      exact ⟨q, k, List.mem_append_left _ hq, rfl⟩
    · rw [hk] at hbytes
      cases hbytes
      exact ⟨p, k, List.mem_append_right _ (List.mem_singleton_self _), rfl⟩
  | cleared =>
    refine ⟨fun bytes hbytes => ?_, inOrder_concat.mpr ⟨h.order, trivial⟩⟩
    rcases wmSdkFileDelete_files fs path with hsame | hgone
    · rw [hsame] at hbytes
      obtain ⟨q, k, hq, rfl⟩ := h.file bytes hbytes
      exact ⟨q, k, List.mem_append_left _ hq, rfl⟩
    · rw [hgone] at hbytes
      cases hbytes

theorem StoredLast.step (h : StoredLast layout path log fs) {w : List StoreOutput × Flash π}
    (hw : StoreStep layout path fs w) : StoredLast layout path (log ++ w.1) w.2 := by
  cases hw with
  | idle =>
    rw [List.append_nil]
    exact h
  | saved p =>
    rw [gpsFileWrite_sound h.sound]
    refine ⟨h.sound, ?_, inOrder_concat.mpr ⟨h.order, trivial⟩⟩
    rw [storedBy_saved]
    exact Flash.put_files_self ..
  | cleared =>
    rw [wmSdkFileDelete_sound h.sound]
    refine ⟨h.sound, ?_, inOrder_concat.mpr ⟨h.order, trivial⟩⟩
    rw [storedBy_cleared]
    exact Flash.erase_files_self ..

/-- A boot loads what was saved in full, whatever fails. -/
theorem StoredWhole.boot (h : StoredWhole layout path log fs) (reason : UInt32)
    (rtcUtc : Option UInt32) :
    StoredWhole layout path (log ++ (gpsStorageHandlePostBoot layout path reason rtcUtc fs).1)
      (gpsStorageHandlePostBoot layout path reason rtcUtc fs).2.2 := by
  unfold gpsStorageHandlePostBoot
  split
  · have hcleared := h.step .cleared
    refine ⟨fun bytes hbytes => ?_, ?_⟩
    · obtain ⟨q, k, hq, hbytes⟩ := hcleared.file bytes hbytes
      refine ⟨q, k, ?_, hbytes⟩
      rw [gpsStorageClear, ← List.append_assoc]
      exact List.mem_append_left _ hq
    · rw [gpsStorageClear, ← List.append_assoc]
      exact inOrder_concat.mpr ⟨hcleared.order, trivial⟩
  · have hfiles : (diskReadRecord path layout fs).2.files = fs.files := (gpsFileRead_data _).2
    refine ⟨fun bytes hbytes => ?_, inOrder_concat.mpr ⟨h.order, ?_⟩⟩
    · obtain ⟨q, k, hq, hbytes⟩ := h.file bytes (congrFun hfiles path ▸ hbytes)
      exact ⟨q, k, List.mem_append_left _ hq, hbytes⟩
    · cases hloaded : (gpsStorageLoadFromDisk layout path fs).1 with
      | none => trivial
      | some p =>
        obtain ⟨p', hread, hplaced⟩ := Option.bind_eq_some_iff.mp hloaded
        split at hplaced
        · rename_i hp'
          obtain rfl := Option.some.inj hplaced
          cases hfile : fs.files path with
          | none =>
            rw [diskReadRecord_absent hfile] at hread
            cases hread
          | some bytes =>
            obtain ⟨q, k, hq, rfl⟩ := h.file bytes hfile
            exact ⟨q, hq, diskReadRecord_of_take (Flash.contents_of_files hfile) hread, hp'⟩
        · cases hplaced

/-- Where nothing fails a boot loads what should be there. -/
theorem StoredLast.boot (h : StoredLast layout path log fs) (reason : UInt32)
    (rtcUtc : Option UInt32) :
    StoredLast layout path (log ++ (gpsStorageHandlePostBoot layout path reason rtcUtc fs).1)
      (gpsStorageHandlePostBoot layout path reason rtcUtc fs).2.2 := by
  unfold gpsStorageHandlePostBoot
  split
  · have hcleared := h.step .cleared
    have hnone : storedBy (log ++ [.cleared]) = none := storedBy_cleared log
    rw [gpsStorageClear, ← List.append_assoc]
    refine ⟨hcleared.sound, ?_, inOrder_concat.mpr ⟨hcleared.order, ?_⟩⟩
    · rw [storedBy_restored]
      exact hcleared.file
    · rw [RestoredLast, hnone]
      rfl
  · unfold gpsStorageLoadFromDisk
    rw [diskReadRecord_sound h.sound h.file]
    refine ⟨h.sound, ?_, inOrder_concat.mpr ⟨h.order, ?_⟩⟩
    · rw [storedBy_restored]
      exact h.file
    · rw [RestoredLast]
      dsimp only
      rw [Option.bind_map]
      rfl

end Steps

/-! ## Moving with a fix -/

/-- The event does not switch the receiver off. -/
def GpsEvent.keepsPower : GpsEvent → Bool
  | setPowerEnabled on _ => on
  | _ => true

/-- The fix and the motion of a state, as the other sees them. -/
structure Gps.SameFix (g g' : Gps) : Prop where
  hadFix : g'.hadFix = g.hadFix
  motStatus : g'.motStatus = g.motStatus
  valid : g'.currentGpsData.fixValidReal = g.currentGpsData.fixValidReal

namespace Gps

variable {g g' g'' : Gps}

theorem SameFix.refl (g : Gps) : g.SameFix g := ⟨rfl, rfl, rfl⟩

theorem SameFix.trans (h : g.SameFix g') (h' : g'.SameFix g'') : g.SameFix g'' :=
  ⟨h'.hadFix.trans h.hadFix, h'.motStatus.trans h.motStatus, h'.valid.trans h.valid⟩

theorem sameFix_setSimStatus (g : Gps) (available : Bool) :
    g.SameFix (g.setSimStatus available) := by
  unfold setSimStatus
  split <;> exact ⟨rfl, rfl, rfl⟩

theorem sameFix_setIgnitionStatus (g : Gps) (on : Bool) : g.SameFix (g.setIgnitionStatus on) := by
  unfold setIgnitionStatus
  split <;> exact ⟨rfl, rfl, rfl⟩

theorem sameFix_setChargeStatus (g : Gps) (connected : Bool) :
    g.SameFix (g.setChargeStatus connected) := by
  unfold setChargeStatus
  split <;> exact ⟨rfl, rfl, rfl⟩

theorem sameFix_shouldSend (g : Gps) (env : GpsEnv) : g.SameFix (g.shouldSend env).2 := by
  unfold shouldSend
  split
  · exact .refl g
  · split <;> exact ⟨rfl, rfl, rfl⟩

theorem sameFix_buildSendPacket (g : Gps) (env : GpsEnv) (kind : GpsPacketBuildKind) :
    g.SameFix (g.buildSendPacket env kind).2 := by
  have hprepared : g.SameFix (g.preparePosition env kind) := by
    cases kind with
    | current =>
      obtain ⟨sats, speed, hsame⟩ := g.preparePosition_current env
      rw [hsame]
      exact ⟨rfl, rfl, rfl⟩
    | lastValidMerged => exact ⟨rfl, rfl, rfl⟩
  refine hprepared.trans ?_
  unfold buildSendPacket buildPositionPacket
  dsimp only
  split <;> exact ⟨rfl, rfl, rfl⟩

theorem sameFix_pushTcpPositionMessage (g : Gps) (env : GpsEnv) (packet : List Byte) :
    g.SameFix (g.pushTcpPositionMessage env packet).2 := by
  unfold pushTcpPositionMessage
  split
  · exact .refl g
  · split <;> exact ⟨rfl, rfl, rfl⟩

theorem queryAndParse_frame (g : Gps) (env : GpsEnv) :
    (g.queryAndParse env).2.hadFix = g.hadFix ∧
      (g.queryAndParse env).2.motStatus = g.motStatus := by
  unfold queryAndParse
  split
  · exact ⟨rfl, rfl⟩
  · dsimp only
    split
    · exact ⟨rfl, rfl⟩
    · split <;> exact ⟨rfl, rfl⟩

end Gps

/-- Outside the passage from the sample to the fix the two agree, and while the vehicle moves with a
fix nothing should be stored. -/
structure MovesUnstored (log : List StoreOutput) (g : Gps) : Prop where
  held : g.pc ≠ .fixTransition → g.hadFix = g.currentGpsData.fixValidReal
  unstored : g.hadFix = true → g.currentGpsData.fixValidReal = true → g.motStatus = true →
    storedBy log = none

section Moving

variable {log : List StoreOutput} {g g' : Gps}

/-- What touches neither fix nor motion keeps it. -/
theorem MovesUnstored.same (h : MovesUnstored log g) (hsame : g.SameFix g')
    (hpc : g'.pc ≠ .fixTransition → g.pc ≠ .fixTransition) : MovesUnstored log g' := by
  refine ⟨fun hne => ?_, fun hfix hvalid hmot => ?_⟩
  · rw [hsame.hadFix, hsame.valid]
    exact h.held (hpc hne)
  · rw [hsame.hadFix] at hfix
    rw [hsame.valid] at hvalid
    rw [hsame.motStatus] at hmot
    exact h.unstored hfix hvalid hmot

/-- A step of the task that is neither about the sample nor about the fix. -/
theorem gpsTaskEntry_sameFix (g : Gps) (env : GpsEnv) (hfix : g.pc ≠ .fixTransition)
    (hrefresh : g.pc ≠ .refresh) :
    g.SameFix (gpsTaskEntry env g).2 ∧ (gpsTaskEntry env g).2.pc ≠ .fixTransition := by
  unfold gpsTaskEntry
  cases hpc : g.pc with
  | pollSim =>
    have hsame := g.sameFix_setSimStatus env.sim
    exact ⟨⟨hsame.hadFix, hsame.motStatus, hsame.valid⟩, by simp⟩
  | refresh => exact absurd hpc hrefresh
  | fixTransition => exact absurd hpc hfix
  | shouldSend =>
    have hsame := g.sameFix_shouldSend env
    refine ⟨⟨hsame.hadFix, hsame.motStatus, hsame.valid⟩, ?_⟩
    dsimp only
    split <;> simp
  | pickKind => exact ⟨⟨rfl, rfl, rfl⟩, by simp⟩
  | build kind =>
    have hsame := g.sameFix_buildSendPacket env kind
    dsimp only
    split
    · rename_i next hbuilt
      rw [hbuilt] at hsame
      exact ⟨⟨hsame.hadFix, hsame.motStatus, hsame.valid⟩, by simp⟩
    · rename_i packet next hbuilt
      rw [hbuilt] at hsame
      exact ⟨⟨hsame.hadFix, hsame.motStatus, hsame.valid⟩, by simp⟩
  | push packet =>
    have hsame := g.sameFix_pushTcpPositionMessage env (gpsOpsMergeTcpAppend packet [])
    exact ⟨⟨hsame.hadFix, hsame.motStatus, hsame.valid⟩, by simp⟩
  | clear => exact ⟨⟨rfl, rfl, rfl⟩, by simp⟩

variable {π : Type} [DecidableEq π] (layout : PacketLayout) (path : π)

theorem MovesUnstored.log_nil (h : MovesUnstored log g) : MovesUnstored (log ++ []) g := by
  rw [List.append_nil]
  exact h

/-- A step of the task. -/
theorem MovesUnstored.task (h : MovesUnstored log g) (env : GpsEnv) (rtcUtc : Option UInt32)
    (fs : Flash π) :
    MovesUnstored (log ++ (gpsEventStorage layout path (.task env) rtcUtc g fs).1)
      (gpsTaskEntry env g).2 := by
  by_cases hfix : g.pc = .fixTransition
  · have hnext : (gpsTaskEntry env g).2 = { g.handleFixTransition g.processFixTransition with
        hadFix := g.currentGpsData.fixValidReal, pc := .shouldSend } := by
      rw [gpsTaskEntry, hfix]
    have hstore : gpsEventStorage layout path (.task env) rtcUtc g fs =
        handleFixTransitionStorage layout path g.processFixTransition rtcUtc g fs := if_pos hfix
    rw [hnext, hstore]
    unfold Gps.processFixTransition
    split
    · rename_i hconnected
      refine ⟨fun _ => rfl, fun _ _ hmot => ?_⟩
      have hcleared : handleFixTransitionStorage layout path .connected rtcUtc g fs =
          gpsStorageClear path fs := if_neg (not_not.mpr hmot)
      rw [hcleared]
      exact storedBy_cleared log
    · split
      · rename_i hlost
        refine ⟨fun _ => rfl, fun hvalid => ?_⟩
        exact absurd hvalid hlost.2
      · rename_i hnew hlost
        refine ⟨fun _ => rfl, fun hvalid _ hmot => ?_⟩
        have hhad : g.hadFix = true := by
          by_contra hnot
          exact hnew ⟨hnot, hvalid⟩
        rw [handleFixTransitionStorage, List.append_nil]
        exact h.unstored hhad hvalid hmot
  · have hstore : gpsEventStorage layout path (.task env) rtcUtc g fs = ([], fs) := if_neg hfix
    rw [hstore, List.append_nil]
    by_cases hrefresh : g.pc = .refresh
    · have hframe := g.queryAndParse_frame env
      have hpc : (gpsTaskEntry env g).2.pc = .fixTransition := by
        rw [gpsTaskEntry, hrefresh]
      have hhad : (gpsTaskEntry env g).2.hadFix = g.hadFix := by
        rw [gpsTaskEntry, hrefresh]
        exact hframe.1
      have hmoves : (gpsTaskEntry env g).2.motStatus = g.motStatus := by
        rw [gpsTaskEntry, hrefresh]
        exact hframe.2
      refine ⟨fun hne => absurd hpc hne, fun hfixed _ hmot => ?_⟩
      rw [hhad] at hfixed
      refine h.unstored hfixed ?_ (hmoves ▸ hmot)
      rw [← h.held hfix, hfixed]
    · obtain ⟨hsame, hpc⟩ := gpsTaskEntry_sameFix g env hfix hrefresh
      exact h.same hsame fun _ => hfix

/-- A change of the motion. -/
theorem MovesUnstored.setMotionStatus (h : MovesUnstored log g) (on : Bool)
    (rtcUtc : Option UInt32) (fs : Flash π) :
    MovesUnstored (log ++ (gpsEventStorage layout path (.setMotionStatus on) rtcUtc g fs).1)
      (g.setMotionStatus on) := by
  unfold gpsEventStorage Gps.setMotionStatus
  dsimp only
  split
  · exact h.log_nil
  · unfold gpsOpsLocStorageOnEdge
    split
    · rename_i hinvalid
      rw [List.append_nil]
      exact ⟨h.held, fun _ hvalid => absurd hvalid hinvalid⟩
    · split
      · exact ⟨h.held, fun _ _ _ => storedBy_cleared log⟩
      · rename_i hoff
        exact ⟨h.held, fun _ _ hon => absurd hon hoff⟩

/-- Every event that leaves the receiver on. -/
theorem MovesUnstored.event (h : MovesUnstored log g) {e : GpsEvent} (he : e.keepsPower = true)
    (rtcUtc : Option UInt32) (fs : Flash π) :
    MovesUnstored (log ++ (gpsEventStorage layout path e rtcUtc g fs).1)
      (gpsMachine.step g e).2 := by
  cases e with
  | task env => exact h.task layout path env rtcUtc fs
  | setMotionStatus on => exact h.setMotionStatus layout path on rtcUtc fs
  | setIgnitionStatus on =>
    have hpc : (g.setIgnitionStatus on).pc = g.pc := by
      unfold Gps.setIgnitionStatus
      split <;> rfl
    exact (h.same (g.sameFix_setIgnitionStatus on) fun hne => hpc ▸ hne).log_nil
  | setChargeStatus connected =>
    have hpc : (g.setChargeStatus connected).pc = g.pc := by
      unfold Gps.setChargeStatus
      split <;> rfl
    exact (h.same (g.sameFix_setChargeStatus connected) fun hne => hpc ▸ hne).log_nil
  | setConfig config =>
    have hsame : g.SameFix { g with config } := ⟨rfl, rfl, rfl⟩
    exact (h.same hsame id).log_nil
  | setPowerEnabled on ok =>
    have hon : on = true := he
    have hsame : g.SameFix (g.setPowerEnabled on ok) ∧ (g.setPowerEnabled on ok).pc = g.pc := by
      rw [hon, Gps.setPowerEnabled, if_pos rfl]
      split <;> exact ⟨⟨rfl, rfl, rfl⟩, rfl⟩
    exact (h.same hsame.1 fun hne => hsame.2 ▸ hne).log_nil

end Moving

/-- The event does not switch the receiver off. -/
def StoredEvent.keepsPower : StoredEvent → Bool
  | gps e _ => e.keepsPower
  | restart _ _ _ => true

end WalnutGateway
