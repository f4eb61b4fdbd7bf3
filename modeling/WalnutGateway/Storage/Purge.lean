import WalnutGateway.Common.Text
import WalnutGateway.Core.BatchSweep

/-!
# Purging a directory

`file_system_delete_all_files_in_directory` lists a directory in batches from its start and
deletes the regular files of each, until a listing is empty. A round that deletes nothing ends
the purge with an error, and the counts are only handed out where it ends well. The directory
can be opened and read; whether a delete succeeds may depend on the file and on the deletes
before it.
-/

namespace WalnutGateway

/-! ## Listing -/

/-- `DirFileInfo_t`, an entry as the kernel returns it. -/
structure DirFileInfo where
  fileName : List Byte
  size : UInt32
  permissions : UInt32

/-- `FileInfo`, the same as `SdkFileDirEntry`. -/
structure FileInfo where
  name : List Byte
  size : Int32
  type : Nat

/-- `FS_KERNEL_PERM_DIR`. -/
def fsKernelPermDir : UInt32 := 0x200

/-- `FS_ENTRY_TYPE_DIR`. -/
def fsEntryTypeDir : Nat := 1

/-- `FS_DIR_PURGE_PATH_MAX`. -/
def fsDirPurgePathMax : Nat := 320

/-- `FS_DIR_PURGE_BATCH`. -/
def fsDirPurgeBatch : Nat := 16

/-- The kernel marks the entry as a directory. -/
def DirFileInfo.isDir (e : DirFileInfo) : Bool := e.permissions = fsKernelPermDir

/-- The entry that `sdk_file_list_dir` makes of the kernel's; the name has 260 characters. -/
def DirFileInfo.toFileInfo (e : DirFileInfo) : FileInfo where
  name := e.fileName.take 259
  size := e.size.toInt32
  type := if e.permissions = fsKernelPermDir then 1 else 0

/-- `fs_readdir` until the entries are used up or a name is empty. -/
def readDir : Nat → List DirFileInfo → List FileInfo
  | 0, _ => []
  | _ + 1, [] => []
  | n + 1, e :: es => if e.fileName = [] then [] else e.toFileInfo :: readDir n es

/-- `sdk_file_list_dir`. -/
def sdkFileListDir (path : List Byte) (entries : List DirFileInfo) (maxEntries : Nat) :
    Option (List FileInfo) :=
  if maxEntries = 0 then none
  else if path.length = 0 ∨ 128 ≤ path.length then none
  else some (readDir maxEntries entries)

/-! ## Deleting -/

/-- A directory, and the deletes that were tried in it. -/
structure DirState where
  entries : List DirFileInfo
  log : List (List Byte × Bool)

/-- `wm_sdk_file_delete` of an entry. -/
def DirState.delete (deletes : Nat → List Byte → Bool) (folder name : List Byte)
    (dir : DirState) : Bool × DirState :=
  if deletes dir.log.length (folder ++ name) then
    (true, ⟨dir.entries.filter (·.fileName ≠ name), dir.log ++ [(folder ++ name, true)]⟩)
  else (false, { dir with log := dir.log ++ [(folder ++ name, false)] })

/-- The deletes that failed. -/
def failures (log : List (List Byte × Bool)) : Nat := (log.filter fun call => ! call.2).length

/-! ## The purge -/

/-- `fs_dir_purge_path_ok`. -/
def fsDirPurgePathOk (path : List Byte) : Bool :=
  path ≠ [] ∧ strstr (asciiBytes "..") path = none ∧ strncaseEq (asciiBytes "C:/") path

/-- `fs_dir_purge_ensure_slash`. -/
def fsDirPurgeEnsureSlash (dir : List Byte) (cap : Nat) : List Byte :=
  if dir.length = 0 ∨ cap < dir.length + 2 then dir
  else if dir.getLast? = some 0x2F then dir else dir ++ [0x2F]

/-- The purge inside a round. -/
structure PurgeState where
  dir : DirState
  deletedThisRound : Nat
  totalDeleted : Nat
  totalFailed : Nat

/-- An entry of the batch. -/
def purgeEntry (deletes : Nat → List Byte → Bool) (folder : List Byte) (p : PurgeState)
    (e : FileInfo) : PurgeState :=
  if e.name = [] ∨ e.name = asciiBytes "." ∨ e.name = asciiBytes ".." then p
  else if e.type = fsEntryTypeDir then p
  else if fsDirPurgePathMax < folder.length + e.name.length + 1 then
    { p with totalFailed := p.totalFailed + 1 }
  else if ¬ fsDirPurgePathOk (folder ++ e.name) then { p with totalFailed := p.totalFailed + 1 }
  else
    let dr := p.dir.delete deletes folder e.name
    if dr.1 then ⟨dr.2, p.deletedThisRound + 1, p.totalDeleted + 1, p.totalFailed⟩
    else ⟨dr.2, p.deletedThisRound, p.totalDeleted, p.totalFailed + 1⟩

/-- What the purge returns, and the directory after it. -/
structure PurgeReply where
  result : Result
  outDeleted : Nat
  outFailed : Nat
  dir : DirState

/-- The rounds, for as long as there is fuel. -/
def purgeRounds (deletes : Nat → List Byte → Bool) (folder : List Byte) :
    Nat → DirState → Nat → Nat → Option PurgeReply
  | 0, _, _, _ => none
  | n + 1, dir, totalDeleted, totalFailed =>
    match sdkFileListDir folder dir.entries fsDirPurgeBatch with
    | none => some ⟨.error, 0, 0, dir⟩
    | some [] => some ⟨.success, totalDeleted, totalFailed, dir⟩
    | some (e :: es) =>
      let p := (e :: es).foldl (purgeEntry deletes folder) ⟨dir, 0, totalDeleted, totalFailed⟩
      if p.deletedThisRound = 0 then some ⟨.error, 0, 0, p.dir⟩
      else purgeRounds deletes folder n p.dir p.totalDeleted p.totalFailed

/-- `file_system_delete_all_files_in_directory`. -/
def fileSystemDeleteAllFilesInDirectory (deletes : Nat → List Byte → Bool)
    (dirPath : List Byte) (fuel : Nat) (dir : DirState) : Option PurgeReply :=
  if fsDirPurgePathMax ≤ dirPath.length then some ⟨.invalidParam, 0, 0, dir⟩
  else
    let folder := fsDirPurgeEnsureSlash dirPath fsDirPurgePathMax
    if ¬ fsDirPurgePathOk folder then some ⟨.invalidParam, 0, 0, dir⟩
    else purgeRounds deletes folder fuel dir 0 0

/-- `file_system_wipe_user_flash_c` over the folders still to come; each has deletes of its own. -/
def wipeFolders (deletes : List Byte → Nat → List Byte → Bool) (fuel : Nat) :
    List (List Byte) → (List Byte → DirState) → Option (Result × (List Byte → DirState))
  | [], flash => some (.success, flash)
  | dirPath :: rest, flash =>
    match fileSystemDeleteAllFilesInDirectory (deletes dirPath) dirPath fuel (flash dirPath) with
    | none => none
    | some reply =>
      let flash := Function.update flash dirPath reply.dir
      if reply.result ≠ .success then some (reply.result, flash)
      else wipeFolders deletes fuel rest flash

/-- `k_dirs`. -/
def wipedDirs : List (List Byte) :=
  [asciiBytes "C:/config/", asciiBytes "C:/queue/", asciiBytes "C:/fota/", asciiBytes "C:/preboot/"]

/-- `file_system_wipe_user_flash_c`. -/
def fileSystemWipeUserFlashC (deletes : List Byte → Nat → List Byte → Bool) (fuel : Nat)
    (flash : List Byte → DirState) : Option (Result × (List Byte → DirState)) :=
  wipeFolders deletes fuel wipedDirs flash

/-! ## A directory and what the purge deletes of it -/

/-- A directory's entries have names of their own, which fit the kernel's array. -/
structure Directory where
  entries : List DirFileInfo
  nodup : (entries.map (·.fileName)).Nodup
  named : ∀ e ∈ entries, e.fileName ≠ [] ∧ e.fileName.length < 256

/-- A regular file. -/
def DirFileInfo.Regular (e : DirFileInfo) : Prop :=
  ¬ e.isDir = true ∧ e.fileName ≠ asciiBytes "." ∧ e.fileName ≠ asciiBytes ".."

/-- The purge tries to delete the entry. -/
def purgeable (folder : List Byte) (e : DirFileInfo) : Bool :=
  e.fileName ≠ asciiBytes "." ∧ e.fileName ≠ asciiBytes ".." ∧ ¬ e.isDir ∧
    fsDirPurgePathOk (folder ++ e.fileName)

/-- Whether the delete of an entry succeeds. -/
def deletesEntry (deletes : Nat → List Byte → Bool) (folder : List Byte) (k : Nat)
    (e : DirFileInfo) : Bool := deletes k (folder ++ e.fileName)

/-- The listing returns the entry's name, and the buffer holds its path. -/
def DirFileInfo.Listed (folder : List Byte) (e : DirFileInfo) : Prop :=
  e.fileName ≠ [] ∧ e.fileName.length < 256 ∧
    folder.length + e.fileName.length + 1 ≤ fsDirPurgePathMax

section Round

variable {deletes : Nat → List Byte → Bool} {folder : List Byte}

theorem DirFileInfo.Listed.name_eq {e : DirFileInfo} (h : e.Listed folder) :
    e.toFileInfo.name = e.fileName :=
  List.take_of_length_le (by have := h.2.1; omega)

theorem readDir_eq {l : List DirFileInfo} (h : ∀ e ∈ l, e.Listed folder) (n : Nat) :
    readDir n l = (l.take n).map DirFileInfo.toFileInfo := by
  induction l generalizing n with
  | nil => cases n <;> rfl
  | cons e es ih =>
    cases n with
    | zero => rfl
    | succ n =>
      have hrest := fun x hx => h x (List.mem_cons_of_mem e hx)
      rw [readDir, if_neg (h e List.mem_cons_self).1, ih hrest]
      rfl

variable (deletes) in
/-- An entry that the purge does not try is only counted. -/
theorem purgeEntry_of_not_purgeable {e : DirFileInfo} (h : e.Listed folder)
    (hnot : ¬ purgeable folder e = true) (p : PurgeState) :
    ∃ n, purgeEntry deletes folder p e.toFileInfo =
      { p with totalFailed := p.totalFailed + n } := by
  unfold purgeEntry
  rw [h.name_eq]
  split
  · exact ⟨0, rfl⟩
  · rename_i hdots
    split
    · exact ⟨0, rfl⟩
    · rename_i htype
      split
      · exact ⟨1, rfl⟩
      · split
        · exact ⟨1, rfl⟩
        · rename_i hok
          refine absurd (decide_eq_true ⟨?_, ?_, ?_, not_not.mp hok⟩) hnot
          · exact fun hdot => hdots (.inr (.inl hdot))
          · exact fun hdot => hdots (.inr (.inr hdot))
          · exact fun hdir => htype (if_pos (of_decide_eq_true hdir))

/-- An entry that the purge tries is deleted or counted. -/
theorem purgeEntry_of_purgeable {e : DirFileInfo} (h : e.Listed folder)
    (hpurge : purgeable folder e = true) (p : PurgeState) :
    purgeEntry deletes folder p e.toFileInfo =
      if deletesEntry deletes folder p.dir.log.length e then
        ⟨⟨p.dir.entries.filter (·.fileName ≠ e.fileName),
          p.dir.log ++ [(folder ++ e.fileName, true)]⟩,
          p.deletedThisRound + 1, p.totalDeleted + 1, p.totalFailed⟩
      else
        ⟨{ p.dir with log := p.dir.log ++ [(folder ++ e.fileName, false)] },
          p.deletedThisRound, p.totalDeleted, p.totalFailed + 1⟩ := by
  obtain ⟨hdot, hdots, hdir, hok⟩ := of_decide_eq_true hpurge
  have hfits := h.2.2
  unfold purgeEntry
  rw [h.name_eq, if_neg fun hor => hor.elim h.1 fun hor => hor.elim hdot hdots]
  rw [if_neg, if_neg (by omega), if_neg (not_not.mpr hok)]
  · unfold DirState.delete deletesEntry
    split <;> rfl
  · intro htype
    apply hdir
    by_contra hnot
    rw [DirFileInfo.toFileInfo, if_neg fun hperm => hnot (decide_eq_true hperm)] at htype
    exact Nat.zero_ne_one htype

/-- What a round over some entries leaves, where others precede and follow them. -/
structure PurgedBatch (deletes : Nat → List Byte → Bool) (folder : List Byte)
    (before batch after : List DirFileInfo) (p q : PurgeState) : Prop where
  entries : q.dir.entries =
    before ++ survivors (purgeable folder) (deletesEntry deletes folder) p.dir.log.length batch ++
      after
  attempts : q.dir.log.length = p.dir.log.length + (batch.filter (purgeable folder)).length
  round : q.deletedThisRound + q.dir.entries.length = p.deletedThisRound + p.dir.entries.length
  deleted : q.totalDeleted + q.dir.entries.length = p.totalDeleted + p.dir.entries.length
  failed : (∀ e ∈ batch, purgeable folder e = true) →
    q.totalFailed + failures p.dir.log = p.totalFailed + failures q.dir.log

theorem failures_append (log : List (List Byte × Bool)) (path : List Byte) (ok : Bool) :
    failures (log ++ [(path, ok)]) = failures log + if ok then 0 else 1 := by
  unfold failures
  rw [List.filter_append, List.length_append]
  cases ok <;> rfl

/-- Deleting a name takes the entry out of the directory, and no other. -/
theorem filter_fileName_ne {before after : List DirFileInfo} {e : DirFileInfo}
    (h : ((before ++ e :: after).map (·.fileName)).Nodup) :
    (before ++ e :: after).filter (fun x => decide (x.fileName ≠ e.fileName)) =
      before ++ after := by
  rw [List.map_append, List.map_cons, List.nodup_append, List.nodup_cons] at h
  obtain ⟨-, ⟨hafter, -⟩, hdisjoint⟩ := h
  rw [List.filter_append, List.filter_cons_of_neg (by simp)]
  congr 1
  · refine List.filter_eq_self.mpr fun x hx => decide_eq_true fun heq => ?_
    exact hdisjoint _ (List.mem_map_of_mem hx) _ List.mem_cons_self heq
  · refine List.filter_eq_self.mpr fun x hx => decide_eq_true fun heq => hafter ?_
    exact heq ▸ List.mem_map_of_mem hx

theorem PurgedBatch.cons {before es after : List DirFileInfo} {e : DirFileInfo}
    {p q r : PurgeState} (h : PurgedBatch deletes folder before [e] (es ++ after) p q)
    (hrest : PurgedBatch deletes folder
      (before ++ survivors (purgeable folder) (deletesEntry deletes folder) p.dir.log.length [e])
      es after q r) : PurgedBatch deletes folder before (e :: es) after p r where
  entries := by
    rw [hrest.entries, h.attempts, List.append_assoc before, ← survivors_append]
    rfl
  attempts := by
    have hsplit : (e :: es).filter (purgeable folder) =
        [e].filter (purgeable folder) ++ es.filter (purgeable folder) := by
      rw [← List.filter_append]
      rfl
    rw [hrest.attempts, h.attempts, hsplit, List.length_append, Nat.add_assoc]
  round := by
    have := h.round
    have := hrest.round
    omega
  deleted := by
    have := h.deleted
    have := hrest.deleted
    omega
  failed hall := by
    have := h.failed fun x hx => hall x (List.mem_singleton.mp hx ▸ List.mem_cons_self)
    have := hrest.failed fun x hx => hall x (List.mem_cons_of_mem e hx)
    omega

variable (deletes) in
/-- One entry of the batch. -/
theorem purgedEntry {e : DirFileInfo} (hlisted : e.Listed folder) {before after : List DirFileInfo}
    {p : PurgeState} (hnodup : ((before ++ e :: after).map (·.fileName)).Nodup)
    (hentries : p.dir.entries = before ++ e :: after) :
    PurgedBatch deletes folder before [e] after p
      (purgeEntry deletes folder p e.toFileInfo) := by
  by_cases hpurge : purgeable folder e = true
  · have hkept : survivors (purgeable folder) (deletesEntry deletes folder) p.dir.log.length [e] =
        if deletesEntry deletes folder p.dir.log.length e then [] else [e] := by
      rw [survivors, if_neg (not_not.mpr hpurge)]
      rfl
    have hone : [e].filter (purgeable folder) = [e] := List.filter_cons_of_pos hpurge
    rw [purgeEntry_of_purgeable hlisted hpurge]
    by_cases hdelete : deletesEntry deletes folder p.dir.log.length e = true
    · have hgone : p.dir.entries.filter (fun x => decide (x.fileName ≠ e.fileName)) =
          before ++ after := by
        rw [hentries, filter_fileName_ne hnodup]
      have hlength : (before ++ after).length + 1 = p.dir.entries.length := by
        rw [hentries, List.length_append, List.length_append, List.length_cons]
        omega
      rw [if_pos hdelete]
      rw [if_pos hdelete] at hkept
      refine ⟨?_, ?_, ?_, ?_, fun _ => ?_⟩
      · rw [hkept, List.append_nil]
        exact hgone
      · rw [hone, List.length_append]
        rfl
      · rw [hgone]
        dsimp only
        omega
      · rw [hgone]
        dsimp only
        omega
      · rw [failures_append]
        rfl
    · rw [if_neg hdelete]
      rw [if_neg hdelete] at hkept
      refine ⟨?_, ?_, rfl, rfl, fun _ => ?_⟩
      · rw [hkept, List.append_assoc]
        exact hentries
      · rw [hone, List.length_append]
        rfl
      · rw [failures_append, if_neg Bool.false_ne_true]
        exact Nat.succ_add_eq_add_succ _ _
  · obtain ⟨n, hcounted⟩ := purgeEntry_of_not_purgeable deletes hlisted hpurge p
    rw [hcounted]
    refine ⟨?_, ?_, rfl, rfl, fun hall => ?_⟩
    · rw [survivors, if_pos hpurge, List.append_assoc]
      exact hentries
    · rw [List.filter_cons_of_neg hpurge]
      rfl
    · exact absurd (hall e List.mem_cons_self) hpurge

variable (deletes) in
/-- A round deletes what it tries, where a delete succeeds, and counts its deletes. -/
theorem purgedBatch {batch : List DirFileInfo} (hlisted : ∀ e ∈ batch, e.Listed folder)
    {before after : List DirFileInfo} {p : PurgeState}
    (hnodup : ((before ++ batch ++ after).map (·.fileName)).Nodup)
    (hentries : p.dir.entries = before ++ batch ++ after) :
    PurgedBatch deletes folder before batch after p
      ((batch.map DirFileInfo.toFileInfo).foldl (purgeEntry deletes folder) p) := by
  induction batch generalizing before p with
  | nil => exact ⟨hentries, rfl, rfl, rfl, fun _ => rfl⟩
  | cons e es ih =>
    rw [List.append_assoc, List.cons_append] at hnodup hentries
    rw [List.map_cons, List.foldl_cons]
    have hfirst := purgedEntry deletes (hlisted e List.mem_cons_self) hnodup hentries
    have hleft := hfirst.entries
    rw [← List.append_assoc] at hleft
    refine hfirst.cons (ih (fun x hx => hlisted x (List.mem_cons_of_mem e hx)) ?_ hleft)
    refine hnodup.sublist (List.Sublist.map _ ?_)
    rw [List.append_assoc, List.append_assoc]
    exact ((survivors_sublist _ [e]).append_right _).append_left before

end Round

end WalnutGateway
