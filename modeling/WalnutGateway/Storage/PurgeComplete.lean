import WalnutGateway.Storage.Purge

/-!
# What a purge gets done

Entries that the purge does not delete stay in the listing, so a listing becomes empty only
where every entry is deleted. With anything else in the directory the last round deletes
nothing, and the purge ends with an error and without its counts.
-/

namespace WalnutGateway

variable {deletes : Nat → List Byte → Bool} {folder : List Byte}

/-- The rounds of the purge empty the directory. -/
abbrev Emptied (deletes : Nat → List Byte → Bool) (folder : List Byte) (k : Nat)
    (entries : List DirFileInfo) : Prop :=
  SweptInBatches (purgeable folder) (deletesEntry deletes folder) fsDirPurgeBatch k entries

/-! ## Rounds -/

/-- The folder's path fits `sdk_file_list_dir`. -/
def ListablePath (folder : List Byte) : Prop := folder ≠ [] ∧ folder.length < 128

/-- Entries that can be listed, each under a name of its own. -/
structure ListedEntries (folder : List Byte) (entries : List DirFileInfo) : Prop where
  listed : ∀ e ∈ entries, e.Listed folder
  nodup : (entries.map (·.fileName)).Nodup

theorem ListedEntries.sublist {l l' : List DirFileInfo} (h : ListedEntries folder l)
    (hsub : l'.Sublist l) : ListedEntries folder l' where
  listed e he := h.listed e (hsub.subset he)
  nodup := h.nodup.sublist (hsub.map _)

theorem sdkFileListDir_eq (hpath : ListablePath folder) {entries : List DirFileInfo}
    (h : ListedEntries folder entries) :
    sdkFileListDir folder entries fsDirPurgeBatch =
      some ((entries.take fsDirPurgeBatch).map DirFileInfo.toFileInfo) := by
  have hlen : ¬ (folder.length = 0 ∨ 128 ≤ folder.length) := by
    rw [not_or, List.length_eq_zero_iff]
    exact ⟨hpath.1, not_le.mpr hpath.2⟩
  rw [sdkFileListDir, if_neg (by decide), if_neg hlen, readDir_eq h.listed]

/-- The purge after a round that starts with some counts. -/
def roundState (deletes : Nat → List Byte → Bool) (folder : List Byte) (dir : DirState)
    (totalDeleted totalFailed : Nat) : PurgeState :=
  ((dir.entries.take fsDirPurgeBatch).map DirFileInfo.toFileInfo).foldl
    (purgeEntry deletes folder) ⟨dir, 0, totalDeleted, totalFailed⟩

theorem purgeRounds_succ (hpath : ListablePath folder) {dir : DirState}
    (h : ListedEntries folder dir.entries) (n td tf : Nat) :
    purgeRounds deletes folder (n + 1) dir td tf =
      if dir.entries = [] then some ⟨.success, td, tf, dir⟩
      else
        let p := roundState deletes folder dir td tf
        if p.deletedThisRound = 0 then some ⟨.error, 0, 0, p.dir⟩
        else purgeRounds deletes folder n p.dir p.totalDeleted p.totalFailed := by
  rw [purgeRounds, sdkFileListDir_eq hpath h, roundState]
  cases dir.entries with
  | nil => rfl
  | cons e es =>
    rw [if_neg (List.cons_ne_nil e es)]
    rfl

variable (deletes) in
/-- What a round leaves of the directory and of the counts. -/
theorem roundState_spec {dir : DirState} (h : ListedEntries folder dir.entries) (td tf : Nat) :
    PurgedBatch deletes folder [] (dir.entries.take fsDirPurgeBatch)
      (dir.entries.drop fsDirPurgeBatch) ⟨dir, 0, td, tf⟩
      (roundState deletes folder dir td tf) := by
  have hsplit : dir.entries =
      [] ++ dir.entries.take fsDirPurgeBatch ++ dir.entries.drop fsDirPurgeBatch := by
    rw [List.nil_append, List.take_append_drop]
  apply purgedBatch deletes (fun e he => h.listed e (List.mem_of_mem_take he)) _ hsplit
  rw [← hsplit]
  exact h.nodup

variable (deletes) in
theorem roundState_entries {dir : DirState} (h : ListedEntries folder dir.entries) (td tf : Nat) :
    (roundState deletes folder dir td tf).dir.entries =
      afterRound (purgeable folder) (deletesEntry deletes folder) fsDirPurgeBatch
        dir.log.length dir.entries :=
  (roundState_spec deletes h td tf).entries

variable (deletes) in
theorem roundState_attempts {dir : DirState} (h : ListedEntries folder dir.entries) (td tf : Nat) :
    (roundState deletes folder dir td tf).dir.log.length =
      dir.log.length + roundAttempts (purgeable folder) fsDirPurgeBatch dir.entries :=
  (roundState_spec deletes h td tf).attempts

variable (deletes) in
/-- A round that deletes something leaves fewer entries. -/
theorem roundState_progress {dir : DirState} (h : ListedEntries folder dir.entries) (td tf : Nat) :
    (roundState deletes folder dir td tf).deletedThisRound = 0 ↔
      ¬ (roundState deletes folder dir td tf).dir.entries.length < dir.entries.length := by
  have hround := (roundState_spec deletes h td tf).round
  dsimp only at hround
  omega

variable (deletes) in
theorem roundState_listed {dir : DirState} (h : ListedEntries folder dir.entries) (td tf : Nat) :
    ListedEntries folder (roundState deletes folder dir td tf).dir.entries := by
  rw [roundState_entries deletes h]
  exact h.sublist (afterRound_sublist _ _ _)

/-! ## The whole purge -/

variable (deletes) in
/-- The purge ends: every round but the last takes an entry away. -/
theorem purgeRounds_returns (hpath : ListablePath folder) {n : Nat} {dir : DirState}
    (h : ListedEntries folder dir.entries) (td tf : Nat) (hn : dir.entries.length < n) :
    ∃ reply, purgeRounds deletes folder n dir td tf = some reply := by
  induction n generalizing dir td tf with
  | zero => exact absurd hn (Nat.not_lt_zero _)
  | succ n ih =>
    rw [purgeRounds_succ hpath h]
    by_cases hempty : dir.entries = []
    · exact ⟨_, if_pos hempty⟩
    · rw [if_neg hempty]
      dsimp only
      by_cases hstalled : (roundState deletes folder dir td tf).deletedThisRound = 0
      · exact ⟨_, if_pos hstalled⟩
      · rw [if_neg hstalled]
        have hfewer := not_not.mp (mt (roundState_progress deletes h td tf).mpr hstalled)
        exact ih (roundState_listed deletes h td tf) _ _ (by omega)

/-- More fuel does not change what the purge returns. -/
theorem purgeRounds_mono {n m : Nat} (hnm : n ≤ m) {dir : DirState} {td tf : Nat}
    {reply : PurgeReply} (h : purgeRounds deletes folder n dir td tf = some reply) :
    purgeRounds deletes folder m dir td tf = some reply := by
  induction n generalizing m dir td tf with
  | zero => cases h
  | succ n ih =>
    obtain ⟨m, rfl⟩ : ∃ k, m = k + 1 := ⟨m - 1, by omega⟩
    unfold purgeRounds at h ⊢
    split at h
    · exact h
    · exact h
    · dsimp only at h ⊢
      split at h
      · rename_i hstalled
        rw [if_pos hstalled]
        exact h
      · rename_i hgoes
        rw [if_neg hgoes]
        exact ih (Nat.le_of_succ_le_succ hnm) h

/-- The two ways in which a purge ends. -/
inductive PurgeEnd (deletes : Nat → List Byte → Bool) (folder : List Byte) (dir : DirState)
    (td tf : Nat) : PurgeReply → Prop
  | emptied (reply : PurgeReply) (hemptied : Emptied deletes folder dir.log.length dir.entries)
    (hresult : reply.result = .success) (hentries : reply.dir.entries = [])
    (hdeleted : reply.outDeleted = td + dir.entries.length)
    (hfailed : reply.outFailed + failures dir.log = tf + failures reply.dir.log) :
    PurgeEnd deletes folder dir td tf reply
  | stalled (after : DirState)
    (hstalled : ¬ Emptied deletes folder dir.log.length dir.entries) :
    PurgeEnd deletes folder dir td tf ⟨.error, 0, 0, after⟩

theorem purgeRounds_end (hpath : ListablePath folder) {n : Nat} {dir : DirState}
    (h : ListedEntries folder dir.entries) {td tf : Nat} {reply : PurgeReply}
    (hrun : purgeRounds deletes folder n dir td tf = some reply) :
    PurgeEnd deletes folder dir td tf reply := by
  induction n generalizing dir td tf with
  | zero => cases hrun
  | succ n ih =>
    rw [purgeRounds_succ hpath h] at hrun
    by_cases hempty : dir.entries = []
    · rw [if_pos hempty, Option.some.injEq] at hrun
      subst hrun
      refine .emptied _ ?_ rfl hempty ?_ rfl
      · rw [hempty]
        exact .empty _
      · rw [hempty]
        rfl
    · rw [if_neg hempty] at hrun
      dsimp only at hrun
      have hentries := roundState_entries deletes h td tf
      have hprogress := roundState_progress deletes h td tf
      by_cases hstalled : (roundState deletes folder dir td tf).deletedThisRound = 0
      · rw [if_pos hstalled, Option.some.injEq] at hrun
        subst hrun
        refine .stalled _ fun hswept => hprogress.mp hstalled ?_
        rw [hentries]
        exact (hswept.next hempty).1
      · rw [if_neg hstalled] at hrun
        have hfewer := not_not.mp (mt hprogress.mpr hstalled)
        have hspec := roundState_spec deletes h td tf
        have hattempts := roundState_attempts deletes h td tf
        cases ih (roundState_listed deletes h td tf) hrun with
        | emptied _ hemptied hresult hgone hdeleted hfailed =>
          rw [hentries, hattempts] at hemptied
          have hswept : Emptied deletes folder dir.log.length dir.entries :=
            .round (hentries ▸ hfewer) hemptied
          have hcount := hspec.deleted
          have hfails := hspec.failed fun e he => (hswept.removed e (List.mem_of_mem_take he)).1
          dsimp only at hcount hfails
          refine .emptied _ hswept hresult hgone ?_ ?_ <;> omega
        | stalled after hnot =>
          rw [hentries, hattempts] at hnot
          exact .stalled after fun hswept => hnot (hswept.next hempty).2

/-- Where it depends on the file alone whether it can be deleted, the rounds empty a directory
whose entries are all files that can. -/
theorem emptied_iff_forall {deletable : List Byte → Bool} {k : Nat} {entries : List DirFileInfo} :
    Emptied (fun _ => deletable) folder k entries ↔
      ∀ e ∈ entries, purgeable folder e = true ∧ deletable (folder ++ e.fileName) = true :=
  sweptInBatches_iff_forall (Nat.zero_lt_succ 15)

/-! ## The call -/

/-- The folder that a call purges. -/
def purgeFolder (dirPath : List Byte) : List Byte := fsDirPurgeEnsureSlash dirPath fsDirPurgePathMax

/-- A path that the purge accepts and the listing takes. -/
def PurgePath (dirPath : List Byte) : Prop :=
  fsDirPurgePathOk (purgeFolder dirPath) = true ∧ (purgeFolder dirPath).length < 128

instance (dirPath : List Byte) : Decidable (PurgePath dirPath) :=
  inferInstanceAs (Decidable (_ ∧ _))

/-- The call on a directory returns. -/
def PurgeReturns (deletes : Nat → List Byte → Bool) (dirPath : List Byte) (d : Directory)
    (reply : PurgeReply) : Prop :=
  ∃ fuel, fileSystemDeleteAllFilesInDirectory deletes dirPath fuel ⟨d.entries, []⟩ = some reply

theorem PurgePath.call_eq {dirPath : List Byte} (h : PurgePath dirPath) (fuel : Nat)
    (dir : DirState) :
    fileSystemDeleteAllFilesInDirectory deletes dirPath fuel dir =
      purgeRounds deletes (purgeFolder dirPath) fuel dir 0 0 := by
  have hle : dirPath.length ≤ (purgeFolder dirPath).length := by
    unfold purgeFolder fsDirPurgeEnsureSlash
    split
    · exact le_rfl
    · split
      · exact le_rfl
      · rw [List.length_append]
        exact Nat.le_add_right _ _
  have hlen := h.2
  have hmax : fsDirPurgePathMax = 320 := rfl
  rw [fileSystemDeleteAllFilesInDirectory, if_neg (by omega)]
  exact if_neg (not_not.mpr h.1)

theorem PurgePath.listable {dirPath : List Byte} (h : PurgePath dirPath) :
    ListablePath (purgeFolder dirPath) :=
  ⟨(of_decide_eq_true h.1).1, h.2⟩

/-- A call has one outcome. -/
theorem PurgeReturns.unique {dirPath : List Byte} (hpath : PurgePath dirPath) {d : Directory}
    {reply reply' : PurgeReply} (h : PurgeReturns deletes dirPath d reply)
    (h' : PurgeReturns deletes dirPath d reply') : reply = reply' := by
  obtain ⟨n, hn⟩ := h
  obtain ⟨m, hm⟩ := h'
  rw [hpath.call_eq] at hn hm
  have hn' := purgeRounds_mono (Nat.le_max_left n m) hn
  have hm' := purgeRounds_mono (Nat.le_max_right n m) hm
  exact Option.some.inj (hn'.symm.trans hm')

/-- The purge is complete: where every delete succeeds it deletes every regular file, and
where some fail it deletes the others, and it says how many. -/
def PurgesAll (deletes : Nat → List Byte → Bool) (dirPath : List Byte) (d : Directory) : Prop :=
  ∃ reply, PurgeReturns deletes dirPath d reply ∧
    ((∀ call ∈ reply.dir.log, call.2 = true) →
      reply.result = .success ∧ (∀ e ∈ reply.dir.entries, ¬ e.Regular) ∧
        reply.dir.entries.filter DirFileInfo.isDir = d.entries.filter DirFileInfo.isDir ∧
        reply.outDeleted + reply.dir.entries.length = d.entries.length) ∧
    ((∃ call ∈ reply.dir.log, call.2 = false) →
      (∀ e ∈ reply.dir.entries, e.Regular →
        (purgeFolder dirPath ++ e.fileName, false) ∈ reply.dir.log) ∧
        reply.outDeleted + reply.dir.entries.length = d.entries.length ∧
        reply.outFailed = failures reply.dir.log)

/-- The purge always ends. It is complete in just the directories that hold nothing but files
that it tries to delete, where every round deletes one of them. -/
theorem purge_complete (deletes : Nat → List Byte → Bool) (dirPath : List Byte) (d : Directory)
    (hpath : PurgePath dirPath)
    (hshort : ∀ e ∈ d.entries,
      (purgeFolder dirPath).length + e.fileName.length + 1 ≤ fsDirPurgePathMax) :
    (∃ reply, PurgeReturns deletes dirPath d reply) ∧
      (PurgesAll deletes dirPath d ↔
        (∀ e ∈ d.entries, purgeable (purgeFolder dirPath) e = true) ∧
          Emptied deletes (purgeFolder dirPath) 0 d.entries) := by
  have hlisted : ListedEntries (purgeFolder dirPath) d.entries :=
    ⟨fun e he => ⟨(d.named e he).1, (d.named e he).2, hshort e he⟩, d.nodup⟩
  obtain ⟨reply, hrun⟩ : ∃ reply, purgeRounds deletes (purgeFolder dirPath)
      (d.entries.length + 1) ⟨d.entries, []⟩ 0 0 = some reply :=
    purgeRounds_returns deletes hpath.listable hlisted 0 0 (Nat.lt_succ_self _)
  have hreturns : PurgeReturns deletes dirPath d reply := ⟨_, (hpath.call_eq _ _).trans hrun⟩
  refine ⟨⟨reply, hreturns⟩, ?_⟩
  cases purgeRounds_end hpath.listable hlisted hrun with
  | emptied _ hemptied hresult hentries hdeleted hfailed =>
    have hall := fun e he => (hemptied.removed e he).1
    have hcount : reply.outDeleted + reply.dir.entries.length = d.entries.length := by
      rw [hdeleted, hentries]
      exact Nat.zero_add _
    have hnone : ∀ e ∈ reply.dir.entries, False := fun e he => by
      rw [hentries] at he
      exact List.not_mem_nil he
    have hdirs : d.entries.filter DirFileInfo.isDir = [] :=
      List.filter_eq_nil_iff.mpr fun e he => (of_decide_eq_true (hall e he)).2.2.1
    refine iff_of_true ⟨reply, hreturns, fun _ => ⟨hresult, ?_, ?_, hcount⟩,
      fun _ => ⟨?_, hcount, ?_⟩⟩ ⟨hall, hemptied⟩
    · exact fun e he => (hnone e he).elim
    · rw [hdirs, hentries]
      rfl
    · exact fun e he => (hnone e he).elim
    · exact hfailed.trans (Nat.zero_add _)
  | stalled after hstalled =>
    refine iff_of_false ?_ fun hcond => hstalled hcond.2
    rintro ⟨reply', hreturns', hgood, hbad⟩
    obtain rfl := hreturns.unique hpath hreturns'
    by_cases hfailed : ∃ call ∈ after.log, call.2 = false
    · obtain ⟨call, hmem, hcall⟩ := hfailed
      obtain ⟨-, -, hcount⟩ := hbad ⟨call, hmem, hcall⟩
      have hpos : 0 < failures after.log := by
        refine List.length_pos_of_mem (List.mem_filter.mpr ⟨hmem, ?_⟩)
        rw [hcall]
        rfl
      exact absurd hcount hpos.ne
    · have hresult := (hgood fun call hmem => by
        by_contra hcall
        exact hfailed ⟨call, hmem, Bool.not_eq_true _ ▸ hcall⟩).1
      exact Result.noConfusion hresult

/-- An entry of a directory. -/
def namedEntry (name : String) (permissions : UInt32) : DirFileInfo :=
  ⟨asciiBytes name, 0, permissions⟩

/-- The updates folder with one file, which can be deleted. -/
def fotaFolder : Directory where
  entries := [namedEntry "st_firmware.bin" 0]
  nodup := by decide
  named := by decide

/-- The same beside a sub-directory. -/
def fotaFolderWithLogs : Directory where
  entries := [namedEntry "logs" fsKernelPermDir, namedEntry "st_firmware.bin" 0]
  nodup := by decide
  named := by decide

theorem purge_complete_one_file :
    (∃ reply, PurgeReturns (fun _ _ => true) (asciiBytes "C:/fota/") fotaFolder reply) ∧
      (PurgesAll (fun _ _ => true) (asciiBytes "C:/fota/") fotaFolder ↔
        (∀ e ∈ fotaFolder.entries,
          purgeable (purgeFolder (asciiBytes "C:/fota/")) e = true) ∧
          Emptied (fun _ _ => true) (purgeFolder (asciiBytes "C:/fota/")) 0 fotaFolder.entries) :=
  purge_complete _ _ _ (by decide) (by decide)

/-- The only file beside a sub-directory is deleted, but the purge ends with an error and
without counts. -/
theorem purge_complete_fails_beside_a_folder :
    ¬ PurgesAll (fun _ _ => true) (asciiBytes "C:/fota/") fotaFolderWithLogs := by
  rintro ⟨reply, hreturns, hgood, -⟩
  have hpath : PurgePath (asciiBytes "C:/fota/") := by decide
  have hstalled : PurgeReturns (fun _ _ => true) (asciiBytes "C:/fota/") fotaFolderWithLogs
    ⟨.error, 0, 0, ⟨[namedEntry "logs" fsKernelPermDir],
      [(asciiBytes "C:/fota/st_firmware.bin", true)]⟩⟩ := ⟨3, rfl⟩
  obtain rfl := hreturns.unique hpath hstalled
  have hresult := (hgood (by decide)).1
  exact Result.noConfusion hresult

/-- A file behind as many sub-directories as a batch holds is never looked at. -/
example :
    (fileSystemDeleteAllFilesInDirectory (fun _ _ => true) (asciiBytes "C:/fota/") 3
      ⟨(List.range 16).map (fun n => ⟨[UInt8.ofNat (0x61 + n)], 0, fsKernelPermDir⟩) ++
        [namedEntry "st_firmware.bin" 0], []⟩).map
      (fun reply => (reply.result, reply.dir.entries.length, reply.dir.log)) =
      some (.error, 17, []) := by decide

/-! ## The factory reset -/

/-- What the reset finds of a folder: it can be purged with this fuel, and nothing was yet
deleted in it. -/
structure WipeReady (fuel : Nat) (flash : List Byte → DirState) (dirPath : List Byte) : Prop where
  path : PurgePath dirPath
  listed : ListedEntries (purgeFolder dirPath) (flash dirPath).entries
  fresh : (flash dirPath).log = []
  fuel_lt : (flash dirPath).entries.length < fuel

variable (deletes) in
/-- The purge of a folder succeeds when its rounds empty it. -/
theorem WipeReady.purge {fuel : Nat} {flash : List Byte → DirState} {dirPath : List Byte}
    (h : WipeReady fuel flash dirPath) :
    ∃ reply, fileSystemDeleteAllFilesInDirectory deletes dirPath fuel (flash dirPath) =
      some reply ∧
        (reply.result = .success ↔
          Emptied deletes (purgeFolder dirPath) 0 (flash dirPath).entries) := by
  obtain ⟨reply, hrun⟩ := purgeRounds_returns deletes h.path.listable h.listed 0 0
    h.fuel_lt
  refine ⟨reply, (h.path.call_eq _ _).trans hrun, ?_⟩
  have hfresh : (flash dirPath).log.length = 0 := List.length_eq_zero_iff.mpr h.fresh
  cases purgeRounds_end h.path.listable h.listed hrun with
  | emptied _ hemptied hresult => exact iff_of_true hresult (hfresh ▸ hemptied)
  | stalled after hstalled => exact iff_of_false Result.noConfusion (hfresh ▸ hstalled)

/-- The reset wipes the folders in turn and succeeds when the rounds empty all of them. -/
theorem wipeFolders_success_iff {deletes : List Byte → Nat → List Byte → Bool} {fuel : Nat}
    {dirs : List (List Byte)} (hnodup : dirs.Nodup) {flash : List Byte → DirState}
    (h : ∀ p ∈ dirs, WipeReady fuel flash p) :
    (wipeFolders deletes fuel dirs flash).map Prod.fst = some .success ↔
      ∀ p ∈ dirs, Emptied (deletes p) (purgeFolder p) 0 (flash p).entries := by
  induction dirs generalizing flash with
  | nil => exact iff_of_true rfl fun p hp => absurd hp List.not_mem_nil
  | cons dirPath rest ih =>
    obtain ⟨hfirst, hrest⟩ := List.nodup_cons.mp hnodup
    have hready := h dirPath List.mem_cons_self
    obtain ⟨reply, hrun, hresult⟩ := hready.purge (deletes dirPath)
    rw [List.forall_mem_cons, ← hresult, wipeFolders, hrun]
    dsimp only
    by_cases hsuccess : reply.result = .success
    · rw [if_neg (not_not.mpr hsuccess)]
      have hsame : ∀ p ∈ rest, Function.update flash dirPath reply.dir p = flash p := fun p hp =>
        Function.update_of_ne (ne_of_mem_of_not_mem hp hfirst) _ _
      rw [ih hrest]
      · rw [and_iff_right hsuccess]
        exact forall₂_congr fun p hp => by rw [hsame p hp]
      · intro p hp
        have hready := h p (List.mem_cons_of_mem dirPath hp)
        exact ⟨hready.path, (hsame p hp).symm ▸ hready.listed, (hsame p hp).symm ▸ hready.fresh,
          (hsame p hp).symm ▸ hready.fuel_lt⟩
    · rw [if_pos hsuccess]
      exact iff_of_false (fun heq => hsuccess (Option.some.inj heq)) fun hand => hsuccess hand.1

/-- The factory reset gets through when all four folders hold nothing but files that it tries
to delete, and every round deletes one. -/
theorem fileSystemWipeUserFlashC_success_iff {deletes : List Byte → Nat → List Byte → Bool}
    {fuel : Nat} {flash : List Byte → DirState} (h : ∀ p ∈ wipedDirs, WipeReady fuel flash p) :
    (fileSystemWipeUserFlashC deletes fuel flash).map Prod.fst = some .success ↔
      ∀ p ∈ wipedDirs, Emptied (deletes p) (purgeFolder p) 0 (flash p).entries :=
  wipeFolders_success_iff (by decide) h

end WalnutGateway
