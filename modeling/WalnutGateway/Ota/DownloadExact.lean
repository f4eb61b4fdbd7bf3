import WalnutGateway.Ota.Download

/-!
# What a download leaves

A download that succeeds leaves the server's file at the destination. One that fails after it
opened the destination deletes it, and one that fails before leaves there what there was or
nothing. What a download opened it releases, once.
-/

namespace WalnutGateway

/-! ## The stream -/

theorem serverBytes_append (content : Nat → Byte) (offset m n : Nat) :
    serverBytes content offset m ++ serverBytes content (offset + m) n =
      serverBytes content offset (m + n) := by
  rw [serverBytes, serverBytes, serverBytes, ← List.map_append, List.range'_append_1]

/-- A chunk is what the server has at the offset, no more than was asked for. -/
theorem otaDownloadReadChunk_some {server : DownloadServer}
    {call offset chunkSize bufferSize : Nat} {data : List Byte}
    (h : otaDownloadReadChunk server call offset chunkSize bufferSize = some data) :
    data.length ≤ chunkSize ∧ data = serverBytes server.content offset data.length := by
  unfold otaDownloadReadChunk at h
  split at h
  · cases h
  · dsimp only at h
    split at h
    · cases h
    · rename_i chunk hread
      obtain ⟨-, hsize, hbytes⟩ := server.honest hread
      split at h
      · cases h
      · have hfits : chunk.length ≤ bufferSize ∧ chunk.length ≤ chunkSize := by
          split at hsize <;> omega
        rw [List.take_of_length_le hfits.1, Option.some.injEq] at h
        subst h
        exact ⟨hfits.2, hbytes⟩

/-- A chunk that was written in full continues the file. -/
theorem wmSdkFileWrite_continues {flash : Flash (List Byte)} {path old data : List Byte}
    (hfile : flash.files path = some old)
    (hok : (wmSdkFileWrite flash ⟨path, .wb, old.length⟩ data).ok = true)
    (hall : (wmSdkFileWrite flash ⟨path, .wb, old.length⟩ data).written = data.length) :
    (wmSdkFileWrite flash ⟨path, .wb, old.length⟩ data).flash.files path = some (old ++ data) ∧
      (wmSdkFileWrite flash ⟨path, .wb, old.length⟩ data).fp =
        ⟨path, .wb, (old ++ data).length⟩ := by
  obtain ⟨hfiles, hfp⟩ := wmSdkFileWrite_complete hok hall
  rw [hfiles, hfp, List.length_append, Flash.contents_of_files hfile, FileHandle.overwrite]
  dsimp only
  rw [List.take_length, List.drop_of_length_le (Nat.le_add_right _ _), List.append_nil]
  exact ⟨rfl, rfl⟩

/-- A stream that gets to the end has written the whole file, and it opens and releases
nothing. -/
theorem otaDownloadStream_spec (server : DownloadServer) (scratchSize : Nat) (st : DownloadRun)
    {fileSize offset : Nat} {path : List Byte} (hoffset : offset ≤ fileSize)
    (hfile : st.flash.files path = some (serverBytes server.content 0 offset)) :
    (otaDownloadStream server fileSize scratchSize offset ⟨path, .wb, offset⟩ st).2.log = st.log ∧
      ((otaDownloadStream server fileSize scratchSize offset ⟨path, .wb, offset⟩ st).1 = true →
        (otaDownloadStream server fileSize scratchSize offset ⟨path, .wb, offset⟩ st).2.flash.files
          path = some (serverBytes server.content 0 fileSize)) := by
  generalize hn : fileSize - offset = n
  induction n using Nat.strongRecOn generalizing offset st with
  | _ n ih =>
    unfold otaDownloadStream
    by_cases hmore : offset < fileSize
    · rw [if_pos hmore]
      dsimp only
      split
      · exact ⟨rfl, fun h => Bool.noConfusion h⟩
      · rename_i data hread
        obtain ⟨hsize, hbytes⟩ := otaDownloadReadChunk_some hread
        have hpos := otaDownloadReadChunk_pos hread
        have hremaining : data.length ≤ fileSize - offset := by
          split at hsize <;> omega
        split
        · exact ⟨rfl, fun h => Bool.noConfusion h⟩
        · rename_i hwritten
          obtain ⟨hok, hall⟩ := not_not.mp hwritten
          have hlength : (serverBytes server.content 0 offset).length = offset := by
            rw [serverBytes, List.length_map, List.length_range']
          have hwhole := serverBytes_append server.content 0 offset data.length
          rw [Nat.zero_add, ← hbytes] at hwhole
          obtain ⟨hfiles, hfp⟩ := wmSdkFileWrite_continues hfile (hlength.symm ▸ hok)
            (hlength.symm ▸ hall)
          rw [hlength, hwhole] at hfiles
          rw [hlength, List.length_append, hlength] at hfp
          rw [hfp]
          exact ih (fileSize - (offset + data.length)) (by omega) _ (by omega) hfiles rfl
    · rw [if_neg hmore]
      have hend : offset = fileSize := by omega
      exact ⟨rfl, fun _ => hend ▸ hfile⟩

/-! ## From the open to the close -/

/-- How the part of a download that opens the destination ends. -/
inductive WriteEnd (path bytes : List Byte) (st : DownloadRun) : Bool × DownloadRun → Prop
  | unopened (after : DownloadRun) (hlog : after.log = st.log)
    (hfile : after.flash.files path = st.flash.files path) : WriteEnd path bytes st (false, after)
  | complete (after : DownloadRun) (hlog : after.log = st.log ++ [.opened .file, .released .file])
    (hfile : after.flash.files path = some bytes) : WriteEnd path bytes st (true, after)
  | failed (after : DownloadRun) (closing deleting : List DownloadEvent)
    (hclosing : closing = [.released .file] ∨ closing = [.closeFailed, .released .file])
    (hdeleting : deleting = [] ∧ after.flash.files path = none ∨ deleting = [.deleteFailed])
    (hlog : after.log = st.log ++ [.opened .file] ++ closing ++ deleting) :
    WriteEnd path bytes st (false, after)

/-- A delete removes the file or is noted as failed, and then it left the file alone. -/
theorem fileSystemDelete_cases (path : List Byte) (st : DownloadRun) :
    ((st.fileSystemDelete path).1 = true ∧ (st.fileSystemDelete path).2.log = st.log ∧
        (st.fileSystemDelete path).2.flash.files path = none) ∨
      ((st.fileSystemDelete path).1 = false ∧
        (st.fileSystemDelete path).2.log = st.log ++ [.deleteFailed] ∧
        ((st.fileSystemDelete path).2.flash.files path = st.flash.files path ∨
          (st.fileSystemDelete path).2.flash.files path = none)) := by
  have hfiles : ((wmSdkFileDelete st.flash path).2.files path = none) ∨
      (wmSdkFileDelete st.flash path).1 = false ∧
        (wmSdkFileDelete st.flash path).2.files path = st.flash.files path := by
    unfold wmSdkFileDelete
    dsimp only
    split
    · exact .inl (Flash.erase_files_self _ _)
    · exact .inr ⟨rfl, congrFun st.flash.tick_files path⟩
  unfold DownloadRun.fileSystemDelete
  dsimp only [DownloadRun.note]
  cases hd : (wmSdkFileDelete st.flash path).1 with
  | true =>
    rw [hd] at hfiles
    exact .inl ⟨rfl, List.append_nil _, hfiles.elim id fun h => Bool.noConfusion h.1⟩
  | false => exact .inr ⟨rfl, rfl, hfiles.elim .inr fun h => .inl h.2⟩

theorem fileClose_flash (st : DownloadRun) : st.fileClose.2.flash.files = st.flash.files :=
  wmSdkFileClose_files st.flash

theorem fileClose_log (st : DownloadRun) :
    (st.fileClose.1 = true ∧ st.fileClose.2.log = st.log ++ [.released .file]) ∨
      (st.fileClose.1 = false ∧
        st.fileClose.2.log = st.log ++ [.closeFailed, .released .file]) := by
  unfold DownloadRun.fileClose
  dsimp only [DownloadRun.note]
  cases (wmSdkFileClose st.flash).1 with
  | true => exact .inl ⟨rfl, rfl⟩
  | false => exact .inr ⟨rfl, rfl⟩

/-- Deleting the destination after the close. -/
theorem writeEnd_deleted {path bytes : List Byte} {st closed : DownloadRun}
    {closing : List DownloadEvent}
    (hclosing : closing = [.released .file] ∨ closing = [.closeFailed, .released .file])
    (hlog : closed.log = st.log ++ [.opened .file] ++ closing) :
    WriteEnd path bytes st (false, (closed.fileSystemDelete path).2) := by
  rcases fileSystemDelete_cases path closed with ⟨-, hdeleted, hnone⟩ | ⟨-, hdeleted, -⟩
  · refine .failed _ closing [] hclosing (.inl ⟨rfl, hnone⟩) ?_
    rw [hdeleted, hlog, List.append_nil]
  · refine .failed _ closing [.deleteFailed] hclosing (.inr rfl) ?_
    rw [hdeleted, hlog]

theorem wmSdkFileOpen_none_files {flash flash' : Flash (List Byte)} {path : List Byte}
    (h : wmSdkFileOpen flash path .wb = (none, flash')) : flash'.files = flash.files := by
  unfold wmSdkFileOpen at h
  dsimp only at h
  cases ho : flash.tick.1 with
  | success =>
    rw [ho] at h
    cases h
  | short k =>
    rw [ho] at h
    cases h
    exact flash.tick_files
  | fail k =>
    rw [ho] at h
    cases h
    exact flash.tick_files

theorem otaDownloadWriteFile_end (env : DownloadEnv) (fileSize scratchSize : Nat)
    (path : List Byte) (st : DownloadRun) :
    WriteEnd path (serverBytes env.server.content 0 fileSize) st
      (otaDownloadWriteFile env fileSize scratchSize path st) := by
  unfold otaDownloadWriteFile
  cases hopen : wmSdkFileOpen st.flash path .wb with
  | mk file flash =>
    cases file with
    | none => exact .unopened _ rfl (congrFun (wmSdkFileOpen_none_files hopen) path)
    | some file =>
      obtain rfl : file = ⟨path, .wb, 0⟩ := wmSdkFileOpen_handle (congrArg Prod.fst hopen)
      have hempty := wmSdkFileOpen_wb_files st.flash path
      rw [hopen] at hempty
      obtain ⟨hlog, hwhole⟩ := otaDownloadStream_spec env.server scratchSize
        ({ st with flash := flash }.note [.opened .file]) (Nat.zero_le fileSize) (hempty _ rfl)
      dsimp only
      generalize otaDownloadStream env.server fileSize scratchSize 0 ⟨path, .wb, 0⟩
        ({ st with flash := flash }.note [.opened .file]) = streamed at hlog hwhole ⊢
      have hlog' : streamed.2.log = st.log ++ [.opened .file] := hlog
      rcases fileClose_log streamed.2 with ⟨hclosed, hcloselog⟩ | ⟨hclosed, hcloselog⟩
      · by_cases hstreamed : streamed.1 = true
        · rw [if_neg (by rw [hstreamed, hclosed]; decide)]
          refine .complete _ ?_ ?_
          · rw [hcloselog, hlog', List.append_assoc]
            rfl
          · rw [fileClose_flash]
            exact hwhole hstreamed
        · rw [if_pos (.inl hstreamed)]
          exact writeEnd_deleted (.inl rfl) (by rw [hcloselog, hlog'])
      · rw [if_pos (.inr (by rw [hclosed]; decide))]
        exact writeEnd_deleted (.inr rfl) (by rw [hcloselog, hlog'])

/-! ## Before the open -/

/-- What was done before the open: at most the old file is gone. -/
structure Cleared (path : List Byte) (st after : DownloadRun) (events : List DownloadEvent) :
    Prop where
  deletes : ∀ e ∈ events, e = .deleteFailed
  log : after.log = st.log ++ events
  file : after.flash.files path = st.flash.files path ∨ after.flash.files path = none

theorem Cleared.of_files {path : List Byte} {st after : DownloadRun} (hlog : after.log = st.log)
    (hfile : after.flash.files path = st.flash.files path) : Cleared path st after [] :=
  ⟨fun _ he => absurd he List.not_mem_nil, hlog.trans (List.append_nil _).symm, .inl hfile⟩

theorem Cleared.trans {path : List Byte} {st mid after : DownloadRun}
    {events events' : List DownloadEvent} (h : Cleared path st mid events)
    (h' : Cleared path mid after events') : Cleared path st after (events ++ events') where
  deletes e he := (List.mem_append.mp he).elim (h.deletes e) (h'.deletes e)
  log := by rw [h'.log, h.log, List.append_assoc]
  file := h'.file.elim (fun heq => heq ▸ h.file) .inr

theorem cleared_fileSystemDelete (path : List Byte) (st : DownloadRun) :
    ∃ events, Cleared path st (st.fileSystemDelete path).2 events := by
  rcases fileSystemDelete_cases path st with ⟨-, hlog, hnone⟩ | ⟨-, hlog, hfile⟩
  · refine ⟨[], fun _ he => absurd he List.not_mem_nil, ?_, .inr hnone⟩
    exact hlog.trans (List.append_nil _).symm
  · exact ⟨[.deleteFailed], fun _ he => List.mem_singleton.mp he, hlog, hfile⟩

/-- Looking for the old file. -/
theorem cleared_probe (path path' : List Byte) (st : DownloadRun) :
    Cleared path st { st with flash := (fileSystemReadFile st.flash path' 1).2 } [] :=
  .of_files rfl (congrFun (fileSystemReadFile_files st.flash path' 1) path)

theorem otaFlashHasSpaceForDownload_cleared (env : DownloadEnv) (fileSize : Nat)
    (path : List Byte) (st : DownloadRun) :
    ∃ events, Cleared path st (otaFlashHasSpaceForDownload env fileSize path st).2 events := by
  unfold otaFlashHasSpaceForDownload
  by_cases hsize : fileSize = 0
  · rw [if_pos hsize]
    exact ⟨[], .of_files rfl rfl⟩
  · rw [if_neg hsize]
    have hprobe := cleared_probe path path st
    have hcleared : ∃ events, Cleared path st
        (if path = [] then st
          else if (fileSystemReadFile st.flash path 1).1.isOk then
            ({ st with flash := (fileSystemReadFile st.flash path 1).2 }.fileSystemDelete path).2
          else { st with flash := (fileSystemReadFile st.flash path 1).2 }) events := by
      split
      · exact ⟨[], .of_files rfl rfl⟩
      · split
        · obtain ⟨events, hdeleted⟩ := cleared_fileSystemDelete path
            { st with flash := (fileSystemReadFile st.flash path 1).2 }
          exact ⟨_, hprobe.trans hdeleted⟩
        · exact ⟨[], hprobe⟩
    cases env.freeBytes with
    | none => exact hcleared
    | some free => exact hcleared

/-- How the part of a download between the session's start and its end goes. -/
inductive StageEnd (path bytes : List Byte) (st : DownloadRun) : Bool × DownloadRun → Prop
  | unopened (after : DownloadRun) (events : List DownloadEvent)
    (hcleared : Cleared path st after events) : StageEnd path bytes st (false, after)
  | opened (mid : DownloadRun) (events : List DownloadEvent) (r : Bool × DownloadRun)
    (hcleared : Cleared path st mid events) (hwrite : WriteEnd path bytes mid r) :
    StageEnd path bytes st r

theorem StageEnd.of_cleared {path bytes : List Byte} {st mid : DownloadRun}
    {events : List DownloadEvent} {r : Bool × DownloadRun} (h : Cleared path st mid events)
    (hstage : StageEnd path bytes mid r) : StageEnd path bytes st r := by
  cases hstage with
  | unopened after events' hcleared => exact .unopened after _ (h.trans hcleared)
  | opened mid' events' _ hcleared hwrite => exact .opened mid' _ r (h.trans hcleared) hwrite

theorem otaDownloadWriteFile_stage (env : DownloadEnv) (fileSize scratchSize : Nat)
    (path : List Byte) (st : DownloadRun) :
    StageEnd path (serverBytes env.server.content 0 fileSize) st
      (otaDownloadWriteFile env fileSize scratchSize path st) :=
  .opened st [] _ (.of_files rfl rfl) (otaDownloadWriteFile_end env fileSize scratchSize path st)

theorem otaDownloadWriteSimcom_stage (env : DownloadEnv) (fileSize scratchSize : Nat)
    (st : DownloadRun) :
    StageEnd otaDownloadTestFilePath (serverBytes env.server.content 0 fileSize) st
      (otaDownloadWriteSimcom env fileSize scratchSize st) := by
  obtain ⟨events, hcleared⟩ :=
    otaFlashHasSpaceForDownload_cleared env fileSize otaDownloadTestFilePath st
  unfold otaDownloadWriteSimcom
  dsimp only
  split
  · exact .unopened _ events hcleared
  · exact .of_cleared hcleared (otaDownloadWriteFile_stage _ _ _ _ _)

theorem otaDownloadWriteSt_stage (env : DownloadEnv) (fileSize scratchSize : Nat)
    (st : DownloadRun) :
    StageEnd stFirmwareFilePath (serverBytes env.server.content 0 fileSize) st
      (otaDownloadWriteSt env fileSize scratchSize st) := by
  have hprobe := cleared_probe stFirmwareFilePath stFirmwareFilePath st
  unfold otaDownloadWriteSt
  dsimp only
  split
  · obtain ⟨events, hdeleted⟩ := cleared_fileSystemDelete stFirmwareFilePath
      { st with flash := (fileSystemReadFile st.flash stFirmwareFilePath 1).2 }
    split
    · exact .unopened _ _ (hprobe.trans hdeleted)
    · exact .of_cleared (hprobe.trans hdeleted) (otaDownloadWriteFile_stage _ _ _ _ _)
  · exact .of_cleared hprobe (otaDownloadWriteFile_stage _ _ _ _ _)

/-! ## The law -/

/-- What a log says of a resource. -/
def touches (x : DownloadResource) (log : List DownloadEvent) : List DownloadEvent :=
  log.filter fun e => e = .opened x ∨ e = .released x

/-- What was opened was released, once and after it was opened, and nothing else was. -/
def ReleasedOnce (log : List DownloadEvent) : Prop :=
  ∀ x, touches x log = [] ∨ touches x log = [.opened x, .released x]

/-- Events that open and release nothing. -/
def Quiet (events : List DownloadEvent) : Prop :=
  ∀ e ∈ events, e = .closeFailed ∨ e = .deleteFailed

theorem touches_append (x : DownloadResource) (log log' : List DownloadEvent) :
    touches x (log ++ log') = touches x log ++ touches x log' := List.filter_append ..

theorem Quiet.touches {events : List DownloadEvent} (h : Quiet events) (x : DownloadResource) :
    touches x events = [] := by
  refine List.filter_eq_nil_iff.mpr fun e he => ?_
  rcases h e he with rfl | rfl <;> simp

/-- A session without an open file. -/
theorem releasedOnce_unopened {events : List DownloadEvent} (h : Quiet events) :
    ReleasedOnce
      ([.opened .msgq, .opened .https] ++ events ++ [.released .https, .released .msgq]) := by
  intro x
  rw [touches_append, touches_append, h.touches x]
  cases x with
  | msgq => exact .inr rfl
  | https => exact .inr rfl
  | file => exact .inl rfl

/-- A session that opens a file. -/
theorem releasedOnce_opened {before mid after last : List DownloadEvent} (hbefore : Quiet before)
    (hmid : Quiet mid) (hafter : Quiet after) (hlast : Quiet last) :
    ReleasedOnce ([.opened .msgq, .opened .https] ++ before ++ [.opened .file] ++ mid ++
      [.released .file] ++ after ++ [.released .https, .released .msgq] ++ last) := by
  intro x
  simp only [touches_append, hbefore.touches x, hmid.touches x, hafter.touches x, hlast.touches x]
  cases x <;> exact .inr rfl

/-- What a download may leave at its destination, and in its log. -/
structure Downloaded (path : List Byte) (before : Option (List Byte)) (bytes : List Byte)
    (ok : Bool) (after : DownloadRun) : Prop where
  released : ReleasedOnce after.log
  complete : ok = true → after.flash.files path = some bytes
  /-- Unless the file was never opened, or the driver fails to delete it. -/
  nothing : ok = false → after.flash.files path = none ∨
    (.opened .file ∉ after.log ∧ after.flash.files path = before) ∨ .deleteFailed ∈ after.log

variable {path bytes : List Byte} {before : Option (List Byte)}

/-- A download that ends before the destination is looked at. -/
theorem downloaded_untouched {after : DownloadRun} (hreleased : ReleasedOnce after.log)
    (hunopened : .opened .file ∉ after.log) (hfile : after.flash.files path = before) :
    Downloaded path before bytes false after :=
  ⟨hreleased, fun h => Bool.noConfusion h, fun _ => .inr (.inl ⟨hunopened, hfile⟩)⟩

/-- A download that ends before the destination is opened. -/
theorem Cleared.downloaded {st after : DownloadRun} {events : List DownloadEvent}
    (hst : st.log = [.opened .msgq, .opened .https]) (hbefore : st.flash.files path = before)
    (h : Cleared path st after events) :
    Downloaded path before bytes false (otaDownloadCleanupHttps after) := by
  have hlog : (otaDownloadCleanupHttps after).log =
      [.opened .msgq, .opened .https] ++ events ++ [.released .https, .released .msgq] := by
    rw [← hst, ← h.log]
    rfl
  refine ⟨?_, fun hok => Bool.noConfusion hok, fun _ => ?_⟩
  · rw [hlog]
    exact releasedOnce_unopened fun e he => .inr (h.deletes e he)
  · rcases h.file with hsame | hnone
    · refine .inr (.inl ⟨?_, hsame.trans hbefore⟩)
      rw [hlog]
      intro hmem
      rcases List.mem_append.mp hmem with hmem | hmem
      · rcases List.mem_append.mp hmem with hmem | hmem
        · exact absurd hmem (by decide)
        · exact DownloadEvent.noConfusion (h.deletes _ hmem)
      · exact absurd hmem (by decide)
    · exact .inl hnone

/-- A closing of the file is a release, after a failure or not. -/
theorem closing_eq {closing : List DownloadEvent}
    (h : closing = [.released .file] ∨ closing = [.closeFailed, .released .file]) :
    ∃ mid, Quiet mid ∧ closing = mid ++ [.released .file] := by
  rcases h with rfl | rfl
  · exact ⟨[], fun _ he => absurd he List.not_mem_nil, rfl⟩
  · exact ⟨[.closeFailed], fun _ he => .inl (List.mem_singleton.mp he), rfl⟩

/-- A download of the modem's firmware, from the session's start on. -/
theorem StageEnd.downloaded {st : DownloadRun} {r : Bool × DownloadRun}
    (hst : st.log = [.opened .msgq, .opened .https]) (hbefore : st.flash.files path = before)
    (h : StageEnd path bytes st r) :
    Downloaded path before bytes r.1 (otaDownloadCleanupHttps r.2) ∧
      (r.1 = true → .closeFailed ∉ (otaDownloadCleanupHttps r.2).log) := by
  cases h with
  | unopened after events hcleared =>
    exact ⟨hcleared.downloaded hst hbefore, fun hok => Bool.noConfusion hok⟩
  | opened mid events _ hcleared hwrite =>
    have hquiet : Quiet events := fun e he => .inr (hcleared.deletes e he)
    have hnil : Quiet [] := fun _ he => absurd he List.not_mem_nil
    cases hwrite with
    | unopened after hlog hfile =>
      have hafter : Cleared path st after (events ++ []) :=
        hcleared.trans (.of_files hlog hfile)
      exact ⟨hafter.downloaded hst hbefore, fun hok => Bool.noConfusion hok⟩
    | complete after hlog hfile =>
      have hall : (otaDownloadCleanupHttps after).log =
          [.opened .msgq, .opened .https] ++ events ++ [.opened .file, .released .file] ++
            [.released .https, .released .msgq] := by
        rw [← hst, ← hcleared.log, ← hlog]
        rfl
      refine ⟨⟨?_, fun _ => hfile, fun hok => Bool.noConfusion hok⟩, fun _ hmem => ?_⟩
      · have honce := releasedOnce_opened hquiet hnil hnil hnil
        rw [hall]
        simpa only [List.append_nil, List.append_assoc, List.cons_append, List.nil_append]
          using honce
      · rw [hall] at hmem
        simp only [List.mem_append, or_assoc] at hmem
        rcases hmem with hmem | hmem | hmem | hmem
        · exact absurd hmem (by decide)
        · exact DownloadEvent.noConfusion (hcleared.deletes _ hmem)
        · exact absurd hmem (by decide)
        · exact absurd hmem (by decide)
    | failed after closing deleting hclosing hdeleting hlog =>
      obtain ⟨failing, hfailing, rfl⟩ := closing_eq hclosing
      have hdeletes : Quiet deleting := by
        rcases hdeleting with ⟨rfl, -⟩ | rfl
        · exact hnil
        · exact fun _ he => .inr (List.mem_singleton.mp he)
      have hall : (otaDownloadCleanupHttps after).log =
          [.opened .msgq, .opened .https] ++ events ++ [.opened .file] ++
            (failing ++ [.released .file]) ++ deleting ++ [.released .https, .released .msgq] := by
        rw [← hst, ← hcleared.log, ← hlog]
        rfl
      refine ⟨⟨?_, fun hok => Bool.noConfusion hok, fun _ => ?_⟩, fun hok => Bool.noConfusion hok⟩
      · have honce := releasedOnce_opened hquiet hfailing hdeletes hnil
        rw [hall]
        simpa only [List.append_nil, List.append_assoc, List.cons_append, List.nil_append]
          using honce
      · rcases hdeleting with ⟨-, hnone⟩ | rfl
        · exact .inl hnone
        · refine .inr (.inr ?_)
          rw [hall]
          exact List.mem_append_left _ (List.mem_append_right _ List.mem_cons_self)

/-- The session is set up, or nothing of it is left. -/
theorem otaDownloadInitHttps_cases (env : DownloadEnv) (flash : Flash (List Byte)) :
    otaDownloadInitHttps env ⟨flash, 0, []⟩ = (true, ⟨flash, 0, [.opened .msgq, .opened .https]⟩) ∨
      ∃ events, otaDownloadInitHttps env ⟨flash, 0, []⟩ = (false, ⟨flash, 0, events⟩) ∧
        ReleasedOnce events ∧ .opened .file ∉ events := by
  unfold otaDownloadInitHttps
  split
  · exact .inr ⟨[], rfl, fun x => .inl rfl, by decide⟩
  · split
    · refine .inr ⟨[.opened .msgq, .released .msgq], rfl, fun x => ?_, by decide⟩
      cases x
      · exact .inr rfl
      · exact .inl rfl
      · exact .inl rfl
    · split
      · refine .inr ⟨[.opened .msgq, .opened .https, .released .https, .released .msgq], rfl,
          fun x => ?_, by decide⟩
        cases x
        · exact .inr rfl
        · exact .inr rfl
        · exact .inl rfl
      · exact .inl rfl

/-- Where the modem's images go. -/
def firmwarePath (upgradeType : Int) : List Byte :=
  if upgradeType = otaUpgradeSt then stFirmwareFilePath else otaDownloadTestFilePath

/-- The server's file. -/
def DownloadEnv.image (env : DownloadEnv) : List Byte :=
  serverBytes env.server.content 0 (env.fileSize.getD 0)

theorem otaDownloadAndWriteFirmware_downloaded (env : DownloadEnv) (flash : Flash (List Byte))
    (upgradeType : Int) (url : Option (List Byte)) (scratch : Option Nat) :
    Downloaded (firmwarePath upgradeType) (flash.files (firmwarePath upgradeType)) env.image
        (otaDownloadAndWriteFirmware env upgradeType url scratch ⟨flash, 0, []⟩).ok
        (otaDownloadAndWriteFirmware env upgradeType url scratch ⟨flash, 0, []⟩).run ∧
      ((otaDownloadAndWriteFirmware env upgradeType url scratch ⟨flash, 0, []⟩).ok = true →
        .closeFailed ∉
          (otaDownloadAndWriteFirmware env upgradeType url scratch ⟨flash, 0, []⟩).run.log) := by
  have hnever {P : Prop} : false = true → P := fun h => Bool.noConfusion h
  have hnothing : Downloaded (firmwarePath upgradeType) (flash.files (firmwarePath upgradeType))
      env.image false ⟨flash, 0, []⟩ :=
    downloaded_untouched (fun x => .inl rfl) List.not_mem_nil rfl
  have hidle : Downloaded (firmwarePath upgradeType) (flash.files (firmwarePath upgradeType))
      env.image false
      (otaDownloadCleanupHttps ⟨flash, 0, [.opened .msgq, .opened .https]⟩) :=
    Cleared.downloaded rfl rfl (.of_files rfl rfl)
  unfold otaDownloadAndWriteFirmware
  cases url with
  | none => exact ⟨hnothing, hnever⟩
  | some url =>
    cases scratch with
    | none => exact ⟨hnothing, hnever⟩
    | some scratchSize =>
      dsimp only
      split
      · exact ⟨hnothing, hnever⟩
      split
      · exact ⟨hnothing, hnever⟩
      split
      · exact ⟨hnothing, hnever⟩
      rcases otaDownloadInitHttps_cases env flash with hinit | ⟨events, hinit, honce, hfile⟩
      · rw [hinit, if_neg (not_not.mpr rfl)]
        split
        · exact ⟨hidle, hnever⟩
        split
        · exact ⟨hidle, hnever⟩
        · exact ⟨hidle, hnever⟩
        · rename_i n hsize
          have himage : env.image = serverBytes env.server.content 0 (n + 1) := by
            rw [DownloadEnv.image, hsize]
            rfl
          by_cases hst : upgradeType = otaUpgradeSt
          · have hpath : firmwarePath upgradeType = stFirmwareFilePath := if_pos hst
            obtain ⟨events, hcleared⟩ := otaFlashHasSpaceForDownload_cleared env (n + 1)
              stFirmwareFilePath ⟨flash, 0, [.opened .msgq, .opened .https]⟩
            rw [if_pos hst, hpath, himage]
            split
            · exact ⟨hcleared.downloaded rfl rfl, hnever⟩
            · exact (StageEnd.of_cleared hcleared
                (otaDownloadWriteSt_stage env (n + 1) scratchSize _)).downloaded rfl rfl
          · have hpath : firmwarePath upgradeType = otaDownloadTestFilePath := if_neg hst
            rw [if_neg hst, hpath, himage]
            exact (otaDownloadWriteSimcom_stage env (n + 1) scratchSize _).downloaded rfl rfl
      · rw [hinit, if_pos Bool.false_ne_true]
        exact ⟨downloaded_untouched honce hfile rfl, hnever⟩

/-- A peripheral's download from the open on. -/
theorem peripheralFile_downloaded {env : DownloadEnv} {n scratchSize : Nat} {st : DownloadRun}
    {flash : Flash (List Byte)} {events : List DownloadEvent}
    (hdeletes : ∀ e ∈ events, e = .deleteFailed)
    (hst : st.log = [.opened .msgq, .opened .https] ++ events)
    (hempty : flash.files path = some [])
    {streamed : Bool × DownloadRun}
    (hstream : streamed = otaDownloadStream env.server n scratchSize 0 ⟨path, .wb, 0⟩
      ({ st with flash := flash }.note [.opened .file])) :
    Downloaded path before (serverBytes env.server.content 0 n)
      (if ¬ streamed.1 then
        (false, ((otaDownloadCleanupHttps streamed.2.fileClose.2).fileSystemDelete path).2)
        else (true, otaDownloadCleanupHttps streamed.2.fileClose.2)).1
      (if ¬ streamed.1 then
        (false, ((otaDownloadCleanupHttps streamed.2.fileClose.2).fileSystemDelete path).2)
        else (true, otaDownloadCleanupHttps streamed.2.fileClose.2)).2 := by
  obtain ⟨hlog, hwhole⟩ := otaDownloadStream_spec env.server scratchSize
    ({ st with flash := flash }.note [.opened .file]) (Nat.zero_le n) hempty
  rw [← hstream] at hlog hwhole
  have hquiet : Quiet events := fun e he => .inr (hdeletes e he)
  have hnil : Quiet [] := fun _ he => absurd he List.not_mem_nil
  obtain ⟨failing, hfailing, hclosed⟩ : ∃ failing, Quiet failing ∧
      streamed.2.fileClose.2.log = [.opened .msgq, .opened .https] ++ events ++ [.opened .file] ++
        failing ++ [.released .file] := by
    have hopened : streamed.2.log =
        [.opened .msgq, .opened .https] ++ events ++ [.opened .file] := by
      rw [← hst]
      exact hlog
    rcases fileClose_log streamed.2 with ⟨-, hclose⟩ | ⟨-, hclose⟩
    · refine ⟨[], hnil, ?_⟩
      rw [hclose, hopened, List.append_nil]
    · refine ⟨[.closeFailed], fun _ he => .inl (List.mem_singleton.mp he), ?_⟩
      rw [hclose, hopened, List.append_assoc _ [DownloadEvent.closeFailed]]
      rfl
  have hcleaned : (otaDownloadCleanupHttps streamed.2.fileClose.2).log =
      [.opened .msgq, .opened .https] ++ events ++ [.opened .file] ++ failing ++
        [.released .file] ++ [] ++ [.released .https, .released .msgq] := by
    rw [List.append_nil, ← hclosed]
    rfl
  split
  · rcases fileSystemDelete_cases path (otaDownloadCleanupHttps streamed.2.fileClose.2) with
      ⟨-, hdeleted, hnone⟩ | ⟨-, hdeleted, -⟩
    · refine ⟨?_, fun hok => Bool.noConfusion hok, fun _ => .inl hnone⟩
      have honce := releasedOnce_opened hquiet hfailing hnil hnil
      rw [hdeleted, hcleaned]
      rwa [List.append_nil] at honce
    · refine ⟨?_, fun hok => Bool.noConfusion hok, fun _ => .inr (.inr ?_)⟩
      · rw [hdeleted, hcleaned]
        exact releasedOnce_opened hquiet hfailing hnil
          fun _ he => .inr (List.mem_singleton.mp he)
      · rw [hdeleted]
        exact List.mem_append_right _ List.mem_cons_self
  · rename_i hstreamed
    refine ⟨?_, fun _ => ?_, fun hok => Bool.noConfusion hok⟩
    · have honce := releasedOnce_opened hquiet hfailing hnil hnil
      rw [hcleaned]
      rwa [List.append_nil] at honce
    · exact (congrFun (fileClose_flash streamed.2) path).trans (hwhole (not_not.mp hstreamed))

theorem otaDownloadPeripheralFile_downloaded (env : DownloadEnv) (flash : Flash (List Byte))
    (url : Option (List Byte)) (destPath : List Byte) (scratch : Option Nat) :
    Downloaded destPath (flash.files destPath) env.image
      (otaDownloadPeripheralFile env url (some destPath) scratch ⟨flash, 0, []⟩).1
      (otaDownloadPeripheralFile env url (some destPath) scratch ⟨flash, 0, []⟩).2 := by
  have hnothing : Downloaded destPath (flash.files destPath) env.image false ⟨flash, 0, []⟩ :=
    downloaded_untouched (fun x => .inl rfl) List.not_mem_nil rfl
  have hidle : Downloaded destPath (flash.files destPath) env.image false
      (otaDownloadCleanupHttps ⟨flash, 0, [.opened .msgq, .opened .https]⟩) :=
    Cleared.downloaded rfl rfl (.of_files rfl rfl)
  unfold otaDownloadPeripheralFile
  cases url with
  | none => exact hnothing
  | some url =>
    cases scratch with
    | none => exact hnothing
    | some scratchSize =>
      dsimp only
      split
      · exact hnothing
      rcases otaDownloadInitHttps_cases env flash with hinit | ⟨events, hinit, honce, hfile⟩
      · rw [hinit, if_neg (not_not.mpr rfl)]
        split
        · exact hidle
        split
        · exact hidle
        · exact hidle
        · rename_i n hsize
          have himage : env.image = serverBytes env.server.content 0 (n + 1) := by
            rw [DownloadEnv.image, hsize]
            rfl
          obtain ⟨events, hcleared⟩ := otaFlashHasSpaceForDownload_cleared env (n + 1)
            destPath ⟨flash, 0, [.opened .msgq, .opened .https]⟩
          rw [himage]
          generalize otaFlashHasSpaceForDownload env (n + 1) destPath
            ⟨flash, 0, [.opened .msgq, .opened .https]⟩ = space at hcleared ⊢
          split
          · exact hcleared.downloaded rfl rfl
          · cases hopen : wmSdkFileOpen space.2.flash destPath .wb with
            | mk file flash' =>
              cases file with
              | none =>
                have hsame := congrFun (wmSdkFileOpen_none_files hopen) destPath
                have hafter : Cleared destPath _ { space.2 with flash := flash' } (events ++ []) :=
                  hcleared.trans (.of_files rfl hsame)
                exact hafter.downloaded rfl rfl
              | some file =>
                obtain rfl : file = ⟨destPath, .wb, 0⟩ :=
                  wmSdkFileOpen_handle (congrArg Prod.fst hopen)
                have hempty := wmSdkFileOpen_wb_files space.2.flash destPath
                rw [hopen] at hempty
                exact peripheralFile_downloaded hcleared.deletes hcleared.log (hempty _ rfl) rfl
      · rw [hinit, if_pos Bool.false_ne_true]
        exact downloaded_untouched honce hfile rfl

/-- The modem's images and the peripherals' alike, whatever the session, the server and the
flash do. A download of the modem's firmware succeeds only if its file was closed. -/
theorem ota_download_exact (env : DownloadEnv) (flash : Flash (List Byte))
    (url : Option (List Byte)) (scratch : Option Nat) :
    (∀ upgradeType : Int,
      Downloaded (firmwarePath upgradeType) (flash.files (firmwarePath upgradeType)) env.image
          (otaDownloadAndWriteFirmware env upgradeType url scratch ⟨flash, 0, []⟩).ok
          (otaDownloadAndWriteFirmware env upgradeType url scratch ⟨flash, 0, []⟩).run ∧
        ((otaDownloadAndWriteFirmware env upgradeType url scratch ⟨flash, 0, []⟩).ok = true →
          .closeFailed ∉
            (otaDownloadAndWriteFirmware env upgradeType url scratch ⟨flash, 0, []⟩).run.log)) ∧
    (∀ destPath : List Byte,
      Downloaded destPath (flash.files destPath) env.image
        (otaDownloadPeripheralFile env url (some destPath) scratch ⟨flash, 0, []⟩).1
        (otaDownloadPeripheralFile env url (some destPath) scratch ⟨flash, 0, []⟩).2) :=
  ⟨fun upgradeType => otaDownloadAndWriteFirmware_downloaded env flash upgradeType url scratch,
    fun destPath => otaDownloadPeripheralFile_downloaded env flash url destPath scratch⟩

/-! ## Two downloads -/

/-- A server of zero bytes that always sends what it is asked for. -/
def zeroServer : DownloadServer where
  content _ := 0
  readChunk _ offset size := if 0 < size then some (serverBytes (fun _ => 0) offset size) else none
  honest := by
    intro call offset size data h
    have hlength : (serverBytes (fun _ => 0) offset size).length = size := by
      rw [serverBytes, List.length_map, List.length_range']
    split at h
    · rename_i hpos
      cases h
      rw [hlength]
      exact ⟨hpos, le_rfl, rfl⟩
    · cases h

/-- A server with an image of a byte, and a flash with room. -/
def oneByteEnv (msgqCreated : Bool) : DownloadEnv :=
  ⟨zeroServer, msgqCreated, true, true, true, fun _ => true, some 1, some 1000000⟩

/-- A flash with one file. -/
def flashWith (path bytes : List Byte) (outcomes : List IoOutcome) : Flash (List Byte) :=
  ⟨fun other => if other = path then some bytes else none, outcomes⟩

/-- A probe, an open and a write that succeed, and a close that fails. -/
def closeFails : List IoOutcome := [.success, .success, .success, .fail 0]

/-- Without a message queue the old image stays at the destination of a download that fails,
and no delete failed. A peripheral's download succeeds although its file was not closed. -/
theorem ota_download_exact_leaves_old_file :
    ((otaDownloadAndWriteFirmware (oneByteEnv false) otaUpgradeSt (some [0x75]) (some 1024)
        ⟨flashWith stFirmwareFilePath [7] [], 0, []⟩).ok = false ∧
      (otaDownloadAndWriteFirmware (oneByteEnv false) otaUpgradeSt (some [0x75]) (some 1024)
        ⟨flashWith stFirmwareFilePath [7] [], 0, []⟩).run.flash.files stFirmwareFilePath =
          some [7] ∧
      (otaDownloadAndWriteFirmware (oneByteEnv false) otaUpgradeSt (some [0x75]) (some 1024)
        ⟨flashWith stFirmwareFilePath [7] [], 0, []⟩).run.log = []) ∧
    ((otaDownloadPeripheralFile (oneByteEnv true) (some [0x75]) (some [0x70]) (some 1024)
        ⟨flashWith stFirmwareFilePath [7] closeFails, 0, []⟩).1 = true ∧
      .closeFailed ∈
        (otaDownloadPeripheralFile (oneByteEnv true) (some [0x75]) (some [0x70]) (some 1024)
          ⟨flashWith stFirmwareFilePath [7] closeFails, 0, []⟩).2.log) := by
  decide +kernel

end WalnutGateway
