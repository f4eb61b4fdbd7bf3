import WalnutGateway.Config.File

/-!
# The file handles of a load

The file calls of `config_load_from_file`, whatever the driver answers. `read_config_header`
closes the file and opens it again when the header cannot be read; the caller keeps the handle it
had, and goes on with it.
-/

namespace WalnutGateway

/-! ## Calls and their trace -/

/-- What is read from the configuration file. -/
inductive FilePart
  | header
  | entry
  deriving DecidableEq, Repr

/-- A call of the file layer, with the handle that it takes or returns. -/
inductive FileCall
  | opened (mode : FileMode) (handle : Option Nat)
  | read (handle : Nat) (part : FilePart) (complete : Bool)
  | seek (handle : Nat)
  | write (handle : Nat)
  | sync (handle : Nat)
  | close (handle : Nat)
  | delete
  deriving DecidableEq, Repr

/-- The handle that a call takes. -/
def FileCall.handle? : FileCall → Option Nat
  | .read h _ _ => some h
  | .seek h => some h
  | .write h => some h
  | .sync h => some h
  | .close h => some h
  | _ => none

/-- How a driver answers the calls for one path; it may go by all that was called before. -/
structure FileDriver (σ : Type) where
  fileOpen : FileMode → σ → Bool × σ
  /-- Whether success is returned, and the bytes that were read. -/
  fileRead : Nat → Nat → σ → (Bool × List Byte) × σ
  /-- Whether success is returned, and how many bytes were written. -/
  fileWrite : Nat → List Byte → σ → (Bool × Nat) × σ
  fileSeek : Nat → Int → σ → σ
  fileSync : Nat → σ → σ
  fileClose : Nat → σ → σ
  fileDelete : σ → σ

/-- The driver, how many handles it has given out, and the calls so far. -/
structure FileRun (σ : Type) where
  driver : σ
  handles : Nat
  calls : List FileCall

namespace FileTrace

variable {σ : Type} (dr : FileDriver σ)

/-- `wm_sdk_file_open`; each time it succeeds the handle is a new one. -/
def sdkFileOpen (mode : FileMode) (r : FileRun σ) : Option Nat × FileRun σ :=
  match dr.fileOpen mode r.driver with
  | (false, s) => (none, ⟨s, r.handles, r.calls ++ [.opened mode none]⟩)
  | (true, s) =>
    (some r.handles, ⟨s, r.handles + 1, r.calls ++ [.opened mode (some r.handles)]⟩)

/-- `wm_sdk_file_read`: whether all that was asked for was read, and the bytes. -/
def sdkFileRead (fp : Nat) (part : FilePart) (size : Nat) (r : FileRun σ) :
    (Bool × List Byte) × FileRun σ :=
  let a := dr.fileRead fp size r.driver
  let complete := a.1.1 && a.1.2.length == size
  ((complete, a.1.2), ⟨a.2, r.handles, r.calls ++ [.read fp part complete]⟩)

/-- `wm_sdk_file_write`: whether all was written. -/
def sdkFileWrite (fp : Nat) (data : List Byte) (size : Nat) (r : FileRun σ) : Bool × FileRun σ :=
  let a := dr.fileWrite fp data r.driver
  (a.1.1 && a.1.2 == size, ⟨a.2, r.handles, r.calls ++ [.write fp]⟩)

/-- `wm_sdk_file_seek` from the current position. -/
def sdkFileSeek (fp : Nat) (offset : Int) (r : FileRun σ) : FileRun σ :=
  ⟨dr.fileSeek fp offset r.driver, r.handles, r.calls ++ [.seek fp]⟩

/-- `wm_sdk_file_sync`. -/
def sdkFileSync (fp : Nat) (r : FileRun σ) : FileRun σ :=
  ⟨dr.fileSync fp r.driver, r.handles, r.calls ++ [.sync fp]⟩

/-- `wm_sdk_file_close`. -/
def sdkFileClose (fp : Nat) (r : FileRun σ) : FileRun σ :=
  ⟨dr.fileClose fp r.driver, r.handles, r.calls ++ [.close fp]⟩

/-- `wm_sdk_file_delete`. -/
def sdkFileDelete (r : FileRun σ) : FileRun σ :=
  ⟨dr.fileDelete r.driver, r.handles, r.calls ++ [.delete]⟩

/-! ## Loading and saving -/

/-- `MAX_LOAD_RETRIES`. -/
def maxLoadRetries : Nat := 3

/-- The loop of `read_config_header`, with the attempts that are left. -/
def readHeaderLoop : Nat → Nat → FileRun σ → Option ConfigFileHeader × FileRun σ
  | 0, _, r => (none, r)
  | n + 1, fp, r =>
    let a := sdkFileRead dr fp .header configFileHeaderSize r
    if a.1.1 then (some (.ofBytes a.1.2), a.2)
    else if n = 0 then (none, a.2)
    else
      match sdkFileOpen dr .rb (sdkFileClose dr fp a.2) with
      | (none, r) => (none, r)
      | (some fp, r) => readHeaderLoop n fp r

/-- `read_config_header`; the handle is passed by value. -/
def readConfigHeader (fp : Nat) (r : FileRun σ) : Option ConfigFileHeader × FileRun σ :=
  readHeaderLoop dr maxLoadRetries fp r

/-- `read_config_entry`. -/
def readConfigEntry (fp : Nat) (r : FileRun σ) : Option (List Byte × Nat) × FileRun σ :=
  let n := sdkFileRead dr fp .entry moduleNameMaxSize r
  if ¬ n.1.1 then (none, n.2) else
  let s := sdkFileRead dr fp .entry 4 n.2
  if ¬ s.1.1 then (none, s.2) else
  (some (n.1.2, leNat s.1.2), s.2)

/-- The seek over the rest of an entry. -/
def skipRest (fp fileConfigSize loadSize : Nat) (r : FileRun σ) : FileRun σ :=
  if fileConfigSize > loadSize then
    sdkFileSeek dr fp (uint32ToInt32 (fileConfigSize - loadSize)) r
  else r

/-- `load_module_config`: the result, the block and the run. -/
def loadModuleConfig (fp : Nat) (m : ModuleConfig) (block : List Byte) (fileConfigSize : Nat)
    (r : FileRun σ) : Result × List Byte × FileRun σ :=
  if ¬ m.configPtr then (.invalidParam, block, r) else
  let loadSize := m.loadSize fileConfigSize
  let a := sdkFileRead dr fp .entry loadSize r
  let block := overlay (m.getDefaults block) a.1.2
  let r := skipRest dr fp fileConfigSize loadSize a.2
  if ¬ a.1.1 then (.error, block, r)
  else if m.validates block then (.success, block, r)
  else (.error, m.getDefaults block, r)

/-- What the loop of `config_load_from_file` leaves. -/
structure Loaded (σ : Type) where
  blocks : ConfigBlocks
  run : FileRun σ
  anyConfigUpdated : Bool
  fileCorrupted : Bool

/-- The loop of `config_load_from_file`, with the number of entries left. -/
def configLoadEntries (mods : List ModuleConfig) (fp : Nat) : Nat → Loaded σ → Loaded σ
  | 0, s => s
  | n + 1, s =>
    match readConfigEntry dr fp s.run with
    | (none, r) => { s with run := r, fileCorrupted := true }
    | (some (name, size), r) =>
      match (findModuleByName mods name).filter fun p => p.1.isStored with
      | none =>
        configLoadEntries mods fp n { s with run := sdkFileSeek dr fp (uint32ToInt32 size) r }
      | some (m, i) =>
        let l := loadModuleConfig dr fp m (s.blocks i) size r
        configLoadEntries mods fp n
          { blocks := Function.update s.blocks i l.2.1
            run := l.2.2
            anyConfigUpdated := s.anyConfigUpdated ||
              (decide (l.1 ≠ .success) && decide (size > m.configSize))
            fileCorrupted := s.fileCorrupted }

/-- `write_config_header`. -/
def writeConfigHeader (fp moduleCount : Nat) (r : FileRun σ) : Bool × FileRun σ :=
  sdkFileWrite dr fp
    (ConfigFileHeader.toBytes ⟨configFileMagic, configFileVersion, moduleCount⟩)
    configFileHeaderSize r

/-- `write_module_entry`. -/
def writeModuleEntry (fp : Nat) (m : ModuleConfig) (block : List Byte) (r : FileRun σ) :
    Bool × FileRun σ :=
  if ¬ m.configPtr then (false, r) else
  if m.configSize = 0 then (true, r) else
  let n := sdkFileWrite dr fp (utilsStrncpySafe moduleNameMaxSize m.name).toList
    moduleNameMaxSize r
  if ¬ n.1 then (false, n.2) else
  let s := sdkFileWrite dr fp (leBytes 4 m.configSize) 4 n.2
  if ¬ s.1 then (false, s.2) else
  sdkFileWrite dr fp (block.take m.configSize) m.configSize s.2

/-- The loop of `config_save_to_file` over the modules left. -/
def configSaveEntries (blocks : ConfigBlocks) (fp : Nat) :
    List (ModuleConfig × Nat) → FileRun σ → Bool × FileRun σ
  | [], r => (true, r)
  | p :: ps, r =>
    if ¬ isSavable blocks p then configSaveEntries blocks fp ps r else
    match writeModuleEntry dr fp p.1 (blocks p.2) r with
    | (true, r) => configSaveEntries blocks fp ps r
    | (false, r) => (false, r)

/-- `config_save_to_file`. -/
def configSaveToFile (mods : List ModuleConfig) (blocks : ConfigBlocks) (r : FileRun σ) :
    Result × FileRun σ :=
  let moduleCount := countSavableModules mods blocks
  if moduleCount = 0 then (.success, r) else
  match sdkFileOpen dr .wb r with
  | (none, r) => (.error, r)
  | (some fp, r) =>
    match writeConfigHeader dr fp moduleCount r with
    | (false, r) => (.error, sdkFileClose dr fp r)
    | (true, r) =>
      match configSaveEntries dr blocks fp mods.zipIdx r with
      | (false, r) => (.error, sdkFileClose dr fp r)
      | (true, r) => (.success, sdkFileClose dr fp (sdkFileSync dr fp r))

/-- What `config_load_from_file` goes by besides the file. -/
structure Globals where
  /-- `g_config_file_loaded`. -/
  fileLoaded : Bool
  /-- `defaults_initialized`. -/
  defaultsInitialized : Bool
  blocks : ConfigBlocks

/-- `config_load_from_file` once a header was read. -/
def loadWithHeader (mods : List ModuleConfig) (blocks : ConfigBlocks) (fp : Nat)
    (header : ConfigFileHeader) (r : FileRun σ) : ConfigBlocks × FileRun σ :=
  if header.magic ≠ configFileMagic then (blocks, sdkFileClose dr fp r)
  else if header.version ≠ configFileVersion then
    (blocks, (configSaveToFile dr mods blocks (sdkFileDelete dr (sdkFileClose dr fp r))).2)
  else
    let s := configLoadEntries dr mods fp header.entryCount ⟨blocks, r, false, false⟩
    let r := sdkFileClose dr fp s.run
    if s.anyConfigUpdated ∨ s.fileCorrupted then
      (s.blocks, (configSaveToFile dr mods s.blocks r).2)
    else (s.blocks, r)

/-- `config_load_from_file`: the blocks and the run; success is always returned. -/
def configLoadFromFile (mods : List ModuleConfig) (g : Globals) (r : FileRun σ) :
    ConfigBlocks × FileRun σ :=
  if g.fileLoaded then (g.blocks, r) else
  let blocks :=
    if g.defaultsInitialized then g.blocks else initializeModuleDefaults mods g.blocks
  match sdkFileOpen dr .rb r with
  | (none, r) => (blocks, (configSaveToFile dr mods blocks r).2)
  | (some fp, r) =>
    match readConfigHeader dr fp r with
    | (none, r) => (blocks, sdkFileClose dr fp r)
    | (some header, r) => loadWithHeader dr mods blocks fp header r

end FileTrace

/-! ## What is right about a trace -/

/-- The handles of a load are used right. -/
structure HandlesRight (calls : List FileCall) : Prop where
  /-- No call takes a handle that was closed before. -/
  not_closed : calls.Pairwise fun a b => ∀ h, b.handle? = some h → a ≠ .close h
  /-- Each handle that was given out is closed once. -/
  closed_once : ∀ mode h, .opened mode (some h) ∈ calls → calls.count (.close h) = 1
  /-- Entries are read from the handle that the header was read from. -/
  same_handle : ∀ before h complete after,
    calls = before ++ .read h .entry complete :: after → .read h .header true ∈ before

/-- Calls that take a handle and leave it open. -/
def Keeps (h : Nat) (calls : List FileCall) : Prop :=
  ∀ c ∈ calls, c.handle? = some h ∧ c ≠ .close h

theorem Keeps.ne_close {h : Nat} {calls : List FileCall} (hkeeps : Keeps h calls) {c : FileCall}
    (hc : c ∈ calls) (k : Nat) : c ≠ .close k := by
  rintro rfl
  obtain ⟨hhandle, hopen⟩ := hkeeps _ hc
  cases hhandle
  exact hopen rfl

/-- Handles from `n` on, each opened, used and closed before the next. -/
inductive Sessions : Nat → List FileCall → Prop
  | nil {n : Nat} : Sessions n []
  | failed {n : Nat} {mode : FileMode} {rest : List FileCall} (h : Sessions n rest) :
      Sessions n (.opened mode none :: rest)
  | deleted {n : Nat} {rest : List FileCall} (h : Sessions n rest) : Sessions n (.delete :: rest)
  | session {n : Nat} {mode : FileMode} {us rest : List FileCall} (hus : Keeps n us)
      (h : Sessions (n + 1) rest) :
      Sessions n (.opened mode (some n) :: (us ++ .close n :: rest))

namespace Sessions

variable {n : Nat} {calls : List FileCall}

theorem handle_ge (h : Sessions n calls) {c : FileCall} (hc : c ∈ calls) {k : Nat}
    (hk : c.handle? = some k ∨ ∃ mode, c = .opened mode (some k)) : n ≤ k := by
  induction h with
  | nil => cases hc
  | failed _ ih | deleted _ ih =>
    cases hc with
    | head => obtain hk | ⟨mode, hk⟩ := hk <;> cases hk
    | tail _ hc => exact ih hc
  | @session n mode us rest hus _ ih =>
    cases hc with
    | head =>
      obtain hk | ⟨mode, hk⟩ := hk
      · cases hk
      · cases hk
        exact le_rfl
    | tail _ hc =>
      obtain hc | hc := List.mem_append.mp hc
      · obtain hk | ⟨mode, rfl⟩ := hk
        · rw [(hus c hc).1] at hk
          exact (Option.some.inj hk).le
        · cases (hus _ hc).1
      · cases hc with
        | head =>
          obtain hk | ⟨mode, hk⟩ := hk
          · exact (Option.some.inj hk).le
          · cases hk
        | tail _ hc => exact (Nat.le_succ n).trans (ih hc)

theorem not_closed (h : Sessions n calls) :
    calls.Pairwise fun a b => ∀ h, b.handle? = some h → a ≠ .close h := by
  induction h with
  | nil => exact .nil
  | failed _ ih | deleted _ ih => exact .cons (fun b _ k _ => by rintro ⟨⟩) ih
  | @session n mode us rest hus h ih =>
    refine .cons (fun b _ k _ => by rintro ⟨⟩) (List.pairwise_append.mpr ⟨?_, ?_, ?_⟩)
    · exact List.pairwise_of_forall_mem_list fun a ha _ _ k _ => hus.ne_close ha k
    · refine .cons (fun b hb k hk hclose => ?_) ih
      cases hclose
      exact absurd (h.handle_ge hb (Or.inl hk)) (Nat.not_succ_le_self n)
    · exact fun a ha _ _ k _ => hus.ne_close ha k

theorem count_zero (h : Sessions n calls) {k : Nat} (hk : k < n) :
    calls.count (.close k) = 0 :=
  List.count_eq_zero.mpr fun hmem => absurd (h.handle_ge hmem (Or.inl rfl)) (not_le.mpr hk)

theorem closed_once (h : Sessions n calls) {mode : FileMode} {k : Nat}
    (hk : .opened mode (some k) ∈ calls) : calls.count (.close k) = 1 := by
  induction h with
  | nil => cases hk
  | failed _ ih | deleted _ ih =>
    cases hk with
    | tail _ hk => rw [List.count_cons_of_ne (by rintro ⟨⟩), ih hk]
  | @session n mode us rest hus h ih =>
    have hnone (j : Nat) : us.count (.close j) = 0 :=
      List.count_eq_zero.mpr fun hmem => hus.ne_close hmem j rfl
    rw [List.count_cons_of_ne (by rintro ⟨⟩), List.count_append, hnone, Nat.zero_add]
    by_cases hkn : k = n
    · rw [hkn, List.count_cons_self, h.count_zero (Nat.lt_succ_self n)]
    · have hne : FileCall.close n ≠ .close k := fun hclose => hkn (FileCall.close.inj hclose).symm
      rw [List.count_cons_of_ne hne]
      refine ih ?_
      cases hk with
      | head => exact absurd rfl hkn
      | tail _ hk =>
        obtain hk | hk := List.mem_append.mp hk
        · cases (hus _ hk).1
        · cases hk with
          | tail _ hk => exact hk

end Sessions

/-! ## What the functions add to the trace -/

/-- Between two runs only calls of some kind were made. -/
def Adds {σ : Type} (P : FileCall → Prop) (r r' : FileRun σ) : Prop :=
  r'.handles = r.handles ∧ ∃ calls, r'.calls = r.calls ++ calls ∧ ∀ c ∈ calls, P c

section Adds

variable {σ : Type} {P Q : FileCall → Prop} {r r' r'' : FileRun σ}

theorem Adds.refl (r : FileRun σ) : Adds P r r := ⟨rfl, [], (List.append_nil _).symm, nofun⟩

theorem Adds.trans (h : Adds P r r') (h' : Adds P r' r'') : Adds P r r'' := by
  obtain ⟨hhandles, calls, hcalls, hP⟩ := h
  obtain ⟨hhandles', calls', hcalls', hP'⟩ := h'
  refine ⟨hhandles'.trans hhandles, calls ++ calls', ?_, ?_⟩
  · rw [hcalls', hcalls, List.append_assoc]
  · intro c hc
    exact (List.mem_append.mp hc).elim (hP c) (hP' c)

theorem Adds.one {s : σ} {c : FileCall} (hc : P c) : Adds P r ⟨s, r.handles, r.calls ++ [c]⟩ :=
  ⟨rfl, [c], rfl, fun _ hmem => List.mem_singleton.mp hmem ▸ hc⟩

end Adds

namespace FileTrace

/-- A call that reads an entry, or skips one. -/
def OnEntry (fp : Nat) (c : FileCall) : Prop :=
  c = .seek fp ∨ ∃ complete, c = .read fp .entry complete

/-- A call that writes. -/
def OnWrite (fp : Nat) (c : FileCall) : Prop := c = .write fp ∨ c = .sync fp

variable {σ : Type} (dr : FileDriver σ)

theorem sdkFileRead_adds (fp size : Nat) (r : FileRun σ) :
    Adds (OnEntry fp) r (sdkFileRead dr fp .entry size r).2 := Adds.one (Or.inr ⟨_, rfl⟩)

theorem sdkFileSeek_adds (fp : Nat) (offset : Int) (r : FileRun σ) :
    Adds (OnEntry fp) r (sdkFileSeek dr fp offset r) := Adds.one (Or.inl rfl)

theorem sdkFileWrite_adds (fp : Nat) (data : List Byte) (size : Nat) (r : FileRun σ) :
    Adds (OnWrite fp) r (sdkFileWrite dr fp data size r).2 := Adds.one (Or.inl rfl)

theorem readConfigEntry_adds (fp : Nat) (r : FileRun σ) :
    Adds (OnEntry fp) r (readConfigEntry dr fp r).2 := by
  have hname := sdkFileRead_adds dr fp moduleNameMaxSize r
  have hsize := hname.trans (sdkFileRead_adds dr fp 4 _)
  unfold readConfigEntry
  dsimp only
  split
  · exact hname
  · split
    · exact hsize
    · exact hsize

theorem skipRest_adds (fp fileConfigSize loadSize : Nat) (r : FileRun σ) :
    Adds (OnEntry fp) r (skipRest dr fp fileConfigSize loadSize r) := by
  unfold skipRest
  split
  · exact sdkFileSeek_adds ..
  · exact Adds.refl r

theorem loadModuleConfig_adds (fp : Nat) (m : ModuleConfig) (block : List Byte)
    (fileConfigSize : Nat) (r : FileRun σ) :
    Adds (OnEntry fp) r (loadModuleConfig dr fp m block fileConfigSize r).2.2 := by
  have hread := (sdkFileRead_adds dr fp (m.loadSize fileConfigSize) r).trans
    (skipRest_adds dr fp fileConfigSize (m.loadSize fileConfigSize) _)
  unfold loadModuleConfig
  dsimp only
  split
  · exact Adds.refl r
  · split
    · exact hread
    · split
      · exact hread
      · exact hread

theorem configLoadEntries_adds (mods : List ModuleConfig) (fp n : Nat) (s : Loaded σ) :
    Adds (OnEntry fp) s.run (configLoadEntries dr mods fp n s).run := by
  induction n generalizing s with
  | zero => exact Adds.refl s.run
  | succ n ih =>
    have hentry := readConfigEntry_adds dr fp s.run
    rw [configLoadEntries]
    revert hentry
    cases readConfigEntry dr fp s.run with
    | mk entry r =>
      intro hentry
      cases entry with
      | none => exact hentry
      | some entry =>
        obtain ⟨name, size⟩ := entry
        dsimp only
        split
        · exact hentry.trans ((sdkFileSeek_adds ..).trans (ih _))
        · exact hentry.trans ((loadModuleConfig_adds ..).trans (ih _))

theorem writeModuleEntry_adds (fp : Nat) (m : ModuleConfig) (block : List Byte) (r : FileRun σ) :
    Adds (OnWrite fp) r (writeModuleEntry dr fp m block r).2 := by
  have hname := sdkFileWrite_adds dr fp (utilsStrncpySafe moduleNameMaxSize m.name).toList
    moduleNameMaxSize r
  have hsize := hname.trans (sdkFileWrite_adds dr fp (leBytes 4 m.configSize) 4 _)
  unfold writeModuleEntry
  dsimp only
  split
  · exact Adds.refl r
  · split
    · exact Adds.refl r
    · split
      · exact hname
      · split
        · exact hsize
        · exact hsize.trans (sdkFileWrite_adds ..)

theorem configSaveEntries_adds (blocks : ConfigBlocks) (fp : Nat) (ps : List (ModuleConfig × Nat))
    (r : FileRun σ) : Adds (OnWrite fp) r (configSaveEntries dr blocks fp ps r).2 := by
  induction ps generalizing r with
  | nil => exact Adds.refl r
  | cons p ps ih =>
    have hentry := writeModuleEntry_adds dr fp p.1 (blocks p.2) r
    rw [configSaveEntries]
    split
    · exact ih r
    · revert hentry
      cases writeModuleEntry dr fp p.1 (blocks p.2) r with
      | mk ok r' =>
        intro hentry
        cases ok with
        | false => exact hentry
        | true => exact hentry.trans (ih r')

variable {dr}

/-- A file that was opened, written and closed. -/
theorem session_of_writes {mode : FileMode} {fp k : Nat} {s : σ} {before : List FileCall}
    {r : FileRun σ} (h : Adds (OnWrite fp) ⟨s, k, before ++ [.opened mode (some fp)]⟩ r) :
    ∃ calls, (sdkFileClose dr fp r).calls = before ++ calls ∧ Sessions fp calls ∧
      ∀ h complete, .read h .entry complete ∉ calls := by
  obtain ⟨-, us, hcalls, hus⟩ := h
  have hkeeps : Keeps fp us := by
    intro c hc
    obtain rfl | rfl := hus c hc <;> exact ⟨rfl, nofun⟩
  refine ⟨.opened mode (some fp) :: (us ++ [.close fp]), ?_, .session hkeeps .nil, ?_⟩
  · rw [sdkFileClose, hcalls, List.append_assoc, List.append_assoc]
    rfl
  · intro h complete hmem
    cases hmem with
    | tail _ hmem =>
      obtain hmem | hmem := List.mem_append.mp hmem
      · obtain hwrite | hwrite := hus _ hmem <;> cases hwrite
      · cases List.mem_singleton.mp hmem

/-- Saving opens the file at most once, and closes it. -/
theorem configSaveToFile_calls (dr : FileDriver σ) (mods : List ModuleConfig)
    (blocks : ConfigBlocks) (r : FileRun σ) : ∃ calls,
      (configSaveToFile dr mods blocks r).2.calls = r.calls ++ calls ∧ Sessions r.handles calls ∧
      ∀ h complete, .read h .entry complete ∉ calls := by
  unfold configSaveToFile
  dsimp only
  split
  · exact ⟨[], (List.append_nil _).symm, .nil, nofun⟩
  · unfold sdkFileOpen
    cases dr.fileOpen .wb r.driver with
    | mk ok s =>
      cases ok with
      | false => exact ⟨[.opened .wb none], rfl, .failed .nil, nofun⟩
      | true =>
        have hheader := sdkFileWrite_adds dr r.handles
          (ConfigFileHeader.toBytes ⟨configFileMagic, configFileVersion,
            countSavableModules mods blocks⟩) configFileHeaderSize
          ⟨s, r.handles + 1, r.calls ++ [.opened .wb (some r.handles)]⟩
        dsimp only
        unfold writeConfigHeader
        revert hheader
        generalize sdkFileWrite dr r.handles _ configFileHeaderSize _ = w
        obtain ⟨written, r₁⟩ := w
        intro hheader
        cases written with
        | false => exact session_of_writes hheader
        | true =>
          have hentries := configSaveEntries_adds dr blocks r.handles mods.zipIdx r₁
          dsimp only
          cases hsave : configSaveEntries dr blocks r.handles mods.zipIdx r₁ with
          | mk saved r₂ =>
            rw [hsave] at hentries
            cases saved with
            | false => exact session_of_writes (hheader.trans hentries)
            | true =>
              exact session_of_writes (hheader.trans (hentries.trans (Adds.one (Or.inr rfl))))

/-! ## A header that is read at once -/

/-- The file cannot be opened, or its header is read on the first attempt. -/
def HeaderAtOnce (dr : FileDriver σ) (r : FileRun σ) : Prop :=
  match sdkFileOpen dr .rb r with
  | (none, _) => True
  | (some fp, r) => (sdkFileRead dr fp .header configFileHeaderSize r).1.1 = true

/-- Behind the header on the first handle, entries and nothing else are read from it, and the
file is closed; what follows reads no entries. -/
theorem handlesRight_of_session {n : Nat} {mode : FileMode} {us rest : List FileCall}
    (hus : ∀ c ∈ us, OnEntry n c) (hrest : Sessions (n + 1) rest)
    (hentries : ∀ h complete, .read h .entry complete ∉ rest) :
    HandlesRight (.opened mode (some n) :: .read n .header true :: (us ++ .close n :: rest)) := by
  have hkeeps : Keeps n (.read n .header true :: us) := by
    intro c hc
    cases hc with
    | head => exact ⟨rfl, nofun⟩
    | tail _ hc =>
      obtain rfl | ⟨complete, rfl⟩ := hus c hc
      · exact ⟨rfl, nofun⟩
      · exact ⟨rfl, nofun⟩
  have hsessions : Sessions n
      (.opened mode (some n) :: .read n .header true :: (us ++ .close n :: rest)) :=
    .session hkeeps hrest
  refine ⟨hsessions.not_closed, fun mode h hmem => hsessions.closed_once hmem, ?_⟩
  intro before h complete after hsplit
  have hmem : FileCall.read h .entry complete ∈
      .opened mode (some n) :: .read n .header true :: (us ++ .close n :: rest) := by
    rw [hsplit]
    exact List.mem_append_right _ (List.mem_cons_self ..)
  have hn : h = n := by
    cases hmem with
    | tail _ hmem =>
      cases hmem with
      | tail _ hmem =>
        obtain hmem | hmem := List.mem_append.mp hmem
        · obtain hentry | ⟨_, hentry⟩ := hus _ hmem
          · cases hentry
          · exact (FileCall.read.inj hentry).1
        · cases hmem with
          | tail _ hmem => exact absurd hmem (hentries h complete)
  rw [hn]
  cases before with
  | nil => cases hsplit
  | cons c before =>
    cases before with
    | nil => cases hsplit
    | cons c' before =>
      obtain ⟨-, htail⟩ := List.cons.inj hsplit
      obtain ⟨hheader, -⟩ := List.cons.inj htail
      rw [← hheader]
      exact List.mem_cons_of_mem _ (List.mem_cons_self ..)

theorem readHeaderLoop_appends (k fp : Nat) (r : FileRun σ) :
    r.calls <+: (readHeaderLoop dr k fp r).2.calls := by
  induction k generalizing fp r with
  | zero => exact List.prefix_rfl
  | succ k ih =>
    rw [readHeaderLoop]
    split
    · exact List.prefix_append _ _
    · split
      · exact List.prefix_append _ _
      · unfold sdkFileOpen
        cases dr.fileOpen .rb _ with
        | mk ok s =>
          cases ok with
          | false =>
            change r.calls <+: r.calls ++ _ ++ _ ++ _
            rw [List.append_assoc, List.append_assoc]
            exact List.prefix_append _ _
          | true =>
            refine List.IsPrefix.trans ?_ (ih _ _)
            change r.calls <+: r.calls ++ _ ++ _ ++ _
            rw [List.append_assoc, List.append_assoc]
            exact List.prefix_append _ _

/-- A header that is not read on the first attempt closes the file. -/
theorem readConfigHeader_retries {fp : Nat} {r : FileRun σ}
    (h : (sdkFileRead dr fp .header configFileHeaderSize r).1.1 = false) :
    r.calls ++ [.read fp .header false, .close fp] <+: (readConfigHeader dr fp r).2.calls := by
  have hclosed : r.calls ++ [.read fp .header false, .close fp] =
      (sdkFileClose dr fp (sdkFileRead dr fp .header configFileHeaderSize r).2).calls := by
    rw [← h, sdkFileClose, sdkFileRead, List.append_assoc]
    rfl
  rw [readConfigHeader, maxLoadRetries, readHeaderLoop, hclosed]
  simp only [h, Bool.false_eq_true, if_false, OfNat.ofNat_ne_zero]
  unfold sdkFileOpen
  cases dr.fileOpen .rb _ with
  | mk ok s =>
    cases ok with
    | false => exact List.prefix_append _ _
    | true =>
      refine List.IsPrefix.trans ?_ (readHeaderLoop_appends ..)
      exact List.prefix_append _ _

/-- With a header, entries are read from the handle, it is closed, and the file may be saved. -/
theorem loadWithHeader_calls (dr : FileDriver σ) (mods : List ModuleConfig) (blocks : ConfigBlocks)
    (fp : Nat) (header : ConfigFileHeader) (r : FileRun σ) : ∃ us rest,
      (loadWithHeader dr mods blocks fp header r).2.calls = r.calls ++ (us ++ .close fp :: rest) ∧
      (∀ c ∈ us, OnEntry fp c) ∧ Sessions r.handles rest ∧
      ∀ h complete, .read h .entry complete ∉ rest := by
  unfold loadWithHeader
  split
  · exact ⟨[], [], rfl, nofun, .nil, nofun⟩
  · split
    · obtain ⟨calls, hcalls, hsessions, hentries⟩ := configSaveToFile_calls dr mods blocks
        (sdkFileDelete dr (sdkFileClose dr fp r))
      refine ⟨[], .delete :: calls, ?_, nofun, .deleted hsessions, fun h complete hmem => ?_⟩
      · rw [hcalls, sdkFileDelete, sdkFileClose, List.append_assoc, List.append_assoc]
        rfl
      · cases hmem with
        | tail _ hmem => exact hentries h complete hmem
    · obtain ⟨hhandles, us, hus, hon⟩ := configLoadEntries_adds dr mods fp
        header.entryCount ⟨blocks, r, false, false⟩
      dsimp only
      split
      · obtain ⟨calls, hcalls, hsessions, hentries⟩ := configSaveToFile_calls dr mods
          (configLoadEntries dr mods fp header.entryCount ⟨blocks, r, false, false⟩).blocks
          (sdkFileClose dr fp
            (configLoadEntries dr mods fp header.entryCount ⟨blocks, r, false, false⟩).run)
        refine ⟨us, calls, ?_, hon, hhandles ▸ hsessions, hentries⟩
        rw [hcalls, sdkFileClose, hus, List.append_assoc, List.append_assoc]
        rfl
      · refine ⟨us, [], ?_, hon, .nil, nofun⟩
        rw [sdkFileClose, hus, List.append_assoc]

/-- Once the file was opened, its first handle is closed after the header was read or not. -/
theorem configLoadFromFile_closes (mods : List ModuleConfig) {g : Globals} {r r₁ : FileRun σ}
    {fp : Nat} (hloaded : g.fileLoaded = false) (hopen : sdkFileOpen dr .rb r = (some fp, r₁)) :
    ∃ us rest, (configLoadFromFile dr mods g r).2.calls =
      (readConfigHeader dr fp r₁).2.calls ++ (us ++ .close fp :: rest) := by
  unfold configLoadFromFile
  rw [hloaded, hopen, if_neg Bool.false_ne_true]
  dsimp only
  cases readConfigHeader dr fp r₁ with
  | mk header r₂ =>
    cases header with
    | none => exact ⟨[], [], rfl⟩
    | some header =>
      obtain ⟨us, rest, hcalls, -⟩ := loadWithHeader_calls dr mods
        (if g.defaultsInitialized then g.blocks else initializeModuleDefaults mods g.blocks) fp
        header r₂
      exact ⟨us, rest, hcalls⟩

/-- The calls of a load that finds the header at once are right. -/
theorem handlesRight_of_headerAtOnce (mods : List ModuleConfig) (g : Globals) {s : σ} {n : Nat}
    (h : HeaderAtOnce dr ⟨s, n, []⟩) :
    HandlesRight (configLoadFromFile dr mods g ⟨s, n, []⟩).2.calls := by
  unfold configLoadFromFile
  split
  · exact ⟨.nil, nofun, fun before _ _ _ hsplit => by simp at hsplit⟩
  dsimp only
  unfold HeaderAtOnce at h
  unfold sdkFileOpen at h ⊢
  revert h
  cases dr.fileOpen .rb s with
  | mk ok s =>
    cases ok with
    | false =>
      intro _
      obtain ⟨calls, hcalls, hsessions, hentries⟩ := configSaveToFile_calls dr mods
        (if g.defaultsInitialized then g.blocks else initializeModuleDefaults mods g.blocks)
        ⟨s, n, [.opened .rb none]⟩
      have hall : Sessions n (.opened .rb none :: calls) := .failed hsessions
      dsimp only
      rw [List.nil_append, hcalls]
      refine ⟨hall.not_closed, fun mode k hk => hall.closed_once hk, ?_⟩
      intro before k complete after hsplit
      have hmem : FileCall.read k .entry complete ∈ .opened .rb none :: calls := by
        rw [← List.singleton_append, hsplit]
        exact List.mem_append_right _ (List.mem_cons_self ..)
      cases hmem with
      | tail _ hmem => exact absurd hmem (hentries k complete)
    | true =>
      intro hcomplete
      dsimp only at hcomplete ⊢
      rw [readConfigHeader, maxLoadRetries, readHeaderLoop]
      simp only [hcomplete, if_true]
      obtain ⟨us, rest, hcalls, hon, hsessions, hentries⟩ := loadWithHeader_calls dr mods
        (if g.defaultsInitialized then g.blocks else initializeModuleDefaults mods g.blocks) n
        (.ofBytes (sdkFileRead dr n .header configFileHeaderSize
          ⟨s, n + 1, [] ++ [.opened .rb (some n)]⟩).1.2)
        (sdkFileRead dr n .header configFileHeaderSize ⟨s, n + 1, [] ++ [.opened .rb (some n)]⟩).2
      rw [hcalls]
      have hread : (sdkFileRead dr n .header configFileHeaderSize
          ⟨s, n + 1, [] ++ [.opened .rb (some n)]⟩).2.calls =
          [.opened .rb (some n), .read n .header true] := by
        rw [← hcomplete]
        rfl
      rw [hread]
      exact handlesRight_of_session hon hsessions hentries

/-- A load from the boot uses its handles right exactly if the file cannot be opened or its header
is read on the first attempt: after a retry the handle that was closed is closed again. -/
theorem config_handles_right_iff (dr : FileDriver σ) (mods : List ModuleConfig) (g : Globals)
    (s : σ) (n : Nat) :
    HandlesRight (configLoadFromFile dr mods g ⟨s, n, []⟩).2.calls ↔
      g.fileLoaded = true ∨ HeaderAtOnce dr ⟨s, n, []⟩ := by
  constructor
  · intro hright
    by_contra hnot
    obtain ⟨hloaded, hretry⟩ := not_or.mp hnot
    unfold HeaderAtOnce at hretry
    cases hopen : sdkFileOpen dr .rb ⟨s, n, []⟩ with
    | mk handle r₁ =>
      rw [hopen] at hretry
      cases handle with
      | none => exact hretry trivial
      | some fp =>
        obtain ⟨us, rest, hcalls⟩ := configLoadFromFile_closes mods
          (Bool.eq_false_of_not_eq_true hloaded) hopen
        obtain ⟨after, hheader⟩ := readConfigHeader_retries (Bool.eq_false_of_not_eq_true hretry)
        have hopened : r₁.calls = [.opened .rb (some fp)] := by
          unfold sdkFileOpen at hopen
          revert hopen
          cases dr.fileOpen .rb s with
          | mk ok s =>
            cases ok with
            | false => rintro ⟨⟩
            | true =>
              rintro ⟨⟩
              rfl
        have honce := hright.closed_once .rb fp (by
          rw [hcalls, ← hheader, hopened]
          exact List.mem_cons_self ..)
        have htwice : [FileCall.read fp .header false, .close fp].count (.close fp) = 1 := by
          simp
        rw [hcalls, ← hheader, hopened] at honce
        simp only [List.count_append, List.count_cons_self, htwice] at honce
        omega
  · rintro (hloaded | honce)
    · unfold configLoadFromFile
      rw [if_pos hloaded]
      exact ⟨.nil, nofun, fun before _ _ _ hsplit => by simp at hsplit⟩
    · exact handlesRight_of_headerAtOnce mods g honce

/-! ## A header that is read on the second attempt -/

/-- A driver that brings the bytes of a file, but none at the first read. -/
def lateDriver : FileDriver (Nat × List Byte) where
  fileOpen _ s := (true, s)
  fileRead _ size s :=
    if s.1 = 0 then ((true, []), (1, s.2)) else ((true, s.2.take size), (s.1 + 1, s.2.drop size))
  fileWrite _ data s := ((true, data.length), s)
  fileSeek _ _ s := s
  fileSync _ s := s
  fileClose _ s := s
  fileDelete s := s

/-- The header comes from the second handle; the entry is looked for on the first, which is closed
and is closed again, and the second stays open. -/
theorem late_header_mixes_handles :
    (¬ ∀ (dr : FileDriver (Nat × List Byte)) (mods : List ModuleConfig) (g : Globals)
      (s : Nat × List Byte), HandlesRight (configLoadFromFile dr mods g ⟨s, 0, []⟩).2.calls) ∧
    (configLoadFromFile lateDriver [] ⟨false, false, fun _ => []⟩
      ⟨(0, ConfigFileHeader.toBytes ⟨configFileMagic, configFileVersion, 1⟩), 0, []⟩).2.calls =
      [.opened .rb (some 0), .read 0 .header false, .close 0, .opened .rb (some 1),
        .read 1 .header true, .read 0 .entry false, .close 0] := by
  have htrace : (configLoadFromFile lateDriver [] ⟨false, false, fun _ => []⟩
      ⟨(0, ConfigFileHeader.toBytes ⟨configFileMagic, configFileVersion, 1⟩), 0, []⟩).2.calls =
      [.opened .rb (some 0), .read 0 .header false, .close 0, .opened .rb (some 1),
        .read 1 .header true, .read 0 .entry false, .close 0] := by decide +kernel
  refine ⟨fun hall => ?_, htrace⟩
  have hright := hall lateDriver [] ⟨false, false, fun _ => []⟩
    (0, ConfigFileHeader.toBytes ⟨configFileMagic, configFileVersion, 1⟩)
  rw [htrace] at hright
  exact absurd (hright.closed_once .rb 0 (List.mem_cons_self ..)) (by decide)

end FileTrace

end WalnutGateway
