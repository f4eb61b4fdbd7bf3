import WalnutGateway.Config.Save

/-!
# Loads and saves on a driver that does not fail

A load looks at one file only and leaves the flash as it is, or ends with a save. A
save of something writes the whole image. So what was saved is what a boot gives.
-/

namespace WalnutGateway

variable {π : Type}

/-! ## A load looks at one file -/

section Congruence

variable {fs fs' : Flash π} (fp : FileHandle π)

theorem wmSdkFileRead_congr (hfs : fs.Sound) (hfs' : fs'.Sound)
    (h : fs.contents fp.path = fs'.contents fp.path) (size : Nat) :
    ∃ data fp', fp'.path = fp.path ∧ wmSdkFileRead fs fp size = ⟨true, data, fp', fs⟩ ∧
      wmSdkFileRead fs' fp size = ⟨true, data, fp', fs'⟩ := by
  refine ⟨_, _, ?_, wmSdkFileRead_sound hfs fp size, ?_⟩
  · rfl
  · rw [wmSdkFileRead_sound hfs', h]

theorem wmSdkFileSeekCur_congr (hfs : fs.Sound) (hfs' : fs'.Sound) (offset : Int) :
    ∃ fp', fp'.path = fp.path ∧ wmSdkFileSeekCur fs fp offset = (fp', fs) ∧
      wmSdkFileSeekCur fs' fp offset = (fp', fs') := by
  have hseek {fs : Flash π} (hfs : fs.Sound) : wmSdkFileSeekCur fs fp offset =
      (if fp.pos + offset < 0 then fp else { fp with pos := (fp.pos + offset).toNat }, fs) := by
    simp only [wmSdkFileSeekCur, hfs.tick]
  refine ⟨_, ?_, hseek hfs, hseek hfs'⟩
  split <;> rfl

theorem readConfigEntry_congr (hfs : fs.Sound) (hfs' : fs'.Sound)
    (h : fs.contents fp.path = fs'.contents fp.path) :
    ∃ entry fp', fp'.path = fp.path ∧ readConfigEntry fs fp = (entry, fp', fs) ∧
      readConfigEntry fs' fp = (entry, fp', fs') := by
  obtain ⟨name, fp₁, hpath₁, hread, hread'⟩ := wmSdkFileRead_congr fp hfs hfs' h moduleNameMaxSize
  rw [← hpath₁] at h
  obtain ⟨word, fp₂, hpath₂, hsize, hsize'⟩ := wmSdkFileRead_congr fp₁ hfs hfs' h 4
  unfold readConfigEntry
  rw [hread, hread']
  dsimp only
  rw [hsize, hsize']
  have hcomplete (data : List Byte) (fp : FileHandle π) (n : Nat) :
      (⟨true, data, fp, fs⟩ : ReadReply π).complete n =
        (⟨true, data, fp, fs'⟩ : ReadReply π).complete n := rfl
  rw [← hcomplete, ← hcomplete]
  dsimp only
  split
  · exact ⟨none, fp₁, hpath₁, rfl, rfl⟩
  · split
    · exact ⟨none, fp₂, hpath₂.trans hpath₁, rfl, rfl⟩
    · exact ⟨_, fp₂, hpath₂.trans hpath₁, rfl, rfl⟩

theorem skipRest_congr (hfs : fs.Sound) (hfs' : fs'.Sound) (data : List Byte) (n k : Nat) :
    ∃ fp', fp'.path = fp.path ∧ skipRest ⟨true, data, fp, fs⟩ n k = (fp', fs) ∧
      skipRest ⟨true, data, fp, fs'⟩ n k = (fp', fs') := by
  unfold skipRest
  split
  · exact wmSdkFileSeekCur_congr fp hfs hfs' _
  · exact ⟨fp, rfl, rfl, rfl⟩

/-- The same entries are found in the same file. -/
theorem entryVisits_congr (mods : List ModuleConfig) (n : Nat) (hfs : fs.Sound) (hfs' : fs'.Sound)
    (h : fs.contents fp.path = fs'.contents fp.path) :
    entryVisits mods n fs fp = entryVisits mods n fs' fp := by
  induction n generalizing fp with
  | zero => rfl
  | succ n ih =>
    obtain ⟨entry, fp₁, hpath, hentry, hentry'⟩ := readConfigEntry_congr fp hfs hfs' h
    unfold entryVisits
    rw [hentry, hentry']
    cases entry with
    | none => rfl
    | some e =>
      obtain ⟨name, size⟩ := e
      dsimp only
      rw [← hpath] at h
      cases (findModuleByName mods name).filter fun p => p.1.isStored with
      | none =>
        obtain ⟨fp₂, hpath₂, hseek, hseek'⟩ :=
          wmSdkFileSeekCur_congr fp₁ hfs hfs' (uint32ToInt32 size)
        dsimp only
        rw [hseek, hseek', ih fp₂ (by rwa [hpath₂])]
      | some p =>
        obtain ⟨data, fp₂, hpath₂, hread, hread'⟩ :=
          wmSdkFileRead_congr fp₁ hfs hfs' h (p.1.loadSize size)
        obtain ⟨fp₃, hpath₃, hskip, hskip'⟩ :=
          skipRest_congr fp₂ hfs hfs' data size (p.1.loadSize size)
        dsimp only
        rw [hread, hread', hskip, hskip', ih fp₃ (by rwa [hpath₃, hpath₂])]

/-- A load leaves the flash alone up to its end. -/
theorem configLoadEntries_sound (mods : List ModuleConfig) (n : Nat) (s : LoadState π)
    (hfs : s.flash.Sound) : (configLoadEntries mods n s).flash = s.flash := by
  induction n generalizing s with
  | zero => rfl
  | succ n ih =>
    obtain ⟨entry, fp₁, -, hentry, -⟩ := readConfigEntry_congr s.fp hfs hfs rfl
    unfold configLoadEntries
    rw [hentry]
    cases entry with
    | none => rfl
    | some e =>
      obtain ⟨name, size⟩ := e
      dsimp only
      cases hfind : (findModuleByName mods name).filter fun p => p.1.isStored with
      | none =>
        obtain ⟨fp₂, -, hseek, -⟩ := wmSdkFileSeekCur_congr fp₁ hfs hfs (uint32ToInt32 size)
        dsimp only
        rw [hseek]
        exact ih _ hfs
      | some p =>
        obtain ⟨m, i⟩ := p
        have hload := loadModuleConfig_eq s.flash fp₁ (of_findModuleByName hfind).2.1
          (s.blocks i) 0 [] size
        obtain ⟨data, fp₂, -, hread, -⟩ := wmSdkFileRead_congr fp₁ hfs hfs rfl
          (ModuleConfig.loadSize m size)
        obtain ⟨fp₃, -, hskip, -⟩ := skipRest_congr fp₂ hfs hfs data size (m.loadSize size)
        have hflash : (loadModuleConfig s.flash fp₁ m (s.blocks i) size).flash = s.flash := by
          rw [hload]
          dsimp only
          rw [hread, hskip]
        dsimp only
        rw [ih _ (by rwa [hflash])]
        exact hflash

end Congruence

/-! ## The header -/

variable [DecidableEq π]

theorem configHeaderRetry_sound {fs : Flash π} (hfs : fs.Sound) (path : π) (n : Nat) :
    (configHeaderRetry path n fs).2 = fs := by
  induction n with
  | zero => rfl
  | succ n ih =>
    unfold configHeaderRetry
    rw [wmSdkFileClose_sound hfs, wmSdkFileOpen_rb hfs]
    split
    · rename_i heq
      exact (congrArg Prod.snd heq).symm
    · rename_i fp fs' heq
      obtain rfl : fs = fs' := congrArg Prod.snd heq
      rw [wmSdkFileRead_sound hfs]
      dsimp only
      split
      · rfl
      · exact ih

theorem readConfigHeader_congr {fs fs' : Flash π} (hfs : fs.Sound) (hfs' : fs'.Sound) (path : π)
    (h : fs.contents path = fs'.contents path) :
    ∃ header fp', fp'.path = path ∧ readConfigHeader fs ⟨path, .rb, 0⟩ = (header, fp', fs) ∧
      readConfigHeader fs' ⟨path, .rb, 0⟩ = (header, fp', fs') := by
  have hheader {fs : Flash π} (hfs : fs.Sound) : readConfigHeader fs ⟨path, .rb, 0⟩ =
      (if configFileHeaderSize ≤ (fs.contents path).length then
        some (.ofBytes ((fs.contents path).take configFileHeaderSize)) else none,
        ⟨path, .rb, 0 + ((fs.contents path).take configFileHeaderSize).length⟩, fs) := by
    unfold readConfigHeader
    rw [wmSdkFileRead_sound hfs]
    dsimp only
    rw [List.drop_zero]
    by_cases hlen : configFileHeaderSize ≤ (fs.contents path).length
    · rw [if_pos hlen, if_pos]
      simp only [ReadReply.complete, Bool.true_and, beq_iff_eq, List.length_take]
      omega
    · have hnone : (configHeaderRetry path 2 fs).1 = none :=
        configHeaderRetry_short hfs (by omega) 2
      have hkeep := configHeaderRetry_sound hfs path 2
      rw [if_neg hlen, if_neg]
      · rw [hnone, hkeep]
      · simp only [ReadReply.complete, Bool.true_and, beq_iff_eq, List.length_take]
        omega
  refine ⟨_, _, ?_, hheader hfs, ?_⟩
  · rfl
  · rw [hheader hfs', h]

/-- The visits of a load depend on the file. -/
theorem configVisits_congr (mods : List ModuleConfig) {path : π} {fs fs' : Flash π}
    (hfs : fs.Sound) (hfs' : fs'.Sound) (h : fs.files path = fs'.files path) :
    configVisits mods path fs = configVisits mods path fs' := by
  have hcontents : fs.contents path = fs'.contents path := by
    rw [Flash.contents, Flash.contents, h]
  obtain ⟨header, fp, hpath, hheader, hheader'⟩ := readConfigHeader_congr hfs hfs' path hcontents
  unfold configVisits
  rw [wmSdkFileOpen_rb hfs, wmSdkFileOpen_rb hfs', h]
  cases (fs'.files path).isSome with
  | false => rfl
  | true =>
    rw [if_pos rfl]
    dsimp only
    rw [hheader, hheader']
    cases header with
    | none => rfl
    | some header =>
      dsimp only
      rw [entryVisits_congr fp mods header.entryCount hfs hfs' (by rwa [hpath])]

/-- A load leaves the flash as it is, or ends with a save of what it loaded. -/
theorem configLoadFromFile_flash (mods : List ModuleConfig) (path : π) (blocks : ConfigBlocks)
    {fs : Flash π} (hfs : fs.Sound) :
    (configLoadFromFile mods path blocks fs).2 = fs ∨
      ∃ fs' : Flash π, fs'.Sound ∧ (configLoadFromFile mods path blocks fs).2 =
        (configSaveToFile mods path (configLoadFromFile mods path blocks fs).1 fs').2 := by
  obtain ⟨header, fp, -, hheader, -⟩ := readConfigHeader_congr hfs hfs path rfl
  unfold configLoadFromFile
  rw [wmSdkFileOpen_rb hfs]
  cases (fs.files path).isSome with
  | false => exact Or.inr ⟨fs, hfs, rfl⟩
  | true =>
    rw [if_pos rfl]
    dsimp only
    rw [hheader]
    cases header with
    | none =>
      dsimp only
      rw [wmSdkFileClose_sound hfs]
      exact Or.inl rfl
    | some header =>
      dsimp only
      rw [wmSdkFileClose_sound hfs]
      have hflash := configLoadEntries_sound mods header.entryCount
        ⟨initializeModuleDefaults mods blocks, fp, fs, false, false⟩ hfs
      split
      · exact Or.inl rfl
      · split
        · refine Or.inr ⟨(wmSdkFileDelete fs path).2, ?_, rfl⟩
          rw [wmSdkFileDelete_sound hfs]
          exact hfs.erase path
        · rw [hflash, wmSdkFileClose_sound hfs]
          split
          · exact Or.inr ⟨fs, hfs, rfl⟩
          · exact Or.inl rfl

/-! ## A save writes the image -/

section Saving

variable {fs : Flash π} (fp : FileHandle π)

theorem wmSdkFileWrite_whole (hfs : fs.Sound) (data : List Byte) {size : Nat}
    (h : data.length = size) : (wmSdkFileWrite fs fp data).complete size = true ∧
      (wmSdkFileWrite fs fp data).flash.Sound := by
  rw [wmSdkFileWrite_sound hfs]
  refine ⟨?_, hfs.put _ _⟩
  simp only [WriteReply.complete, h, Bool.true_and, beq_self_eq_true]

theorem writeModuleEntry_sound (hfs : fs.Sound) {m : ModuleConfig} {block : List Byte}
    (hptr : m.configPtr = true) (hlen : block.length = m.configSize) :
    (writeModuleEntry fs fp m block).1 = .success ∧ (writeModuleEntry fs fp m block).2.2.Sound := by
  unfold writeModuleEntry
  rw [if_neg (not_not_intro hptr)]
  by_cases hzero : m.configSize = 0
  · rw [if_pos hzero]
    exact ⟨rfl, hfs⟩
  rw [if_neg hzero]
  obtain ⟨hname, hfs⟩ := wmSdkFileWrite_whole fp hfs _
    (length_utilsStrncpySafe moduleNameMaxSize m.name)
  dsimp only
  generalize wmSdkFileWrite fs fp (utilsStrncpySafe moduleNameMaxSize m.name).toList = n
    at hname hfs ⊢
  obtain ⟨hsize, hfs⟩ := wmSdkFileWrite_whole n.fp hfs _ (length_leBytes 4 m.configSize)
  generalize wmSdkFileWrite n.flash n.fp (leBytes 4 m.configSize) = s at hsize hfs ⊢
  obtain ⟨hdata, hfs⟩ := wmSdkFileWrite_whole s.fp hfs (block.take m.configSize)
    (List.length_take_of_le hlen.ge)
  rw [if_neg (not_not_intro hname), if_neg (not_not_intro hsize), if_pos hdata]
  exact ⟨rfl, hfs⟩

theorem configSaveEntries_sound {blocks : ConfigBlocks} {ps : List (ModuleConfig × Nat)}
    (hfs : fs.Sound) (hlen : ∀ p ∈ ps, (blocks p.2).length = p.1.configSize) :
    (configSaveEntries blocks ps fs fp).1 = .success ∧
      (configSaveEntries blocks ps fs fp).2.Sound := by
  induction ps generalizing fs fp with
  | nil => exact ⟨rfl, hfs⟩
  | cons p ps ih =>
    rw [List.forall_mem_cons] at hlen
    unfold configSaveEntries
    by_cases hsavable : isSavable blocks p = true
    · have hptr : p.1.configPtr = true := by
        simp only [isSavable, Bool.and_eq_true] at hsavable
        exact ModuleConfig.configPtr_of_isStored hsavable.1
      obtain ⟨hsuccess, hsound⟩ := writeModuleEntry_sound fp hfs hptr hlen.1
      rw [if_neg (not_not_intro hsavable)]
      generalize writeModuleEntry fs fp p.1 (blocks p.2) = w at hsuccess hsound ⊢
      obtain ⟨r, fp', fs'⟩ := w
      cases hsuccess
      exact ih fp' hsound hlen.2
    · rw [if_pos hsavable]
      exact ih fp hfs hlen.2

end Saving

/-- A save that has something to save leaves the image in the file. -/
theorem configSaveToFile_sound {mods : List ModuleConfig} {blocks : ConfigBlocks}
    (hb : blocks.Sized mods) (path : π) {fs : Flash π} (hfs : fs.Sound)
    (hcount : 0 < countSavableModules mods blocks) :
    (configSaveToFile mods path blocks fs).2.Sound ∧
      (configSaveToFile mods path blocks fs).2.files path = some (saveImage mods blocks) := by
  have hrun : (configSaveToFile mods path blocks fs).1 = .success ∧
      (configSaveToFile mods path blocks fs).2.Sound := by
    unfold configSaveToFile
    rw [if_neg (by omega), wmSdkFileOpen_wb hfs]
    have hwrite := wmSdkFileWrite_whole ⟨path, .wb, 0⟩ (hfs.put path []) _
      (ConfigFileHeader.length_toBytes
        ⟨configFileMagic, configFileVersion, countSavableModules mods blocks⟩)
    unfold writeConfigHeader
    dsimp only
    rw [if_pos hwrite.1]
    obtain ⟨hsuccess, hsound⟩ := configSaveEntries_sound
      (wmSdkFileWrite (fs.put path []) ⟨path, .wb, 0⟩ (⟨configFileMagic, configFileVersion,
        countSavableModules mods blocks⟩ : ConfigFileHeader).toBytes).fp hwrite.2 hb
    obtain ⟨⟨r, written⟩, he⟩ : ∃ e, configSaveEntries blocks mods.zipIdx
        (wmSdkFileWrite (fs.put path []) ⟨path, .wb, 0⟩ (⟨configFileMagic, configFileVersion,
          countSavableModules mods blocks⟩ : ConfigFileHeader).toBytes).flash
        (wmSdkFileWrite (fs.put path []) ⟨path, .wb, 0⟩ (⟨configFileMagic, configFileVersion,
          countSavableModules mods blocks⟩ : ConfigFileHeader).toBytes).fp = e := ⟨_, rfl⟩
    rw [he] at hsuccess hsound
    dsimp only
    rw [he]
    cases hsuccess
    refine ⟨rfl, ?_⟩
    have hsync : (wmSdkFileSync written).Sound := by
      rw [wmSdkFileSync, Flash.Sound.tick hsound]
      exact hsound
    dsimp only
    rw [wmSdkFileClose_sound hsync]
    exact hsync
  refine ⟨hrun.2, ?_⟩
  rcases configSaveToFile_files hb path fs with ⟨-, hnothing⟩ | ⟨part, -, hfile, hall⟩
  · have hzero := hnothing hrun.1
    omega
  · rw [hfile, hall hrun.1]

/-- After a save that has something to save a boot gives the configurations that pass
their check. -/
theorem configLoadFromFile_saved {mods : List ModuleConfig} (hnames : DistinctNames mods)
    (hcount : mods.length < 2 ^ 32) {blocks boot : ConfigBlocks} (hb : blocks.Sized mods)
    (hboot : boot.Sized mods) {path : π} {fs : Flash π} (hfs : fs.Sound)
    (hfile : fs.files path = some (saveImage mods blocks)) {p : ModuleConfig × Nat}
    (hp : p ∈ mods.zipIdx) (hstored : p.1.isStored = true)
    (hvalid : p.1.validates (blocks p.2) = true) :
    (configLoadFromFile mods path boot fs).1 p.2 = blocks p.2 := by
  have hrestored := restored_of_prefix hnames hcount hb hboot hfs (List.prefix_refl _) hfile
  have hsaved : p ∈ savedModules mods blocks := by
    refine List.mem_filter.mpr ⟨hp, ?_⟩
    rw [isSavable, hstored, hvalid]
    rfl
  exact hrestored.whole p hsaved (savedEnd_le mods blocks hsaved)

end WalnutGateway
