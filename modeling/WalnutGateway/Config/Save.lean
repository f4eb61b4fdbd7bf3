import WalnutGateway.Config.Load

/-!
# Saving and loading

A save writes one image from the start of the file, so at any time the file holds
the old bytes or a prefix of the image. A load of a prefix visits the entries whose
header is there: an entry that is all there brings its block back, and only the last
one can be cut.
-/

namespace WalnutGateway

variable {π : Type}

/-! ## The image of a save -/

/-- The bytes of one entry; a module without a configuration has none. -/
def entryBytes (blocks : ConfigBlocks) (p : ModuleConfig × Nat) : List Byte :=
  if p.1.configSize = 0 then [] else
  (utilsStrncpySafe moduleNameMaxSize p.1.name).toList ++ leBytes 4 p.1.configSize ++
    (blocks p.2).take p.1.configSize

/-- The modules that a save writes. -/
def savedModules (mods : List ModuleConfig) (blocks : ConfigBlocks) : List (ModuleConfig × Nat) :=
  mods.zipIdx.filter (isSavable blocks)

/-- The header of a save. -/
def saveHeader (mods : List ModuleConfig) (blocks : ConfigBlocks) : ConfigFileHeader :=
  ⟨configFileMagic, configFileVersion, countSavableModules mods blocks⟩

/-- The whole file after a save. -/
def saveImage (mods : List ModuleConfig) (blocks : ConfigBlocks) : List Byte :=
  (saveHeader mods blocks).toBytes ++ (savedModules mods blocks).flatMap (entryBytes blocks)

/-! ## Writing leaves a prefix -/

/-- The file holds `contents`, and the handle is behind them. -/
structure WritesAt (path : π) (fs : Flash π) (fp : FileHandle π) (contents : List Byte) : Prop where
  file : fs.files path = some contents
  handle : fp = ⟨path, .wb, contents.length⟩

/-- After a step that was to write `data` the file has a part of it, all of it if the
step says so. -/
def Wrote (path : π) (contents data : List Byte) (complete : Prop) (fs : Flash π)
    (fp : FileHandle π) : Prop :=
  ∃ part, part <+: data ∧ WritesAt path fs fp (contents ++ part) ∧ (complete → part = data)

section Writes

variable {path : π} {fs : Flash π} {fp : FileHandle π} {contents : List Byte}

/-- A step after a complete one. -/
theorem Wrote.append {first second : List Byte} {done complete : Prop} {fs' : Flash π}
    {fp' : FileHandle π} (hfirst : Wrote path contents first done fs fp) (hdone : done)
    (hnext : WritesAt path fs fp (contents ++ first) →
      Wrote path (contents ++ first) second complete fs' fp') :
    Wrote path contents (first ++ second) complete fs' fp' := by
  obtain ⟨part, -, hat, hall⟩ := hfirst
  rw [hall hdone] at hat
  obtain ⟨part', hpart, hat', hall'⟩ := hnext hat
  refine ⟨first ++ part', (List.prefix_append_right_inj _).mpr hpart, ?_, ?_⟩
  · rw [← List.append_assoc]
    exact hat'
  · intro hcomplete
    rw [hall' hcomplete]

/-- A step that is not complete leaves a part of all that was to come. -/
theorem Wrote.mono {first second : List Byte} {done complete : Prop}
    (h : Wrote path contents first done fs fp) (hnot : ¬ complete) :
    Wrote path contents (first ++ second) complete fs fp := by
  obtain ⟨part, hpart, hat, -⟩ := h
  exact ⟨part, hpart.trans (List.prefix_append _ _), hat, fun hcomplete => absurd hcomplete hnot⟩

theorem WritesAt.wrote_nil (h : WritesAt path fs fp contents) (complete : Prop) :
    Wrote path contents [] complete fs fp :=
  ⟨[], List.prefix_refl _, by rwa [List.append_nil], fun _ => rfl⟩

variable [DecidableEq π]

theorem WritesAt.write (h : WritesAt path fs fp contents) (data : List Byte) :
    Wrote path contents data ((wmSdkFileWrite fs fp data).complete data.length = true)
      (wmSdkFileWrite fs fp data).flash (wmSdkFileWrite fs fp data).fp := by
  obtain ⟨hfile, rfl⟩ := h
  have hcontents : fs.tick.2.contents path = contents :=
    (fs.tick_contents path).trans (Flash.contents_of_files hfile)
  have hput (part : List Byte) : WritesAt path
      (fs.tick.2.put path ((⟨path, .wb, contents.length⟩ : FileHandle π).overwrite
        (fs.tick.2.contents path) part))
      ⟨path, .wb, contents.length + part.length⟩ (contents ++ part) := by
    refine ⟨?_, ?_⟩
    · rw [Flash.put_files_self, hcontents]
      simp [FileHandle.overwrite]
    · rw [List.length_append]
  unfold wmSdkFileWrite
  dsimp only
  cases fs.tick.1 with
  | success => exact ⟨data, List.prefix_refl _, hput data, fun _ => rfl⟩
  | short k =>
    refine ⟨data.take k, List.take_prefix _ _, hput _, ?_⟩
    intro hcomplete
    simp only [WriteReply.complete, Bool.true_and, beq_iff_eq, List.length_take] at hcomplete
    exact List.take_of_length_le (by omega)
  | fail k => exact ⟨data.take k, List.take_prefix _ _, hput _, nofun⟩

theorem WritesAt.writeConfigHeader (h : WritesAt path fs fp contents) (count : Nat) :
    Wrote path contents (⟨configFileMagic, configFileVersion, count⟩ : ConfigFileHeader).toBytes
      ((writeConfigHeader fs fp count).1 = .success) (writeConfigHeader fs fp count).2.2
      (writeConfigHeader fs fp count).2.1 := by
  have hwrite := h.write (⟨configFileMagic, configFileVersion, count⟩ : ConfigFileHeader).toBytes
  have hlen : (⟨configFileMagic, configFileVersion, count⟩ : ConfigFileHeader).toBytes.length =
      configFileHeaderSize := by
    simp [ConfigFileHeader.toBytes, configFileHeaderSize]
  rw [hlen] at hwrite
  obtain ⟨part, hpart, hat, hall⟩ := hwrite
  unfold WalnutGateway.writeConfigHeader
  dsimp only
  refine ⟨part, hpart, hat, ?_⟩
  intro hsuccess
  apply hall
  by_contra hnot
  rw [if_neg hnot] at hsuccess
  cases hsuccess

theorem length_utilsStrncpySafe (n : Nat) (src : List Byte) :
    (utilsStrncpySafe n src).toList.length = n := List.Vector.toList_length _

theorem WritesAt.writeModuleEntry (h : WritesAt path fs fp contents) {p : ModuleConfig × Nat}
    {blocks : ConfigBlocks} (hp : p.1.configPtr = true)
    (hlen : (blocks p.2).length = p.1.configSize) :
    Wrote path contents (entryBytes blocks p)
      ((writeModuleEntry fs fp p.1 (blocks p.2)).1 = .success)
      (writeModuleEntry fs fp p.1 (blocks p.2)).2.2
      (writeModuleEntry fs fp p.1 (blocks p.2)).2.1 := by
  unfold WalnutGateway.writeModuleEntry entryBytes
  rw [if_neg (not_not_intro hp)]
  by_cases hzero : p.1.configSize = 0
  · rw [if_pos hzero, if_pos hzero]
    exact h.wrote_nil _
  rw [if_neg hzero, if_neg hzero]
  have hname := h.write (utilsStrncpySafe moduleNameMaxSize p.1.name).toList
  rw [length_utilsStrncpySafe] at hname
  dsimp only
  generalize wmSdkFileWrite fs fp (utilsStrncpySafe moduleNameMaxSize p.1.name).toList = n
    at hname ⊢
  by_cases hcn : n.complete moduleNameMaxSize = true
  swap
  · rw [if_pos hcn, List.append_assoc]
    exact hname.mono nofun
  rw [if_neg (not_not_intro hcn), List.append_assoc]
  refine hname.append hcn fun hat => ?_
  have hsize := hat.write (leBytes 4 p.1.configSize)
  rw [length_leBytes] at hsize
  generalize wmSdkFileWrite n.flash n.fp (leBytes 4 p.1.configSize) = s at hsize ⊢
  by_cases hcs : s.complete 4 = true
  swap
  · rw [if_pos hcs]
    exact hsize.mono nofun
  rw [if_neg (not_not_intro hcs)]
  refine hsize.append hcs fun hat => ?_
  obtain ⟨part, hpart, hat, hall⟩ := hat.write ((blocks p.2).take p.1.configSize)
  rw [List.length_take, hlen, Nat.min_self] at hall
  refine ⟨part, hpart, hat, ?_⟩
  intro hsuccess
  apply hall
  by_contra hnot
  rw [if_neg hnot] at hsuccess
  cases hsuccess

/-- The loop of a save leaves a part of its entries, all of them if it succeeds. -/
theorem WritesAt.configSaveEntries (h : WritesAt path fs fp contents) {blocks : ConfigBlocks}
    {ps : List (ModuleConfig × Nat)}
    (hlen : ∀ p ∈ ps, (blocks p.2).length = p.1.configSize) :
    ∃ part, part <+: (ps.filter (isSavable blocks)).flatMap (entryBytes blocks) ∧
      (configSaveEntries blocks ps fs fp).2.files path = some (contents ++ part) ∧
      ((configSaveEntries blocks ps fs fp).1 = .success →
        part = (ps.filter (isSavable blocks)).flatMap (entryBytes blocks)) := by
  induction ps generalizing fs fp contents with
  | nil =>
    refine ⟨[], List.prefix_refl _, ?_, fun _ => rfl⟩
    rw [List.append_nil]
    exact h.file
  | cons p ps ih =>
    rw [List.forall_mem_cons] at hlen
    unfold WalnutGateway.configSaveEntries
    cases hsavable : isSavable blocks p with
    | false =>
      rw [if_pos Bool.false_ne_true, List.filter_cons_of_neg (by simp [hsavable])]
      exact ih h hlen.2
    | true =>
      have hptr : p.1.configPtr = true := by
        simp only [isSavable, Bool.and_eq_true] at hsavable
        exact ModuleConfig.configPtr_of_isStored hsavable.1
      obtain ⟨part, hpart, hat, hall⟩ := h.writeModuleEntry hptr hlen.1
      rw [if_neg (not_not_intro rfl), List.filter_cons_of_pos hsavable, List.flatMap_cons]
      generalize WalnutGateway.writeModuleEntry fs fp p.1 (blocks p.2) = w at hat hall ⊢
      obtain ⟨r, fp', fs'⟩ := w
      cases r with
      | success =>
        rw [hall rfl] at hat
        obtain ⟨rest, hrest, hfile, hdone⟩ := ih hat hlen.2
        refine ⟨entryBytes blocks p ++ rest, (List.prefix_append_right_inj _).mpr hrest, ?_, ?_⟩
        · rw [← List.append_assoc]
          exact hfile
        · intro hsuccess
          rw [hdone hsuccess]
      | _ => exact ⟨part, hpart.trans (List.prefix_append _ _), hat.file, nofun⟩

/-- A save leaves the file as it was, or a prefix of the image; a successful one that
has something to save leaves all of it. -/
theorem configSaveToFile_files {mods : List ModuleConfig} {blocks : ConfigBlocks}
    (hb : blocks.Sized mods) (path : π) (fs : Flash π) :
    ((configSaveToFile mods path blocks fs).2.files = fs.files ∧
        ((configSaveToFile mods path blocks fs).1 = .success →
          countSavableModules mods blocks = 0)) ∨
      ∃ part, part <+: saveImage mods blocks ∧
        (configSaveToFile mods path blocks fs).2.files path = some part ∧
        ((configSaveToFile mods path blocks fs).1 = .success → part = saveImage mods blocks) := by
  unfold configSaveToFile
  by_cases hcount : countSavableModules mods blocks = 0
  · rw [if_pos hcount]
    exact Or.inl ⟨rfl, fun _ => hcount⟩
  rw [if_neg hcount]
  have hopened := wmSdkFileOpen_wb_files fs path
  cases hopen : wmSdkFileOpen fs path .wb with
  | mk file fs' =>
    rw [hopen] at hopened
    cases file with
    | none =>
      have hsame : fs'.files = fs.files := by
        unfold wmSdkFileOpen at hopen
        dsimp only at hopen
        split at hopen
        · rename_i hmode
          cases hmode
        · cases hopen
        · cases hopen
        · cases hopen
          exact fs.tick_files
      exact Or.inl ⟨hsame, nofun⟩
    | some fp =>
      right
      obtain rfl : fp = ⟨path, .wb, 0⟩ := wmSdkFileOpen_handle (congrArg Prod.fst hopen)
      have hstart : WritesAt path fs' ⟨path, .wb, 0⟩ [] := ⟨hopened _ rfl, rfl⟩
      obtain ⟨part, hpart, hat, hall⟩ :=
        hstart.writeConfigHeader (countSavableModules mods blocks)
      dsimp only
      generalize writeConfigHeader fs' ⟨path, .wb, 0⟩ (countSavableModules mods blocks) = w
        at hat hall ⊢
      obtain ⟨r, fp, headed⟩ := w
      have hclose (fs : Flash π) : (wmSdkFileClose fs).2.files path = fs.files path :=
        congrFun (wmSdkFileClose_files fs) path
      cases r with
      | success =>
        rw [hall rfl, List.nil_append] at hat
        have hlen : ∀ p ∈ mods.zipIdx, (blocks p.2).length = p.1.configSize := hb
        obtain ⟨rest, hrest, hfile, hdone⟩ := hat.configSaveEntries hlen
        dsimp only
        generalize configSaveEntries blocks mods.zipIdx headed fp = e at hfile hdone ⊢
        obtain ⟨r, written⟩ := e
        cases r with
        | success =>
          refine ⟨_, (List.prefix_append_right_inj _).mpr hrest, ?_, ?_⟩
          · dsimp only
            rw [hclose, wmSdkFileSync, Flash.tick_files]
            exact hfile
          · intro _
            rw [hdone rfl]
            rfl
        | _ => exact ⟨_, (List.prefix_append_right_inj _).mpr hrest, (hclose _).trans hfile, nofun⟩
      | _ =>
        refine ⟨part, hpart.trans (List.prefix_append _ _), ?_, nofun⟩
        exact (hclose _).trans hat.file

end Writes

/-! ## Loading a prefix -/

/-- The bytes of an entry before its data. -/
def entryHeaderSize : Nat := 36

/-- The visits of a load to a file that holds `j` bytes of the entries. -/
def savedVisits (blocks : ConfigBlocks) : Nat → List (ModuleConfig × Nat) → Nat → List EntryVisit
  | _, [], _ => []
  | start, p :: ps, j =>
    if p.1.configSize = 0 then savedVisits blocks start ps j
    else if j < entryHeaderSize then []
    else
      ⟨start, (utilsStrncpySafe moduleNameMaxSize p.1.name).toList, p.1.configSize, some p,
          (blocks p.2).take (j - entryHeaderSize), true⟩ ::
        savedVisits blocks (start + entryHeaderSize + p.1.configSize) ps
          (j - entryHeaderSize - p.1.configSize)

theorem savedVisits_zero (blocks : ConfigBlocks) (start : Nat) (ps : List (ModuleConfig × Nat)) :
    savedVisits blocks start ps 0 = [] := by
  induction ps with
  | nil => rfl
  | cons p ps ih =>
    unfold savedVisits
    split
    · exact ih
    · rfl

section Sound

variable {fs : Flash π} {path : π}

/-- Fewer bytes than an entry header are no entry. -/
theorem readConfigEntry_short (hfs : fs.Sound) {fp : FileHandle π}
    (h : ((fs.contents fp.path).drop fp.pos).length < entryHeaderSize) :
    (readConfigEntry fs fp).1 = none := by
  generalize hbytes : (fs.contents fp.path).drop fp.pos = bytes at h
  have hname : wmSdkFileRead fs fp moduleNameMaxSize = ⟨true, bytes.take moduleNameMaxSize,
      { fp with pos := fp.pos + (bytes.take moduleNameMaxSize).length }, fs⟩ := by
    rw [wmSdkFileRead_sound hfs, hbytes]
  unfold readConfigEntry
  rw [hname]
  dsimp only
  split
  · rfl
  · rename_i hcomplete
    simp only [ReadReply.complete, Bool.true_and, beq_iff_eq, not_not] at hcomplete
    rw [hcomplete, wmSdkFileRead_sound hfs]
    dsimp only
    rw [← List.drop_drop, hbytes]
    rw [if_pos]
    simp only [ReadReply.complete, Bool.true_and, beq_iff_eq, List.length_take, List.length_drop]
    unfold entryHeaderSize at h
    unfold moduleNameMaxSize at hcomplete ⊢
    rw [List.length_take] at hcomplete
    omega

/-- An entry header is read back, and the handle is behind it. -/
theorem readConfigEntry_sound (hfs : fs.Sound) {fp : FileHandle π} {name tail : List Byte}
    {size : Nat} (hname : name.length = moduleNameMaxSize) (hsize : size < 2 ^ 32)
    (h : (fs.contents fp.path).drop fp.pos = name ++ leBytes 4 size ++ tail) :
    readConfigEntry fs fp =
      (some (name, size), { fp with pos := fp.pos + entryHeaderSize }, fs) := by
  have hfirst : wmSdkFileRead fs fp moduleNameMaxSize =
      ⟨true, name, { fp with pos := fp.pos + moduleNameMaxSize }, fs⟩ := by
    rw [wmSdkFileRead_sound hfs, h, List.append_assoc, ← hname, List.take_left]
  have hsecond : wmSdkFileRead fs { fp with pos := fp.pos + moduleNameMaxSize } 4 =
      ⟨true, leBytes 4 size, { fp with pos := fp.pos + entryHeaderSize }, fs⟩ := by
    have hdrop : (fs.contents fp.path).drop (fp.pos + moduleNameMaxSize) =
        leBytes 4 size ++ tail := by
      rw [← List.drop_drop, h, List.append_assoc, ← hname, List.drop_left]
    rw [wmSdkFileRead_sound hfs]
    dsimp only
    rw [hdrop, List.take_append_of_le_length (by rw [length_leBytes]),
      List.take_of_length_le (by rw [length_leBytes]), length_leBytes]
    rfl
  unfold readConfigEntry
  rw [hfirst]
  dsimp only
  rw [if_neg (by simp [ReadReply.complete, hname]), hsecond]
  dsimp only
  rw [if_neg (by simp [ReadReply.complete]), leNat_leBytes (by simpa using hsize)]

/-- Nothing is visited where no entry header is left. -/
theorem entryVisits_short (mods : List ModuleConfig) (n : Nat) (hfs : fs.Sound)
    {fp : FileHandle π} (h : ((fs.contents fp.path).drop fp.pos).length < entryHeaderSize) :
    entryVisits mods n fs fp = [] := by
  cases n with
  | zero => rfl
  | succ n =>
    have hnone := readConfigEntry_short hfs h
    unfold entryVisits
    cases hentry : readConfigEntry fs fp with
    | mk entry next =>
      rw [hentry] at hnone
      cases hnone
      rfl

end Sound

/-! ## The entries of a prefix -/

/-- Names tell modules apart. -/
def DistinctNames (mods : List ModuleConfig) : Prop := (mods.map ModuleConfig.name).Nodup

/-- A module is found by the name in its entry. -/
theorem findModuleByName_entry {mods : List ModuleConfig} (hnames : DistinctNames mods)
    {p : ModuleConfig × Nat} (hp : p ∈ mods.zipIdx) :
    findModuleByName mods (utilsStrncpySafe moduleNameMaxSize p.1.name).toList = some p := by
  have hname : cString (utilsStrncpySafe moduleNameMaxSize p.1.name).toList = p.1.name := by
    have hlt := p.1.length_name
    rw [cString_utilsStrncpySafe (by decide), cString_of_ne_zero p.1.name_ne_zero,
      List.take_of_length_le (by omega)]
  have hnodup : (mods.zipIdx.map fun q => q.1.name).Nodup := by
    have hmap : (mods.zipIdx.map fun q => q.1.name) = mods.map ModuleConfig.name := by
      rw [← List.zipIdx_map_fst 0 mods, List.map_map, List.zipIdx_map_fst]
      rfl
    rw [hmap]
    exact hnames
  unfold findModuleByName
  rw [hname]
  cases hfind : mods.zipIdx.find? fun q => q.1.name = p.1.name with
  | none =>
    have hnone := List.find?_eq_none.mp hfind p hp
    simp at hnone
  | some q =>
    have hq : q.1.name = p.1.name := by simpa using List.find?_some hfind
    rw [List.inj_on_of_nodup_map hnodup (List.mem_of_find?_eq_some hfind) hp hq]

theorem nodup_slots (mods : List ModuleConfig) (blocks : ConfigBlocks) :
    ((savedModules mods blocks).map Prod.snd).Nodup := by
  have hsub : ((savedModules mods blocks).map Prod.snd).Sublist (mods.zipIdx.map Prod.snd) :=
    List.Sublist.map _ List.filter_sublist
  refine hsub.nodup ?_
  rw [List.zipIdx_map_snd]
  exact List.nodup_range'

/-- A load of a file that goes on with `j` bytes of the entries of `ps` visits these. -/
theorem entryVisits_saved {mods : List ModuleConfig} (hnames : DistinctNames mods)
    {blocks : ConfigBlocks} {fs : Flash π} (hfs : fs.Sound) {path : π}
    {ps : List (ModuleConfig × Nat)}
    (hps : ∀ p ∈ ps, p ∈ mods.zipIdx ∧ p.1.isStored = true ∧
      (blocks p.2).length = p.1.configSize)
    {n : Nat} (hn : ps.length ≤ n) {pre : List Byte} {j : Nat}
    (hfile : fs.contents path = pre ++ (ps.flatMap (entryBytes blocks)).take j) (mode : FileMode) :
    entryVisits mods n fs ⟨path, mode, pre.length⟩ = savedVisits blocks pre.length ps j := by
  have hdrop {pre bytes : List Byte} (h : fs.contents path = pre ++ bytes) :
      (fs.contents path).drop pre.length = bytes := by
    rw [h, List.drop_left]
  induction ps generalizing n pre j with
  | nil =>
    apply entryVisits_short mods n hfs
    rw [hdrop hfile]
    simp [entryHeaderSize]
  | cons p ps ih =>
    obtain ⟨hp, hrest⟩ := List.forall_mem_cons.mp hps
    obtain ⟨hmem, hstored, hlen⟩ := hp
    rw [List.flatMap_cons] at hfile
    unfold savedVisits
    by_cases hzero : p.1.configSize = 0
    · rw [if_pos hzero]
      rw [entryBytes, if_pos hzero, List.nil_append] at hfile
      exact ih hrest (by simp only [List.length_cons] at hn; omega) hfile
    rw [if_neg hzero]
    by_cases hshort : j < entryHeaderSize
    · rw [if_pos hshort]
      apply entryVisits_short mods n hfs
      rw [hdrop hfile, List.length_take]
      omega
    rw [if_neg hshort]
    obtain ⟨n, rfl⟩ : ∃ k, n = k + 1 := ⟨n - 1, by simp only [List.length_cons] at hn; omega⟩
    have hsize := p.1.configSize_lt
    have hname := length_utilsStrncpySafe moduleNameMaxSize p.1.name
    generalize hbytes : (utilsStrncpySafe moduleNameMaxSize p.1.name).toList = name at hname
    have hheader : (name ++ leBytes 4 p.1.configSize).length = entryHeaderSize := by
      rw [List.length_append, hname, length_leBytes]
      rfl
    have htail : fs.contents path = pre ++ (name ++ leBytes 4 p.1.configSize ++
        (blocks p.2 ++ ps.flatMap (entryBytes blocks)).take (j - entryHeaderSize)) := by
      rw [hfile, entryBytes, if_neg hzero, hbytes, List.take_of_length_le hlen.le,
        List.append_assoc, List.take_append, List.take_of_length_le (by omega), hheader]
    have hentry : readConfigEntry fs ⟨path, mode, pre.length⟩ = _ :=
      readConfigEntry_sound hfs hname (by omega) (hdrop htail)
    have hfind : (findModuleByName mods name).filter (fun q => q.1.isStored) = some p := by
      rw [← hbytes, findModuleByName_entry hnames hmem]
      exact Option.filter_eq_some_iff.mpr ⟨rfl, hstored⟩
    have hload : p.1.loadSize p.1.configSize = p.1.configSize := if_neg (lt_irrefl _)
    have hafter : (fs.contents path).drop (pre.length + entryHeaderSize) =
        (blocks p.2 ++ ps.flatMap (entryBytes blocks)).take (j - entryHeaderSize) := by
      rw [← List.drop_drop, hdrop htail, ← hheader, List.drop_left]
    have hdata : ((fs.contents path).drop (pre.length + entryHeaderSize)).take p.1.configSize =
        (blocks p.2).take (j - entryHeaderSize) := by
      rw [hafter, List.take_take, List.take_append_of_le_length (by omega), ← hlen, Nat.min_comm,
        ← List.take_take, List.take_length]
    have hskip (data : List Byte) (fp : FileHandle π) :
        skipRest ⟨true, data, fp, fs⟩ p.1.configSize p.1.configSize = (fp, fs) :=
      if_neg (lt_irrefl _)
    unfold entryVisits
    rw [hentry]
    dsimp only
    rw [hfind]
    dsimp only
    rw [hload, wmSdkFileRead_sound hfs, hskip]
    dsimp only
    rw [hdata]
    congr 1
    by_cases hwhole : p.1.configSize ≤ j - entryHeaderSize
    · have hpre : (pre ++ (name ++ leBytes 4 p.1.configSize) ++ blocks p.2).length =
          pre.length + entryHeaderSize + p.1.configSize := by
        rw [List.length_append, List.length_append, hheader, hlen]
      have hcontents : fs.contents path = pre ++ (name ++ leBytes 4 p.1.configSize) ++ blocks p.2 ++
          (ps.flatMap (entryBytes blocks)).take (j - entryHeaderSize - p.1.configSize) := by
        rw [htail, List.take_append, List.take_of_length_le (by omega), hlen]
        simp only [List.append_assoc]
      have hcount : ps.length ≤ n := by
        simp only [List.length_cons] at hn
        omega
      have hnext := ih hrest hcount hcontents
      rw [hpre] at hnext
      rw [List.take_of_length_le (by omega), hlen]
      exact hnext
    · have hdone : j - entryHeaderSize - p.1.configSize = 0 := by omega
      rw [hdone, savedVisits_zero]
      apply entryVisits_short mods n hfs
      dsimp only
      have hpos : 0 < entryHeaderSize := by decide
      rw [← List.drop_drop, hafter, List.length_drop, List.length_take, List.length_take]
      omega

/-! ## The last visit of a prefix -/

/-- Where the entry of slot `i` starts among the entries. -/
def entryStart (blocks : ConfigBlocks) (ps : List (ModuleConfig × Nat)) (i : Nat) : Nat :=
  ((ps.takeWhile fun p => p.2 ≠ i).flatMap (entryBytes blocks)).length

theorem savedVisits_slot {blocks : ConfigBlocks} {start j : Nat} {ps : List (ModuleConfig × Nat)} :
    ∀ v ∈ savedVisits blocks start ps j, ∃ p ∈ ps, v.slot = some p := by
  induction ps generalizing start j with
  | nil => exact fun _ hv => absurd hv List.not_mem_nil
  | cons p ps ih =>
    intro v hv
    unfold savedVisits at hv
    split_ifs at hv
    · obtain ⟨q, hq, hslot⟩ := ih v hv
      exact ⟨q, List.mem_cons_of_mem _ hq, hslot⟩
    · cases hv
    · rcases List.mem_cons.mp hv with rfl | hv
      · exact ⟨p, List.mem_cons_self .., rfl⟩
      · obtain ⟨q, hq, hslot⟩ := ih v hv
        exact ⟨q, List.mem_cons_of_mem _ hq, hslot⟩

/-- The entry of a module is visited exactly when its header is there, and brings what
is there of its data. -/
theorem lastVisit_savedVisits {blocks : ConfigBlocks} {ps : List (ModuleConfig × Nat)}
    (hnodup : (ps.map Prod.snd).Nodup)
    (hlen : ∀ p ∈ ps, (blocks p.2).length = p.1.configSize) {p : ModuleConfig × Nat} (hp : p ∈ ps)
    (hsize : p.1.configSize ≠ 0) (start j : Nat) :
    (j < entryStart blocks ps p.2 + entryHeaderSize →
        ∀ v ∈ savedVisits blocks start ps j, ¬ v.On p.2) ∧
      (entryStart blocks ps p.2 + entryHeaderSize ≤ j →
        ∃ pre v, LastVisit (savedVisits blocks start ps j) p.2 pre v ∧ v.ok = true ∧
          v.size = p.1.configSize ∧
          v.data = (blocks p.2).take (j - entryStart blocks ps p.2 - entryHeaderSize)) := by
  induction ps generalizing start j with
  | nil => cases hp
  | cons q ps ih =>
    rw [List.map_cons, List.nodup_cons] at hnodup
    obtain ⟨hq, hlen⟩ := List.forall_mem_cons.mp hlen
    have hother {j start : Nat} (h : p.2 = q.2) :
        ∀ v ∈ savedVisits blocks start ps j, ¬ v.On p.2 := by
      rintro v hv ⟨m, hm⟩
      obtain ⟨r, hr, hslot⟩ := savedVisits_slot v hv
      rw [hm, Option.some.injEq] at hslot
      subst hslot
      have hmem : (m, p.2).2 ∈ ps.map Prod.snd := List.mem_map_of_mem hr
      apply hnodup.1
      rw [← h]
      exact hmem
    rcases List.mem_cons.mp hp with rfl | hp
    · have hstart : entryStart blocks (p :: ps) p.2 = 0 := by
        simp [entryStart]
      unfold savedVisits
      rw [hstart, if_neg hsize]
      refine ⟨?_, ?_⟩
      · intro hshort
        rw [if_pos (by omega)]
        exact fun _ hv => absurd hv List.not_mem_nil
      · intro hle
        rw [if_neg (by omega)]
        exact ⟨[], _, ⟨_, rfl, ⟨p.1, rfl⟩, hother rfl⟩, rfl, rfl, by simp⟩
    · have hne : q.2 ≠ p.2 := by
        intro heq
        apply hnodup.1
        rw [heq]
        exact List.mem_map_of_mem hp
      have hstart : entryStart blocks (q :: ps) p.2 =
          (entryBytes blocks q).length + entryStart blocks ps p.2 := by
        simp [entryStart, hne]
      unfold savedVisits
      by_cases hzero : q.1.configSize = 0
      · rw [if_pos hzero, hstart, entryBytes, if_pos hzero, List.length_nil, Nat.zero_add]
        exact ih hnodup.2 hlen hp start j
      · have hbytes : (entryBytes blocks q).length = entryHeaderSize + q.1.configSize := by
          rw [entryBytes, if_neg hzero, List.length_append, List.length_append,
            length_utilsStrncpySafe, length_leBytes, List.length_take, hq, Nat.min_self]
          rfl
        rw [if_neg hzero, hstart, hbytes]
        have hrest := ih hnodup.2 hlen hp (start + entryHeaderSize + q.1.configSize)
          (j - entryHeaderSize - q.1.configSize)
        have hnot (start : Nat) (name data : List Byte) (size : Nat) :
            ¬ EntryVisit.On ⟨start, name, size, some q, data, true⟩ p.2 := by
          rintro ⟨m, hm⟩
          have hslot : q.2 = (m, p.2).2 := congrArg Prod.snd (Option.some.inj hm)
          exact hne hslot
        by_cases hshort : j < entryHeaderSize
        · rw [if_pos hshort]
          exact ⟨fun _ _ hv => absurd hv List.not_mem_nil, fun hle => by omega⟩
        · rw [if_neg hshort]
          refine ⟨?_, ?_⟩
          · intro hlt
            rw [List.forall_mem_cons]
            exact ⟨hnot _ _ _ _, hrest.1 (by unfold entryHeaderSize at *; omega)⟩
          · intro hle
            obtain ⟨pre, v, hl, hok, hsize, hdata⟩ := hrest.2 (by omega)
            refine ⟨_, v, hl.cons _, hok, hsize, ?_⟩
            rw [hdata]
            congr 1
            omega

/-! ## What a load brings back -/

theorem ConfigFileHeader.length_toBytes (header : ConfigFileHeader) :
    header.toBytes.length = configFileHeaderSize := by
  simp [toBytes, configFileHeaderSize]

/-- A header whose words fit is read back. -/
theorem ConfigFileHeader.ofBytes_toBytes {header : ConfigFileHeader}
    (hmagic : header.magic < 2 ^ 32) (hversion : header.version < 2 ^ 32)
    (hcount : header.entryCount < 2 ^ 32) : ofBytes header.toBytes = header := by
  have hread {bytes : List Byte} {n : Nat} (tail : List Byte) (h : bytes = leBytes 4 n ++ tail)
      (hn : n < 2 ^ 32) : leNat (bytes.take 4) = n := by
    rw [h, List.take_append_of_le_length (by rw [length_leBytes]),
      List.take_of_length_le (by rw [length_leBytes]), leNat_leBytes (by simpa using hn)]
  obtain ⟨magic, version, entryCount⟩ := header
  unfold ofBytes toBytes
  congr 1
  · exact hread _ (List.append_assoc _ _ _) hmagic
  · refine hread (leBytes 4 entryCount) ?_ hversion
    rw [List.append_assoc, List.drop_left' (length_leBytes 4 magic)]
  · refine hread [] ?_ hcount
    rw [List.append_nil]
    apply List.drop_left'
    simp

theorem countSavableModules_le (mods : List ModuleConfig) (blocks : ConfigBlocks) :
    countSavableModules mods blocks ≤ mods.length := by
  have hle := List.countP_le_length (p := isSavable blocks) (l := mods.zipIdx)
  rwa [List.length_zipIdx] at hle

variable [DecidableEq π]

/-- A file too short for a header has none, however often it is tried. -/
theorem configHeaderRetry_short {fs : Flash π} (hfs : fs.Sound) {path : π}
    (h : (fs.contents path).length < configFileHeaderSize) (n : Nat) :
    (configHeaderRetry path n fs).1 = none := by
  induction n with
  | zero => rfl
  | succ n ih =>
    unfold configHeaderRetry
    rw [wmSdkFileClose_sound hfs, wmSdkFileOpen_rb hfs]
    split
    · rfl
    · rename_i fp fs' heq
      split at heq
      · cases heq
        rw [wmSdkFileRead_sound hfs]
        dsimp only
        rw [if_neg]
        · exact ih
        · simp only [ReadReply.complete, Bool.true_and, beq_iff_eq, List.length_take,
            List.length_drop]
          omega
      · cases heq

/-- A load of a prefix of the image visits what is there of its entries. -/
theorem configVisits_saved {mods : List ModuleConfig} (hnames : DistinctNames mods)
    (hcount : mods.length < 2 ^ 32) {blocks : ConfigBlocks} (hb : blocks.Sized mods) {fs : Flash π}
    (hfs : fs.Sound) {path : π} {part : List Byte} (hpart : part <+: saveImage mods blocks)
    (hfile : fs.files path = some part) :
    configVisits mods path fs =
      savedVisits blocks configFileHeaderSize (savedModules mods blocks)
        (part.length - configFileHeaderSize) := by
  have hcontents := Flash.contents_of_files hfile
  have hheader := (saveHeader mods blocks).length_toBytes
  unfold configVisits
  rw [wmSdkFileOpen_rb_some hfs hfile]
  dsimp only
  unfold readConfigHeader
  rw [wmSdkFileRead_sound hfs]
  dsimp only
  rw [hcontents, List.drop_zero]
  by_cases hshort : part.length < configFileHeaderSize
  · have hzero : part.length - configFileHeaderSize = 0 := by omega
    rw [if_neg, hzero, savedVisits_zero]
    · rw [show (configHeaderRetry path 2 fs).1 = none from
        configHeaderRetry_short hfs (by rwa [hcontents]) 2]
    · simp only [ReadReply.complete, Bool.true_and, beq_iff_eq, List.length_take]
      omega
  · have hsplit : part = (saveHeader mods blocks).toBytes ++
        ((savedModules mods blocks).flatMap (entryBytes blocks)).take
          (part.length - configFileHeaderSize) := by
      conv_lhs => rw [List.prefix_iff_eq_take.mp hpart]
      rw [saveImage, List.take_append, List.take_of_length_le (by omega), hheader]
    have htake : part.take configFileHeaderSize = (saveHeader mods blocks).toBytes := by
      rw [hsplit, ← hheader, List.take_left]
    have hread :
        ConfigFileHeader.ofBytes (saveHeader mods blocks).toBytes = saveHeader mods blocks :=
      ConfigFileHeader.ofBytes_toBytes (show configFileMagic < 2 ^ 32 by decide)
        (show configFileVersion < 2 ^ 32 by decide)
        (lt_of_le_of_lt (countSavableModules_le mods blocks) hcount)
    have hsaved : ∀ p ∈ savedModules mods blocks, p ∈ mods.zipIdx ∧ p.1.isStored = true ∧
        (blocks p.2).length = p.1.configSize := by
      intro p hp
      obtain ⟨hmem, hsavable⟩ := List.mem_filter.mp hp
      simp only [isSavable, Bool.and_eq_true] at hsavable
      exact ⟨hmem, hsavable.1, hb p hmem⟩
    have hentries : (savedModules mods blocks).length ≤ countSavableModules mods blocks := by
      rw [countSavableModules, List.countP_eq_length_filter]
      exact le_refl _
    have hvisits := entryVisits_saved hnames hfs hsaved hentries (hcontents.trans hsplit) .rb
    rw [htake, if_pos (by simp [ReadReply.complete, hheader])]
    dsimp only
    rw [hread, if_neg (by simp [saveHeader]), hheader, Nat.zero_add]
    rw [hheader] at hvisits
    exact hvisits

/-! ## A save, a loss of power and a load -/

/-- Where the data of a module ends in the image of a save. -/
def savedEnd (mods : List ModuleConfig) (blocks : ConfigBlocks) (p : ModuleConfig × Nat) : Nat :=
  configFileHeaderSize + entryStart blocks (savedModules mods blocks) p.2 +
    (entryBytes blocks p).length

/-- Where the data of a module starts in the image of a save. -/
def savedStart (mods : List ModuleConfig) (blocks : ConfigBlocks) (p : ModuleConfig × Nat) : Nat :=
  configFileHeaderSize + entryStart blocks (savedModules mods blocks) p.2 + entryHeaderSize

/-- What a load after a boot gives for a prefix of the image. -/
structure Restored (mods : List ModuleConfig) (blocks loaded : ConfigBlocks) (length : Nat) :
    Prop where
  skipped : ∀ p ∈ mods.zipIdx, p.1.isStored = true → p.1.validates (blocks p.2) = false →
    HoldsDefaults p.1.defaults (loaded p.2)
  whole : ∀ p ∈ savedModules mods blocks, savedEnd mods blocks p ≤ length →
    loaded p.2 = blocks p.2
  missing : ∀ p ∈ savedModules mods blocks, length ≤ savedStart mods blocks p →
    HoldsDefaults p.1.defaults (loaded p.2)

theorem restored_of_prefix {mods : List ModuleConfig} (hnames : DistinctNames mods)
    (hcount : mods.length < 2 ^ 32) {blocks boot : ConfigBlocks} (hb : blocks.Sized mods)
    (hboot : boot.Sized mods) {fs : Flash π} (hfs : fs.Sound) {path : π} {part : List Byte}
    (hpart : part <+: saveImage mods blocks) (hfile : fs.files path = some part) :
    Restored mods blocks (configLoadFromFile mods path boot fs).1 part.length := by
  have hvisits := configVisits_saved hnames hcount hb hfs hpart hfile
  have hnodup := nodup_slots mods blocks
  have hsaved {p : ModuleConfig × Nat} (hp : p ∈ savedModules mods blocks) :
      p ∈ mods.zipIdx ∧ p.1.isStored = true ∧ p.1.validates (blocks p.2) = true := by
    obtain ⟨hmem, hsavable⟩ := List.mem_filter.mp hp
    simp only [isSavable, Bool.and_eq_true] at hsavable
    exact ⟨hmem, hsavable⟩
  have hlen : ∀ p ∈ savedModules mods blocks, (blocks p.2).length = p.1.configSize := by
    intro p hp
    exact hb p (hsaved hp).1
  have hlast {p : ModuleConfig × Nat} (hp : p ∈ savedModules mods blocks)
      (hsize : p.1.configSize ≠ 0) := lastVisit_savedVisits hnodup hlen hp hsize
        configFileHeaderSize (part.length - configFileHeaderSize)
  rw [← hvisits] at hlast
  refine ⟨?_, ?_, ?_⟩
  · intro p hp hstored hinvalid
    apply holdsDefaults_of_not_visited path boot fs hp hstored
    rintro v hv ⟨m, hslot⟩
    rw [hvisits] at hv
    obtain ⟨q, hq, hqslot⟩ := savedVisits_slot v hv
    rw [hslot, Option.some.injEq] at hqslot
    subst hqslot
    obtain ⟨hmem, -, hvalid⟩ := hsaved hq
    have heq := eq_of_mem_zipIdx hp hmem rfl
    rw [heq] at hinvalid
    dsimp only at hinvalid hvalid
    rw [hvalid] at hinvalid
    cases hinvalid
  · intro p hp hend
    obtain ⟨hmem, hstored, hvalid⟩ := hsaved hp
    by_cases hzero : p.1.configSize = 0
    · have hempty : blocks p.2 = [] := List.length_eq_zero_iff.mp ((hlen p hp).trans hzero)
      have hsized := (hboot.initializeModuleDefaults.foldl_applyVisit
        (fun v hv => (configVisits_inside mods path fs v hv).2)) p hmem
      rw [← configLoadFromFile_blocks, hzero] at hsized
      rw [hempty, List.length_eq_zero_iff.mp hsized]
    · have hbytes : (entryBytes blocks p).length = entryHeaderSize + p.1.configSize := by
        rw [entryBytes, if_neg hzero, List.length_append, List.length_append,
          length_utilsStrncpySafe, length_leBytes, List.length_take, hlen p hp, Nat.min_self]
        rfl
      unfold savedEnd at hend
      obtain ⟨pre, v, hl, hok, hsize, hdata⟩ := (hlast hp hzero).2 (by omega)
      obtain ⟨-, -, -, hblock, hloaded⟩ := hl.left hboot hmem
      have hwhole : v.data = blocks p.2 := by
        rw [hdata, List.take_of_length_le]
        rw [hlen p hp]
        omega
      have hcomplete : v.Complete p.1 := by
        refine ⟨hok, ?_⟩
        rw [hwhole, hsize, hlen p hp]
        exact (if_neg (lt_irrefl _)).symm
      have hoverlay (block : List Byte) (h : block.length = p.1.configSize) :
          overlay block v.data = blocks p.2 := by
        rw [overlay, hwhole, List.drop_of_length_le (by rw [hlen p hp, h]), List.append_nil]
      rw [hloaded]
      unfold ModuleConfig.loaded
      dsimp only
      rw [if_neg (not_not_intro hcomplete), hoverlay _ (p.1.length_getDefaults hblock),
        if_pos hvalid]
  · intro p hp hstart
    obtain ⟨hmem, hstored, -⟩ := hsaved hp
    by_cases hzero : p.1.configSize = 0
    · have hnil : p.1.defaults = [] :=
        List.length_eq_zero_iff.mp (p.1.length_defaults.trans hzero)
      rw [hnil]
      exact fun _ hq => absurd hq (by simp)
    · unfold savedStart at hstart
      by_cases hnone : part.length - configFileHeaderSize <
          entryStart blocks (savedModules mods blocks) p.2 + entryHeaderSize
      · exact holdsDefaults_of_not_visited path boot fs hmem hstored ((hlast hp hzero).1 hnone)
      · obtain ⟨pre, v, hl, hok, hsize, hdata⟩ := (hlast hp hzero).2 (by omega)
        obtain ⟨-, -, -, hblock, hloaded⟩ := hl.left hboot hmem
        have hempty : v.data = [] := by
          rw [hdata, List.take_eq_nil_iff]
          left
          omega
        have hincomplete : ¬ v.Complete p.1 := by
          rintro ⟨-, hdone⟩
          rw [hempty, hsize, List.length_nil] at hdone
          exact hzero (hdone.trans (if_neg (lt_irrefl _))).symm
        rw [hloaded]
        unfold ModuleConfig.loaded
        dsimp only
        rw [if_pos hincomplete, hempty, overlay, List.nil_append, List.length_nil, List.drop_zero]
        exact p.1.holdsDefaults_getDefaults _

/-- Every entry ends inside the entries. -/
theorem entryStart_add_le (blocks : ConfigBlocks) {ps : List (ModuleConfig × Nat)}
    (hnodup : (ps.map Prod.snd).Nodup) {p : ModuleConfig × Nat} (hp : p ∈ ps) :
    entryStart blocks ps p.2 + (entryBytes blocks p).length ≤
      (ps.flatMap (entryBytes blocks)).length := by
  induction ps with
  | nil => cases hp
  | cons q ps ih =>
    rw [List.map_cons, List.nodup_cons] at hnodup
    rw [List.flatMap_cons, List.length_append]
    rcases List.mem_cons.mp hp with rfl | hp
    · simp [entryStart]
    · have hne : q.2 ≠ p.2 := by
        intro heq
        apply hnodup.1
        rw [heq]
        exact List.mem_map_of_mem hp
      have hstart : entryStart blocks (q :: ps) p.2 =
          (entryBytes blocks q).length + entryStart blocks ps p.2 := by
        simp [entryStart, hne]
      have hrest := ih hnodup.2 hp
      omega

theorem savedEnd_le (mods : List ModuleConfig) (blocks : ConfigBlocks) {p : ModuleConfig × Nat}
    (hp : p ∈ savedModules mods blocks) :
    savedEnd mods blocks p ≤ (saveImage mods blocks).length := by
  have hle := entryStart_add_le blocks (nodup_slots mods blocks) hp
  rw [saveImage, List.length_append, ConfigFileHeader.length_toBytes]
  unfold savedEnd
  omega

/-- For every registry with distinct names, all values of the configurations and every
answer of the driver during the save, read after a boot on which the driver does not
fail: a save that succeeds and has something to save brings back the stored modules that
pass their check, and leaves the others at their defaults. Otherwise the files are as
before, or the file holds a prefix of the image, from which the modules come back whose
data it has, and those whose data it has not started have their defaults. -/
theorem config_save_then_load {mods : List ModuleConfig} (hnames : DistinctNames mods)
    (hcount : mods.length < 2 ^ 32) (path : π) {blocks boot : ConfigBlocks}
    (hb : blocks.Sized mods) (hboot : boot.Sized mods) (fs : Flash π) :
    let save := configSaveToFile mods path blocks fs
    let loaded := (configLoadFromFile mods path boot ⟨save.2.files, []⟩).1
    (save.1 = .success → 0 < countSavableModules mods blocks →
        ∀ p ∈ mods.zipIdx, p.1.isStored = true →
          (p.1.validates (blocks p.2) = true → loaded p.2 = blocks p.2) ∧
            (p.1.validates (blocks p.2) = false → HoldsDefaults p.1.defaults (loaded p.2))) ∧
      (save.2.files = fs.files ∨
        ∃ part, part <+: saveImage mods blocks ∧ save.2.files path = some part ∧
          Restored mods blocks loaded part.length) := by
  intro save loaded
  have hrestored {part : List Byte} (hpart : part <+: saveImage mods blocks)
      (hfile : save.2.files path = some part) : Restored mods blocks loaded part.length :=
    restored_of_prefix hnames hcount hb hboot (rfl : Flash.Sound (⟨save.2.files, []⟩ : Flash π))
      hpart hfile
  rcases configSaveToFile_files hb path fs with ⟨hsame, hnothing⟩ | ⟨part, hpart, hfile, hall⟩
  · refine ⟨?_, Or.inl hsame⟩
    intro hsuccess hpos
    have hzero := hnothing hsuccess
    omega
  · refine ⟨?_, Or.inr ⟨part, hpart, hfile, hrestored hpart hfile⟩⟩
    intro hsuccess _ p hp hstored
    have hwhole := hrestored hpart hfile
    rw [hall hsuccess] at hwhole
    refine ⟨?_, hwhole.skipped p hp hstored⟩
    intro hvalid
    have hsaved : p ∈ savedModules mods blocks := by
      refine List.mem_filter.mpr ⟨hp, ?_⟩
      rw [isSavable, hstored, hvalid]
      rfl
    exact hwhole.whole p hsaved (savedEnd_le mods blocks hsaved)

/-- Two stored modules. -/
def commandAndSms : List ModuleConfig := [commandModule, smsModule]

/-- Their blocks with a password, and SMS in PDU mode. -/
def commandAndSmsBlocks (password : String) : ConfigBlocks
  | 0 => setField commandModule.defaultBlock authPasswordOffset
      (utilsStrncpySafe authPasswordSize (asciiBytes password)).toList
  | _ => leBytes 4 0 ++ leBytes 4 500

/-- Their blocks before a boot. -/
def commandAndSmsZero : ConfigBlocks
  | 0 => List.replicate 36 0
  | _ => List.replicate 8 0

/-- A password survives a save and a boot. -/
theorem config_save_then_load_password :
    let save := configSaveToFile commandAndSms () (commandAndSmsBlocks "a") ⟨fun _ => none, []⟩
    (configLoadFromFile commandAndSms () commandAndSmsZero ⟨save.2.files, []⟩).1 0 =
      commandAndSmsBlocks "a" 0 := by
  have hsized : (commandAndSmsBlocks "a").Sized commandAndSms ∧
      commandAndSmsZero.Sized commandAndSms := by
    unfold ConfigBlocks.Sized commandAndSms
    simp only [List.zipIdx_cons, List.zipIdx_nil, List.forall_mem_cons]
    decide +kernel
  have hrun := config_save_then_load (by unfold DistinctNames; decide +kernel) (by decide) ()
    hsized.1 hsized.2 ⟨fun _ => none, []⟩
  exact ((hrun.1 (by decide +kernel) (by decide +kernel)) (commandModule, 0)
    (by simp [commandAndSms]) rfl).1 (by decide +kernel)

/-- Power that is lost after the file was opened for the second save: the password is
the default, neither the first nor the second. And a save that finds no valid
configuration succeeds and leaves the file, so a module that fails its check is loaded. -/
theorem config_save_loses_both :
    let first := configSaveToFile commandAndSms () (commandAndSmsBlocks "a") ⟨fun _ => none, []⟩
    let second := configSaveToFile commandAndSms () (commandAndSmsBlocks "b")
      ⟨first.2.files, [.success, .fail 0]⟩
    let loaded := (configLoadFromFile commandAndSms () commandAndSmsZero ⟨second.2.files, []⟩).1
    let third := configSaveToFile commandAndSms () commandAndSmsZero ⟨first.2.files, []⟩
    let stale := (configLoadFromFile commandAndSms () commandAndSmsZero ⟨third.2.files, []⟩).1
    (first.1 = .success ∧ second.1 = .error ∧ loaded 0 ≠ commandAndSmsBlocks "a" 0 ∧
        loaded 0 ≠ commandAndSmsBlocks "b" 0 ∧ loaded 0 = commandModule.defaultBlock) ∧
      (third.1 = .success ∧ commandModule.validates (commandAndSmsZero 0) = false ∧
        ¬ HoldsDefaults commandModule.defaults (stale 0)) := by
  decide +kernel

end WalnutGateway
