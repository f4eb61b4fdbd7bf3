import WalnutGateway.Config.Modules

/-!
# What a load leaves in the blocks

The loader walks over the entries of the file. Where it goes depends on the file
and on the answers of the driver, not on the blocks, so a load is a walk that
collects visits, and then the visits applied to the blocks one after the other.
The last visit of a module decides what its block holds.
-/

namespace WalnutGateway

/-! ## Defaults and overlays -/

/-- Where the defaults write a byte, it is there. -/
def HoldsDefaults (defaults : List (Option Byte)) (bytes : List Byte) : Prop :=
  ∀ p ∈ defaults.zip bytes, ∀ x ∈ p.1, p.2 = x

instance (defaults : List (Option Byte)) (bytes : List Byte) :
    Decidable (HoldsDefaults defaults bytes) :=
  decidable_of_iff ((defaults.zip bytes).all fun p => p.1.all (p.2 == ·)) (by
    simp [HoldsDefaults, List.all_eq_true, Option.all_eq_true])

theorem holdsDefaults_cons {d : Option Byte} {ds : List (Option Byte)} {b : Byte} {bs : List Byte} :
    HoldsDefaults (d :: ds) (b :: bs) ↔ (∀ x ∈ d, b = x) ∧ HoldsDefaults ds bs := by
  simp only [HoldsDefaults, List.zip_cons_cons, List.forall_mem_cons]

theorem length_overlay {block data : List Byte} (h : data.length ≤ block.length) :
    (overlay block data).length = block.length := by
  simp only [overlay, List.length_append, List.length_drop]
  omega

/-- Bytes that are defaults, put over defaults, leave defaults, and no others do. -/
theorem holdsDefaults_overlay {defaults : List (Option Byte)} {block : List Byte}
    (hblock : HoldsDefaults defaults block) (data : List Byte) (hlen : data.length ≤ block.length) :
    HoldsDefaults defaults (overlay block data) ↔ HoldsDefaults defaults data := by
  induction data generalizing defaults block with
  | nil => simpa [overlay, HoldsDefaults] using hblock
  | cons b bs ih =>
    cases defaults with
    | nil => simp [HoldsDefaults]
    | cons d ds =>
      cases block with
      | nil => simp at hlen
      | cons c cs =>
        rw [holdsDefaults_cons] at hblock
        have hrest := ih hblock.2 (by simpa using hlen)
        change HoldsDefaults (d :: ds) (b :: overlay cs bs) ↔ _
        rw [holdsDefaults_cons, holdsDefaults_cons, hrest]

namespace ModuleConfig

variable (m : ModuleConfig)

theorem length_getDefaults {block : List Byte} (h : block.length = m.configSize) :
    (m.getDefaults block).length = m.configSize := by
  rw [getDefaults, List.length_zipWith, m.length_defaults, h, Nat.min_self]

theorem holdsDefaults_getDefaults (block : List Byte) :
    HoldsDefaults m.defaults (m.getDefaults block) := by
  unfold getDefaults
  generalize m.defaults = defaults
  induction defaults generalizing block with
  | nil => simp [HoldsDefaults]
  | cons d ds ih =>
    cases block with
    | nil => simp [HoldsDefaults]
    | cons b bs =>
      rw [List.zipWith_cons_cons, holdsDefaults_cons]
      refine ⟨?_, ih bs⟩
      intro x hx
      rw [Option.mem_def.mp hx, Option.getD_some]

theorem loadSize_le (n : Nat) : m.loadSize n ≤ m.configSize := by
  unfold loadSize
  split <;> omega

theorem loadSize_le_self (n : Nat) : m.loadSize n ≤ n := by
  unfold loadSize
  split <;> omega

end ModuleConfig

/-! ## The walk -/

/-- What the loop found at one place of the file. -/
structure EntryVisit where
  /-- Where the entry starts. -/
  start : Nat
  name : List Byte
  /-- The size it declares. -/
  size : Nat
  /-- The module it is loaded into, with its slot. -/
  slot : Option (ModuleConfig × Nat)
  /-- What the driver delivered of its data, and whether as a success. -/
  data : List Byte
  ok : Bool

namespace EntryVisit

/-- The entry is loaded into the module in slot `i`. -/
def On (v : EntryVisit) (i : Nat) : Prop := ∃ m, v.slot = some (m, i)

/-- The entry was read completely, as far as it concerns the module. -/
def Complete (v : EntryVisit) (m : ModuleConfig) : Prop :=
  v.ok = true ∧ v.data.length = m.loadSize v.size

instance (v : EntryVisit) (m : ModuleConfig) : Decidable (v.Complete m) :=
  inferInstanceAs (Decidable (_ ∧ _))

/-- The entry is loaded into a stored module, in its slot, and its block has room. -/
def Fits (v : EntryVisit) (mods : List ModuleConfig) : Prop :=
  ∀ p, v.slot = some p →
    p ∈ mods.zipIdx ∧ p.1.isStored = true ∧ v.data.length ≤ p.1.configSize

/-- Everything that was read for the entry lies inside it. -/
structure Inside (v : EntryVisit) (contents : List Byte) : Prop where
  name : v.name = (contents.drop v.start).take moduleNameMaxSize
  size : v.size = leNat ((contents.drop (v.start + moduleNameMaxSize)).take 4)
  data : v.data <+: (contents.drop (v.start + moduleNameMaxSize + 4)).take v.size

end EntryVisit

/-- The result of `load_module_config` for a visit, and the block. -/
def ModuleConfig.loaded (m : ModuleConfig) (block : List Byte) (v : EntryVisit) :
    Result × List Byte :=
  let block := overlay (m.getDefaults block) v.data
  if ¬ v.Complete m then (.error, block)
  else if m.validates block then (.success, block)
  else (.error, m.getDefaults block)

/-- A visit applied to the blocks. -/
def applyVisit (blocks : ConfigBlocks) (v : EntryVisit) : ConfigBlocks :=
  match v.slot with
  | none => blocks
  | some (m, i) => Function.update blocks i (m.loaded (blocks i) v).2

variable {π : Type}

/-- The entries that the loop visits, with the number of entries left. -/
def entryVisits (mods : List ModuleConfig) : Nat → Flash π → FileHandle π → List EntryVisit
  | 0, _, _ => []
  | n + 1, fs, fp =>
    match readConfigEntry fs fp with
    | (none, _, _) => []
    | (some (name, size), fp', fs') =>
      match (findModuleByName mods name).filter fun p => p.1.isStored with
      | none =>
        let k := wmSdkFileSeekCur fs' fp' (uint32ToInt32 size)
        ⟨fp.pos, name, size, none, [], true⟩ :: entryVisits mods n k.2 k.1
      | some p =>
        let r := wmSdkFileRead fs' fp' (p.1.loadSize size)
        let s := skipRest r size (p.1.loadSize size)
        ⟨fp.pos, name, size, some p, r.data, r.ok⟩ :: entryVisits mods n s.2 s.1

/-- The module an entry is loaded into is stored and in its slot. -/
theorem of_findModuleByName {mods : List ModuleConfig} {name : List Byte} {p : ModuleConfig × Nat}
    (h : (findModuleByName mods name).filter (fun p => p.1.isStored) = some p) :
    p ∈ mods.zipIdx ∧ p.1.isStored = true ∧ p.1.name = cString name := by
  obtain ⟨hfind, hstored⟩ := Option.filter_eq_some_iff.mp h
  refine ⟨List.mem_of_find?_eq_some hfind, hstored, ?_⟩
  simpa using List.find?_some hfind

/-- `load_module_config` on a stored module is a read, a skip and what the visit does. -/
theorem loadModuleConfig_eq (fs : Flash π) (fp : FileHandle π) {m : ModuleConfig}
    (hm : m.isStored = true) (block : List Byte) (start : Nat) (name : List Byte) (size : Nat) :
    let r := wmSdkFileRead fs fp (m.loadSize size)
    let s := skipRest r size (m.loadSize size)
    let b := m.loaded block ⟨start, name, size, none, r.data, r.ok⟩
    loadModuleConfig fs fp m block size = ⟨b.1, b.2, s.1, s.2⟩ := by
  have hptr : m.configPtr = true := by
    simp only [ModuleConfig.isStored, Bool.and_eq_true] at hm
    exact hm.1.1
  intro r s b
  have hcomplete : r.complete (m.loadSize size) = true ↔
      EntryVisit.Complete ⟨start, name, size, none, r.data, r.ok⟩ m := by
    simp only [ReadReply.complete, EntryVisit.Complete, Bool.and_eq_true, beq_iff_eq]
  unfold loadModuleConfig
  rw [if_neg (not_not_intro hptr)]
  change (if ¬ r.complete (m.loadSize size) = true then _ else _) = _
  simp only [b, ModuleConfig.loaded, hcomplete]
  split
  · rfl
  · split <;> rfl

/-- The blocks after the loop are the visits applied to the blocks before it. -/
theorem configLoadEntries_blocks (mods : List ModuleConfig) (n : Nat) (s : LoadState π) :
    (configLoadEntries mods n s).blocks =
      (entryVisits mods n s.flash s.fp).foldl applyVisit s.blocks := by
  induction n generalizing s with
  | zero => rfl
  | succ n ih =>
    unfold configLoadEntries entryVisits
    cases hentry : readConfigEntry s.flash s.fp with
    | mk entry next =>
      cases entry with
      | none => rfl
      | some e =>
        cases hfind : (findModuleByName mods e.1).filter fun p => p.1.isStored with
        | none =>
          simp only [hfind, ih, List.foldl_cons]
          rfl
        | some p =>
          have hload := loadModuleConfig_eq next.2 next.1 (of_findModuleByName hfind).2.1
            (s.blocks p.2) s.fp.pos e.1 e.2
          simp only [hfind, ih, List.foldl_cons, hload]
          rfl

/-! ## Every read is inside its entry -/

theorem skipRest_frame (r : ReadReply π) (n k : Nat) :
    (skipRest r n k).1.path = r.fp.path ∧ (skipRest r n k).2.files = r.flash.files := by
  unfold skipRest
  split
  · exact ⟨wmSdkFileSeekCur_path _ _ _, wmSdkFileSeekCur_files _ _ _⟩
  · exact ⟨rfl, rfl⟩

/-- A complete read gives exactly the bytes asked for. -/
theorem ReadReply.complete_data {fs : Flash π} {fp : FileHandle π} {size : Nat}
    (h : (wmSdkFileRead fs fp size).complete size = true) :
    (wmSdkFileRead fs fp size).data = ((fs.contents fp.path).drop fp.pos).take size ∧
      (wmSdkFileRead fs fp size).data.length = size ∧
      (wmSdkFileRead fs fp size).fp = { fp with pos := fp.pos + size } := by
  obtain ⟨hdata, hfp⟩ := wmSdkFileRead_data fs fp size
  simp only [ReadReply.complete, Bool.and_eq_true, beq_iff_eq] at h
  rw [h.2] at hfp
  refine ⟨hdata.eq_of_length_le ?_, h.2, hfp⟩
  rw [h.2]
  exact List.length_take_le ..

/-- An entry header that was read is the one at the handle, which moves behind it. -/
theorem readConfigEntry_some {fs fs' : Flash π} {fp fp' : FileHandle π} {name : List Byte}
    {size : Nat} (h : readConfigEntry fs fp = (some (name, size), fp', fs')) :
    name = ((fs.contents fp.path).drop fp.pos).take moduleNameMaxSize ∧
      size = leNat (((fs.contents fp.path).drop (fp.pos + moduleNameMaxSize)).take 4) ∧
      fp' = { fp with pos := fp.pos + moduleNameMaxSize + 4 } ∧ fs'.files = fs.files := by
  unfold readConfigEntry at h
  dsimp only at h
  have hname := wmSdkFileRead_files fs fp moduleNameMaxSize
  split at h
  · cases h
  · rename_i hn
    obtain ⟨hn, -, hnext⟩ := ReadReply.complete_data (not_not.mp hn)
    split at h
    · cases h
    · rename_i hs
      obtain ⟨hs, -, hlast⟩ := ReadReply.complete_data (not_not.mp hs)
      cases h
      refine ⟨hn, ?_, ?_, (wmSdkFileRead_files _ _ _).trans hname⟩
      · rw [hs, hnext, Flash.contents, hname, Flash.contents]
      · rw [hlast, hnext]

/-- Every visit reads inside its entry, and loads into a stored module no more than
its block holds. -/
theorem entryVisits_inside (mods : List ModuleConfig) (n : Nat) (fs : Flash π)
    (fp : FileHandle π) : ∀ v ∈ entryVisits mods n fs fp,
      v.Inside (fs.contents fp.path) ∧ v.Fits mods := by
  induction n generalizing fs fp with
  | zero => exact fun _ hv => absurd hv List.not_mem_nil
  | succ n ih =>
    have hkeep {fs' : Flash π} {fp' : FileHandle π} (hpath : fp'.path = fp.path)
        (hfiles : fs'.files = fs.files) : ∀ v ∈ entryVisits mods n fs' fp',
        v.Inside (fs.contents fp.path) ∧ v.Fits mods := by
      intro v hv
      have hin := ih fs' fp' v hv
      rw [Flash.contents, hpath, hfiles] at hin
      exact hin
    intro v hv
    unfold entryVisits at hv
    cases hentry : readConfigEntry fs fp with
    | mk entry next =>
      cases entry with
      | none =>
        rw [hentry] at hv
        cases hv
      | some e =>
        obtain ⟨hname, hsize, hfp, hfiles⟩ := readConfigEntry_some hentry
        cases hfind : (findModuleByName mods e.1).filter fun p => p.1.isStored with
        | none =>
          simp only [hentry, hfind] at hv
          rcases List.mem_cons.mp hv with rfl | hv
          · refine ⟨⟨hname, hsize, List.nil_prefix⟩, ?_⟩
            rintro q ⟨⟩
          · apply hkeep _ _ v hv
            · rw [wmSdkFileSeekCur_path, hfp]
            · rw [wmSdkFileSeekCur_files, hfiles]
        | some p =>
          simp only [hentry, hfind] at hv
          rcases List.mem_cons.mp hv with rfl | hv
          · obtain ⟨hdata, -⟩ := wmSdkFileRead_data next.2 next.1 (p.1.loadSize e.2)
            obtain ⟨hmem, hstored, -⟩ := of_findModuleByName hfind
            refine ⟨⟨hname, hsize, hdata.trans ?_⟩, ?_⟩
            · rw [Flash.contents, hfiles, hfp]
              exact List.take_prefix_take_left (p.1.loadSize_le_self e.2)
            · rintro q ⟨⟩
              refine ⟨hmem, hstored, hdata.length_le.trans ?_⟩
              exact (List.length_take_le ..).trans (p.1.loadSize_le e.2)
          · obtain ⟨hpath, hskip⟩ := skipRest_frame
              (wmSdkFileRead next.2 next.1 (p.1.loadSize e.2)) e.2 (p.1.loadSize e.2)
            apply hkeep _ _ v hv
            · rw [hpath, (wmSdkFileRead_data _ _ _).2, hfp]
            · rw [hskip, wmSdkFileRead_files, hfiles]

/-- No more entries are visited than the header counts. -/
theorem length_entryVisits_le (mods : List ModuleConfig) (n : Nat) (fs : Flash π)
    (fp : FileHandle π) : (entryVisits mods n fs fp).length ≤ n := by
  induction n generalizing fs fp with
  | zero => exact Nat.le_refl 0
  | succ n ih =>
    unfold entryVisits
    split
    · exact Nat.zero_le _
    · split
      · exact Nat.succ_le_succ (ih _ _)
      · exact Nat.succ_le_succ (ih _ _)

/-! ## The last visit decides -/

/-- The last visit to slot `i`, with the visits before it. -/
def LastVisit (visits : List EntryVisit) (i : Nat) (pre : List EntryVisit) (v : EntryVisit) :
    Prop :=
  ∃ post, visits = pre ++ v :: post ∧ v.On i ∧ ∀ w ∈ post, ¬ w.On i

theorem applyVisit_of_not_on (blocks : ConfigBlocks) {v : EntryVisit} {i : Nat} (h : ¬ v.On i) :
    applyVisit blocks v i = blocks i := by
  unfold applyVisit
  cases hslot : v.slot with
  | none => rfl
  | some p =>
    apply Function.update_of_ne
    rintro rfl
    exact h ⟨p.1, hslot⟩

theorem foldl_applyVisit_of_not_on (visits : List EntryVisit) (blocks : ConfigBlocks) {i : Nat}
    (h : ∀ w ∈ visits, ¬ w.On i) : visits.foldl applyVisit blocks i = blocks i := by
  induction visits generalizing blocks with
  | nil => rfl
  | cons v visits ih =>
    rw [List.forall_mem_cons] at h
    rw [List.foldl_cons, ih _ h.2, applyVisit_of_not_on blocks h.1]

/-- After its last visit a slot keeps what that visit left. -/
theorem LastVisit.foldl_applyVisit {visits pre : List EntryVisit} {m : ModuleConfig} {i : Nat}
    {v : EntryVisit} (h : LastVisit visits i pre v) (hslot : v.slot = some (m, i))
    (blocks : ConfigBlocks) :
    visits.foldl applyVisit blocks i = (m.loaded (pre.foldl applyVisit blocks i) v).2 := by
  obtain ⟨post, rfl, -, hpost⟩ := h
  rw [List.foldl_append, List.foldl_cons, foldl_applyVisit_of_not_on post _ hpost, applyVisit,
    hslot]
  exact Function.update_self ..

theorem LastVisit.cons {visits pre : List EntryVisit} {i : Nat} {v : EntryVisit}
    (h : LastVisit visits i pre v) (w : EntryVisit) : LastVisit (w :: visits) i (w :: pre) v := by
  obtain ⟨post, heq, hon, hpost⟩ := h
  refine ⟨post, ?_, hon, hpost⟩
  rw [heq, List.cons_append]

/-- There is one last visit. -/
theorem LastVisit.unique {visits pre pre' : List EntryVisit} {i : Nat} {v v' : EntryVisit}
    (h : LastVisit visits i pre v) (h' : LastVisit visits i pre' v') : v = v' := by
  obtain ⟨post, rfl, hon, hpost⟩ := h
  obtain ⟨post', heq, hon', hpost'⟩ := h'
  induction pre generalizing pre' with
  | nil =>
    cases pre' with
    | nil => exact (List.cons.inj heq).1
    | cons w pre' =>
      refine absurd hon' (hpost v' ?_)
      rw [(List.cons.inj heq).2]
      simp
  | cons u pre ih =>
    cases pre' with
    | nil =>
      refine absurd hon (hpost' v ?_)
      rw [← (List.cons.inj heq).2]
      simp
    | cons w pre' => exact ih (List.cons.inj heq).2

/-- A slot is never visited, or there is a last visit to it. -/
theorem exists_lastVisit (visits : List EntryVisit) (i : Nat) :
    (∀ w ∈ visits, ¬ w.On i) ∨ ∃ pre v, LastVisit visits i pre v := by
  induction visits with
  | nil => exact Or.inl fun _ hw => absurd hw List.not_mem_nil
  | cons w visits ih =>
    rcases ih with hnone | ⟨pre, v, post, rfl, hon, hpost⟩
    · by_cases hw : w.On i
      · exact Or.inr ⟨[], w, visits, rfl, hw, hnone⟩
      · exact Or.inl (List.forall_mem_cons.mpr ⟨hw, hnone⟩)
    · exact Or.inr ⟨w :: pre, v, post, rfl, hon, hpost⟩

/-! ## The blocks keep their sizes -/

/-- A slot holds one module. -/
theorem eq_of_mem_zipIdx {mods : List ModuleConfig} {p q : ModuleConfig × Nat}
    (hp : p ∈ mods.zipIdx) (hq : q ∈ mods.zipIdx) (h : p.2 = q.2) : p = q := by
  rw [List.mem_zipIdx_iff_getElem?] at hp hq
  rw [h, hq, Option.some.injEq] at hp
  exact Prod.ext hp.symm h

theorem ModuleConfig.length_loaded (m : ModuleConfig) {block : List Byte} {v : EntryVisit}
    (hblock : block.length = m.configSize) (hdata : v.data.length ≤ m.configSize) :
    (m.loaded block v).2.length = m.configSize := by
  have hdefaults := m.length_getDefaults hblock
  have hoverlay : (overlay (m.getDefaults block) v.data).length = m.configSize :=
    (length_overlay (by omega)).trans hdefaults
  unfold ModuleConfig.loaded
  dsimp only
  split_ifs
  · exact hoverlay
  · exact m.length_getDefaults hoverlay
  · exact hoverlay

theorem ConfigBlocks.Sized.applyVisit {mods : List ModuleConfig} {blocks : ConfigBlocks}
    (h : blocks.Sized mods) {v : EntryVisit} (hv : v.Fits mods) :
    (applyVisit blocks v).Sized mods := by
  intro p hp
  unfold WalnutGateway.applyVisit
  cases hslot : v.slot with
  | none => exact h p hp
  | some q =>
    obtain ⟨hq, -, hdata⟩ := hv q hslot
    by_cases hi : p.2 = q.2
    · obtain rfl := eq_of_mem_zipIdx hp hq hi
      change (Function.update blocks p.2 (p.1.loaded (blocks p.2) v).2 p.2).length = p.1.configSize
      rw [Function.update_self]
      exact p.1.length_loaded (h p hp) hdata
    · change (Function.update blocks q.2 (q.1.loaded (blocks q.2) v).2 p.2).length = p.1.configSize
      rw [Function.update_of_ne hi]
      exact h p hp

theorem ConfigBlocks.Sized.foldl_applyVisit {mods : List ModuleConfig} {blocks : ConfigBlocks}
    (h : blocks.Sized mods) {visits : List EntryVisit} (hv : ∀ v ∈ visits, v.Fits mods) :
    (visits.foldl WalnutGateway.applyVisit blocks).Sized mods := by
  induction visits generalizing blocks with
  | nil => exact h
  | cons v visits ih =>
    rw [List.forall_mem_cons] at hv
    exact ih (h.applyVisit hv.1) hv.2

theorem initializeModuleDefaults_of_mem {mods : List ModuleConfig} (blocks : ConfigBlocks)
    {p : ModuleConfig × Nat} (hp : p ∈ mods.zipIdx) :
    initializeModuleDefaults mods blocks p.2 =
      if p.1.configPtr then p.1.getDefaults (blocks p.2) else blocks p.2 := by
  rw [List.mem_zipIdx_iff_getElem?] at hp
  rw [initializeModuleDefaults, hp]
  rfl

theorem ConfigBlocks.Sized.initializeModuleDefaults {mods : List ModuleConfig}
    {blocks : ConfigBlocks} (h : blocks.Sized mods) :
    (initializeModuleDefaults mods blocks).Sized mods := by
  intro p hp
  rw [initializeModuleDefaults_of_mem blocks hp]
  split
  · exact p.1.length_getDefaults (h p hp)
  · exact h p hp

theorem ModuleConfig.configPtr_of_isStored {m : ModuleConfig} (h : m.isStored = true) :
    m.configPtr = true := by
  simp only [isStored, Bool.and_eq_true] at h
  exact h.1.1

theorem holdsDefaults_initializeModuleDefaults {mods : List ModuleConfig} (blocks : ConfigBlocks)
    {p : ModuleConfig × Nat} (hp : p ∈ mods.zipIdx) (hm : p.1.isStored = true) :
    HoldsDefaults p.1.defaults (initializeModuleDefaults mods blocks p.2) := by
  rw [initializeModuleDefaults_of_mem blocks hp, if_pos (ModuleConfig.configPtr_of_isStored hm)]
  exact p.1.holdsDefaults_getDefaults _

/-! ## The visits of a load -/

variable [DecidableEq π]

theorem configHeaderRetry_files (path : π) (n : Nat) (fs : Flash π) :
    (configHeaderRetry path n fs).2.files = fs.files := by
  induction n generalizing fs with
  | zero => rfl
  | succ n ih =>
    have hopen :=
      (wmSdkFileOpen_rb_files (wmSdkFileClose fs).2 path).trans (wmSdkFileClose_files fs)
    unfold configHeaderRetry
    cases ho : wmSdkFileOpen (wmSdkFileClose fs).2 path .rb with
    | mk file fs' =>
      rw [ho] at hopen
      cases file with
      | none => exact hopen
      | some file =>
        have hread := (wmSdkFileRead_files fs' file configFileHeaderSize).trans hopen
        dsimp only
        split
        · exact hread
        · exact (ih _).trans hread

/-- Reading the header changes no file, and leaves the handle on its file. -/
theorem readConfigHeader_frame (fs : Flash π) (fp : FileHandle π) :
    (readConfigHeader fs fp).2.1.path = fp.path ∧
      (readConfigHeader fs fp).2.2.files = fs.files := by
  have hpath := congrArg FileHandle.path (wmSdkFileRead_data fs fp configFileHeaderSize).2
  have hfiles := wmSdkFileRead_files fs fp configFileHeaderSize
  unfold readConfigHeader
  dsimp only
  split
  · exact ⟨hpath, hfiles⟩
  · exact ⟨hpath, (configHeaderRetry_files _ _ _).trans hfiles⟩

/-- The entries that `config_load_from_file` visits; none unless it opens the file
and accepts the header. -/
def configVisits (mods : List ModuleConfig) (path : π) (fs : Flash π) : List EntryVisit :=
  match wmSdkFileOpen fs path .rb with
  | (none, _) => []
  | (some fp, fs) =>
    match readConfigHeader fs fp with
    | (none, _, _) => []
    | (some header, fp, fs) =>
      if header.magic ≠ configFileMagic ∨ header.version ≠ configFileVersion then []
      else entryVisits mods header.entryCount fs fp

theorem configVisits_inside (mods : List ModuleConfig) (path : π) (fs : Flash π) :
    ∀ v ∈ configVisits mods path fs, v.Inside (fs.contents path) ∧ v.Fits mods := by
  intro v hv
  have hopen := wmSdkFileOpen_rb_files fs path
  unfold configVisits at hv
  cases ho : wmSdkFileOpen fs path .rb with
  | mk file fs' =>
    rw [ho] at hopen hv
    cases file with
    | none => cases hv
    | some file =>
      obtain rfl : file = ⟨path, .rb, 0⟩ := wmSdkFileOpen_handle (congrArg Prod.fst ho)
      obtain ⟨hpath, hfiles⟩ := readConfigHeader_frame fs' ⟨path, .rb, 0⟩
      cases hh : readConfigHeader fs' ⟨path, .rb, 0⟩ with
      | mk header next =>
        rw [hh] at hpath hfiles
        simp only [hh] at hv
        cases header with
        | none => cases hv
        | some header =>
          dsimp only at hv
          split at hv
          · cases hv
          · have hin := entryVisits_inside mods header.entryCount next.2 next.1 v hv
            rw [Flash.contents, hpath, hfiles, hopen] at hin
            exact hin

/-- The blocks after a load: the defaults, and then the visits. -/
theorem configLoadFromFile_blocks (mods : List ModuleConfig) (path : π) (blocks : ConfigBlocks)
    (fs : Flash π) : (configLoadFromFile mods path blocks fs).1 =
      (configVisits mods path fs).foldl applyVisit (initializeModuleDefaults mods blocks) := by
  unfold configLoadFromFile configVisits
  cases wmSdkFileOpen fs path .rb with
  | mk file fs' =>
    cases file with
    | none => rfl
    | some file =>
      dsimp only
      cases readConfigHeader fs' file with
      | mk header next =>
        cases header with
        | none => rfl
        | some header =>
          dsimp only
          by_cases hmagic : header.magic ≠ configFileMagic
          · rw [if_pos hmagic, if_pos (Or.inl hmagic)]
            rfl
          · by_cases hversion : header.version ≠ configFileVersion
            · rw [if_neg hmagic, if_pos hversion, if_pos (Or.inr hversion)]
              rfl
            · rw [if_neg hmagic, if_neg hversion, if_neg (not_or_intro hmagic hversion),
                ← configLoadEntries_blocks mods header.entryCount
                  ⟨initializeModuleDefaults mods blocks, next.1, next.2, false, false⟩]
              split <;> rfl

/-- What the last visit of a module leaves in its block. -/
theorem LastVisit.left {mods : List ModuleConfig} {path : π} {blocks : ConfigBlocks}
    (hb : blocks.Sized mods) {fs : Flash π} {p : ModuleConfig × Nat} (hp : p ∈ mods.zipIdx)
    {pre : List EntryVisit} {v : EntryVisit}
    (hl : LastVisit (configVisits mods path fs) p.2 pre v) :
    let block := pre.foldl applyVisit (initializeModuleDefaults mods blocks) p.2
    v ∈ configVisits mods path fs ∧ v.slot = some p ∧ v.data.length ≤ p.1.configSize ∧
      block.length = p.1.configSize ∧
      (configLoadFromFile mods path blocks fs).1 p.2 = (p.1.loaded block v).2 := by
  have hsplit := hl
  obtain ⟨post, heq, ⟨m, hslot⟩, -⟩ := hsplit
  have hmem : v ∈ configVisits mods path fs := by
    rw [heq]
    simp
  obtain ⟨hq, -, hdata⟩ := (configVisits_inside mods path fs v hmem).2 _ hslot
  obtain ⟨n, i⟩ := p
  obtain rfl : n = m := congrArg Prod.fst (eq_of_mem_zipIdx hp hq rfl)
  have hpre : ∀ w ∈ pre, w.Fits mods := by
    intro w hw
    apply (configVisits_inside mods path fs w _).2
    rw [heq]
    exact List.mem_append_left _ hw
  refine ⟨hmem, hslot, hdata, (hb.initializeModuleDefaults.foldl_applyVisit hpre) _ hp, ?_⟩
  rw [configLoadFromFile_blocks]
  exact hl.foldl_applyVisit hslot _

/-- A stored module that is not visited keeps its defaults. -/
theorem holdsDefaults_of_not_visited {mods : List ModuleConfig} (path : π) (blocks : ConfigBlocks)
    (fs : Flash π) {p : ModuleConfig × Nat} (hp : p ∈ mods.zipIdx) (hm : p.1.isStored = true)
    (hnone : ∀ w ∈ configVisits mods path fs, ¬ w.On p.2) :
    HoldsDefaults p.1.defaults ((configLoadFromFile mods path blocks fs).1 p.2) := by
  rw [configLoadFromFile_blocks, foldl_applyVisit_of_not_on _ _ hnone]
  exact holdsDefaults_initializeModuleDefaults blocks hp hm

/-! ## No half-read configuration -/

/-- The number of entries is a 32-bit word. -/
theorem ConfigFileHeader.entryCount_ofBytes_lt (bytes : List Byte) :
    (ofBytes bytes).entryCount < 2 ^ 32 := by
  have hlt := leNat_lt ((bytes.drop 8).take 4)
  have hle : 256 ^ ((bytes.drop 8).take 4).length ≤ 256 ^ 4 :=
    Nat.pow_le_pow_right (by decide) (List.length_take_le ..)
  exact lt_of_lt_of_le hlt hle

theorem configHeaderRetry_entryCount {path : π} {n : Nat} {fs : Flash π}
    {header : ConfigFileHeader} (h : (configHeaderRetry path n fs).1 = some header) :
    header.entryCount < 2 ^ 32 := by
  induction n generalizing fs with
  | zero => cases h
  | succ n ih =>
    unfold configHeaderRetry at h
    split at h
    · cases h
    · dsimp only at h
      split at h
      · cases h
        exact ConfigFileHeader.entryCount_ofBytes_lt _
      · exact ih h

theorem readConfigHeader_entryCount {fs : Flash π} {fp : FileHandle π}
    {header : ConfigFileHeader} (h : (readConfigHeader fs fp).1 = some header) :
    header.entryCount < 2 ^ 32 := by
  unfold readConfigHeader at h
  dsimp only at h
  split at h
  · cases h
    exact ConfigFileHeader.entryCount_ofBytes_lt _
  · exact configHeaderRetry_entryCount h

theorem length_configVisits_lt (mods : List ModuleConfig) (path : π) (fs : Flash π) :
    (configVisits mods path fs).length < 2 ^ 32 := by
  unfold configVisits
  split
  · decide
  · split
    · decide
    · rename_i hheader
      split
      · decide
      · have hcount := readConfigHeader_entryCount (congrArg Prod.fst hheader)
        exact lt_of_le_of_lt (length_entryVisits_le _ _ _ _) hcount

/-- What a load promises about the stored modules, given the entries it visited: a
block holds the defaults, or a completely read entry over the defaults that passes
the check; and it holds the defaults if the last entry for it failed. -/
structure ConfigWhole (mods : List ModuleConfig) (visits : List EntryVisit)
    (before after : ConfigBlocks) : Prop where
  block : ∀ p ∈ mods.zipIdx, p.1.isStored = true →
    HoldsDefaults p.1.defaults (after p.2) ∨
      ∃ v ∈ visits, v.slot = some p ∧ v.Complete p.1 ∧ p.1.validates (after p.2) = true ∧
        ∃ d, HoldsDefaults p.1.defaults d ∧ after p.2 = overlay d v.data
  failed : ∀ p ∈ mods.zipIdx, p.1.isStored = true → ∀ pre v, LastVisit visits p.2 pre v →
    (p.1.loaded (pre.foldl applyVisit before p.2) v).1 ≠ .success →
      HoldsDefaults p.1.defaults (after p.2)

/-- The last entry for each stored module was read completely, or what the driver
delivered of it is the same as in the defaults. -/
def ReadWhole (mods : List ModuleConfig) (visits : List EntryVisit) : Prop :=
  ∀ p ∈ mods.zipIdx, p.1.isStored = true → ∀ pre v, LastVisit visits p.2 pre v →
    v.Complete p.1 ∨ HoldsDefaults p.1.defaults v.data

/-- For every file, every answer of the driver and every registry a load reads inside
the entries it visits, at most 2³² of them, and leaves no half-read configuration
exactly when the last entry of each module was read whole. -/
theorem config_load_from_file_whole_iff {mods : List ModuleConfig} (path : π)
    {blocks : ConfigBlocks} (hb : blocks.Sized mods) (fs : Flash π) :
    let visits := configVisits mods path fs
    let before := initializeModuleDefaults mods blocks
    let after := (configLoadFromFile mods path blocks fs).1
    (visits.length < 2 ^ 32 ∧ ∀ v ∈ visits, v.Inside (fs.contents path)) ∧
      (ConfigWhole mods visits before after ↔ ReadWhole mods visits) := by
  intro visits before after
  have hlast {p : ModuleConfig × Nat} (hp : p ∈ mods.zipIdx) {pre : List EntryVisit}
      {v : EntryVisit} (hl : LastVisit visits p.2 pre v) :
      v ∈ visits ∧ v.slot = some p ∧ v.data.length ≤ p.1.configSize ∧
        (pre.foldl applyVisit before p.2).length = p.1.configSize ∧
        after p.2 = (p.1.loaded (pre.foldl applyVisit before p.2) v).2 := hl.left hb hp
  have hinside : ∀ v ∈ visits, v.Inside (fs.contents path) := by
    intro v hv
    exact (configVisits_inside mods path fs v hv).1
  refine ⟨⟨length_configVisits_lt mods path fs, hinside⟩, ?_⟩
  constructor
  · intro hwhole p hp hm pre v hl
    by_cases hcomplete : v.Complete p.1
    · exact Or.inl hcomplete
    · obtain ⟨-, -, hdata, hlen, heq⟩ := hlast hp hl
      have hloaded : p.1.loaded (pre.foldl applyVisit before p.2) v =
          (.error, overlay (p.1.getDefaults (pre.foldl applyVisit before p.2)) v.data) := by
        unfold ModuleConfig.loaded
        exact if_pos hcomplete
      have hholds := hwhole.failed p hp hm pre v hl (by rw [hloaded]; nofun)
      rw [heq, hloaded] at hholds
      refine Or.inr ((holdsDefaults_overlay (p.1.holdsDefaults_getDefaults _) _ ?_).mp hholds)
      rw [p.1.length_getDefaults hlen]
      exact hdata
  · intro hread
    have hcases {p : ModuleConfig × Nat} (hp : p ∈ mods.zipIdx) (hm : p.1.isStored = true)
        {pre : List EntryVisit} {v : EntryVisit} (hl : LastVisit visits p.2 pre v) :
        HoldsDefaults p.1.defaults (after p.2) ∨
          (v.Complete p.1 ∧ p.1.validates (after p.2) = true ∧
            after p.2 = overlay (p.1.getDefaults (pre.foldl applyVisit before p.2)) v.data ∧
            (p.1.loaded (pre.foldl applyVisit before p.2) v).1 = .success) := by
      obtain ⟨-, -, hdata, hlen, heq⟩ := hlast hp hl
      rw [heq]
      unfold ModuleConfig.loaded
      dsimp only
      split_ifs with hcomplete hvalid
      · exact Or.inr ⟨hcomplete, hvalid, rfl, rfl⟩
      · exact Or.inl (p.1.holdsDefaults_getDefaults _)
      · refine Or.inl ((holdsDefaults_overlay (p.1.holdsDefaults_getDefaults _) _ ?_).mpr ?_)
        · rw [p.1.length_getDefaults hlen]
          exact hdata
        · exact (hread p hp hm pre v hl).resolve_left hcomplete
    refine ⟨?_, ?_⟩
    · intro p hp hm
      rcases exists_lastVisit visits p.2 with hnone | ⟨pre, v, hl⟩
      · exact Or.inl (holdsDefaults_of_not_visited path blocks fs hp hm hnone)
      · rcases hcases hp hm hl with hdefault | ⟨hcomplete, hvalid, heq, -⟩
        · exact Or.inl hdefault
        · obtain ⟨hmem, hslot, -⟩ := hlast hp hl
          exact Or.inr ⟨v, hmem, hslot, hcomplete, hvalid, _, p.1.holdsDefaults_getDefaults _, heq⟩
    · intro p hp hm pre v hl hfailed
      rcases hcases hp hm hl with hdefault | ⟨-, -, -, hsuccess⟩
      · exact hdefault
      · exact absurd hsuccess hfailed

/-- A flash with one file, and a driver that does not fail. -/
def configFlash (bytes : List Byte) : Flash Unit := ⟨fun _ => some bytes, []⟩

/-- A file with one entry, of which `data` follows the declared size. -/
def oneEntryFile (m : ModuleConfig) (size : Nat) (data : List Byte) : List Byte :=
  (⟨configFileMagic, configFileVersion, 1⟩ : ConfigFileHeader).toBytes ++
    (utilsStrncpySafe moduleNameMaxSize m.name).toList ++ leBytes 4 size ++ data

/-- The one block of a registry of one module, zero after a boot. -/
def zeroBlocks (m : ModuleConfig) : ConfigBlocks := fun _ => List.replicate m.configSize 0

theorem sized_zeroBlocks (m : ModuleConfig) : (zeroBlocks m).Sized [m] := by
  intro p hp
  obtain rfl : p = (m, 0) := by simpa using hp
  exact List.length_replicate ..

/-- A short entry, with the format mode only, is whole. -/
theorem config_load_from_file_whole_iff_short :
    let fs := configFlash (oneEntryFile smsModule 4 (leBytes 4 0))
    ConfigWhole [smsModule] (configVisits [smsModule] () fs)
      (initializeModuleDefaults [smsModule] (zeroBlocks smsModule))
      (configLoadFromFile [smsModule] () (zeroBlocks smsModule) fs).1 := by
  intro fs
  refine (config_load_from_file_whole_iff () (sized_zeroBlocks smsModule) fs).2.mpr ?_
  intro p hp _ pre v hl
  obtain rfl : p = (smsModule, 0) := by simpa using hp
  obtain ⟨post, heq, -⟩ := hl
  have hcomplete : ∀ v ∈ configVisits [smsModule] () fs, v.Complete smsModule := by decide +kernel
  exact Or.inl (hcomplete v (by rw [heq]; simp))

/-- A file cut 40 bytes into the entry of the network module, 40 letters: they stay in
the block, over the defaults and unchecked. -/
theorem config_load_from_file_half_read :
    let fs := configFlash (oneEntryFile networkModule 104 (List.replicate 40 0x41))
    let after := (configLoadFromFile [networkModule] () (zeroBlocks networkModule) fs).1
    field (after 0) 0 40 = List.replicate 40 0x41 ∧
      ¬ ConfigWhole [networkModule] (configVisits [networkModule] () fs)
        (initializeModuleDefaults [networkModule] (zeroBlocks networkModule)) after := by
  intro fs after
  refine ⟨by decide +kernel, ?_⟩
  intro h
  rcases h.block (networkModule, 0) (by simp) rfl with hdefault | ⟨v, hv, -, hcomplete, -⟩
  · exact absurd hdefault (by decide +kernel)
  · have hnone : ∀ v ∈ configVisits [networkModule] () fs, ¬ v.Complete networkModule := by
      decide +kernel
    exact hnone v hv hcomplete

end WalnutGateway
