import WalnutGateway.Common.Utils

/-!
# The configuration file

`config.c`: the configuration blocks of the modules live in one file, a header
and then an entry for each stored module. Loading puts the bytes of an entry over
the defaults, in the block itself; saving writes the file anew from its start.
-/

namespace WalnutGateway

/-! ## Modules and their blocks -/

/-- `MODULE_NAME_MAX_SIZE`. -/
def moduleNameMaxSize : Nat := 32

/-- What `ModuleConfig` says about the configuration of a module. -/
structure ModuleConfig where
  /-- The characters of `name`. -/
  name : List Byte
  /-- What `config_get_defaults_fn` writes to each byte; `none` where it writes nothing. -/
  defaults : List (Option Byte)
  /-- `config_validate_fn`, `none` for `NULL`. -/
  configValidateFn : Option (List Byte → Bool)
  /-- `config_ptr` is not `NULL`. -/
  configPtr : Bool
  configSize : Nat
  configStored : Bool
  length_defaults : defaults.length = configSize
  length_name : name.length < moduleNameMaxSize
  name_ne_zero : ∀ b ∈ name, b ≠ 0
  configSize_lt : configSize < 2 ^ 31

namespace ModuleConfig

/-- `config_get_defaults_fn` on a block. -/
def getDefaults (m : ModuleConfig) (block : List Byte) : List Byte :=
  List.zipWith (fun d b => d.getD b) m.defaults block

/-- The block as the defaults leave it after a boot. -/
def defaultBlock (m : ModuleConfig) : List Byte := m.getDefaults (List.replicate m.configSize 0)

/-- `config_validate_fn` on a block; without one every block passes. -/
def validates (m : ModuleConfig) (block : List Byte) : Bool :=
  m.configValidateFn.all fun f => f block

/-- The configuration of the module is kept in the file. -/
def isStored (m : ModuleConfig) : Bool :=
  m.configPtr && m.configValidateFn.isSome && m.configStored

end ModuleConfig

/-- The block of the module in each slot of `g_modules`. -/
abbrev ConfigBlocks := Nat → List Byte

/-- Each block is as long as the structure in it. -/
def ConfigBlocks.Sized (blocks : ConfigBlocks) (mods : List ModuleConfig) : Prop :=
  ∀ p ∈ mods.zipIdx, (blocks p.2).length = p.1.configSize

/-- `find_module_by_name`: the module and its slot. -/
def findModuleByName (mods : List ModuleConfig) (name : List Byte) : Option (ModuleConfig × Nat) :=
  mods.zipIdx.find? fun p => p.1.name = cString name

/-- `initialize_module_defaults`, once after a boot. -/
def initializeModuleDefaults (mods : List ModuleConfig) (blocks : ConfigBlocks) : ConfigBlocks :=
  fun i => (mods[i]?).elim (blocks i) fun m =>
    if m.configPtr then m.getDefaults (blocks i) else blocks i

/-! ## Reading -/

/-- `CONFIG_FILE_MAGIC`. -/
def configFileMagic : Nat := 0x57454346

/-- `CONFIG_FILE_VERSION`. -/
def configFileVersion : Nat := 5

/-- `ConfigFileHeader`. -/
structure ConfigFileHeader where
  magic : Nat
  version : Nat
  entryCount : Nat
  deriving DecidableEq

/-- `sizeof(ConfigFileHeader)`. -/
def configFileHeaderSize : Nat := 12

/-- The header found in its bytes. -/
def ConfigFileHeader.ofBytes (bytes : List Byte) : ConfigFileHeader where
  magic := leNat (bytes.take 4)
  version := leNat ((bytes.drop 4).take 4)
  entryCount := leNat ((bytes.drop 8).take 4)

/-- The bytes of a header. -/
def ConfigFileHeader.toBytes (header : ConfigFileHeader) : List Byte :=
  leBytes 4 header.magic ++ leBytes 4 header.version ++ leBytes 4 header.entryCount

/-- `UINT32` passed for an `INT32`. -/
def uint32ToInt32 (n : Nat) : Int := if n < 2 ^ 31 then n else (n : Int) - 2 ^ 32

variable {π : Type}

/-- A read that is reported a success and brings all that was asked for. -/
def ReadReply.complete (r : ReadReply π) (size : Nat) : Bool := r.ok && r.data.length == size

/-- `read_config_entry`: the 32 bytes of the name and the declared size. -/
def readConfigEntry (fs : Flash π) (fp : FileHandle π) :
    Option (List Byte × Nat) × FileHandle π × Flash π :=
  let n := wmSdkFileRead fs fp moduleNameMaxSize
  if ¬ n.complete moduleNameMaxSize then (none, n.fp, n.flash) else
  let s := wmSdkFileRead n.flash n.fp 4
  if ¬ s.complete 4 then (none, s.fp, s.flash) else
  (some (n.data, leNat s.data), s.fp, s.flash)

/-- Bytes put over the start of a block. -/
def overlay (block data : List Byte) : List Byte := data ++ block.drop data.length

/-- What `load_module_config` leaves behind. -/
structure LoadReply (π : Type) where
  result : Result
  block : List Byte
  fp : FileHandle π
  flash : Flash π

/-- The bytes that are read for an entry of a declared size. -/
def ModuleConfig.loadSize (m : ModuleConfig) (fileConfigSize : Nat) : Nat :=
  if fileConfigSize < m.configSize then fileConfigSize else m.configSize

/-- The rest of an entry is skipped, whatever the read gave. -/
def skipRest (r : ReadReply π) (fileConfigSize loadSize : Nat) : FileHandle π × Flash π :=
  if fileConfigSize > loadSize then
    wmSdkFileSeekCur r.flash r.fp (uint32ToInt32 (fileConfigSize - loadSize))
  else (r.fp, r.flash)

/-- `load_module_config`. -/
def loadModuleConfig (fs : Flash π) (fp : FileHandle π) (m : ModuleConfig) (block : List Byte)
    (fileConfigSize : Nat) : LoadReply π :=
  if ¬ m.configPtr then ⟨.invalidParam, block, fp, fs⟩ else
  let loadSize := m.loadSize fileConfigSize
  let r := wmSdkFileRead fs fp loadSize
  let block := overlay (m.getDefaults block) r.data
  let s := skipRest r fileConfigSize loadSize
  if ¬ r.complete loadSize then ⟨.error, block, s.1, s.2⟩
  else if m.validates block then ⟨.success, block, s.1, s.2⟩
  else ⟨.error, m.getDefaults block, s.1, s.2⟩

/-- The state of the loop of `config_load_from_file`. -/
structure LoadState (π : Type) where
  blocks : ConfigBlocks
  fp : FileHandle π
  flash : Flash π
  anyConfigUpdated : Bool
  fileCorrupted : Bool

/-- The loop of `config_load_from_file`, with the number of entries left. -/
def configLoadEntries (mods : List ModuleConfig) : Nat → LoadState π → LoadState π
  | 0, s => s
  | n + 1, s =>
    match readConfigEntry s.flash s.fp with
    | (none, fp, fs) => { s with fp := fp, flash := fs, fileCorrupted := true }
    | (some (name, size), fp, fs) =>
      match (findModuleByName mods name).filter fun p => p.1.isStored with
      | none =>
        let k := wmSdkFileSeekCur fs fp (uint32ToInt32 size)
        configLoadEntries mods n { s with fp := k.1, flash := k.2 }
      | some (m, i) =>
        let l := loadModuleConfig fs fp m (s.blocks i) size
        configLoadEntries mods n
          { blocks := Function.update s.blocks i l.block
            fp := l.fp
            flash := l.flash
            anyConfigUpdated := s.anyConfigUpdated ||
              (decide (l.result ≠ .success) && decide (size > m.configSize))
            fileCorrupted := s.fileCorrupted }

variable [DecidableEq π]

/-- The retries of `read_config_header`, each on a handle of its own. -/
def configHeaderRetry (path : π) : Nat → Flash π → Option ConfigFileHeader × Flash π
  | 0, fs => (none, fs)
  | n + 1, fs =>
    match wmSdkFileOpen (wmSdkFileClose fs).2 path .rb with
    | (none, fs) => (none, fs)
    | (some fp, fs) =>
      let r := wmSdkFileRead fs fp configFileHeaderSize
      if r.complete configFileHeaderSize then (some (.ofBytes r.data), r.flash)
      else configHeaderRetry path n r.flash

/-- `read_config_header`: the header, and the handle of the caller, who keeps it
also when a retry closed it. -/
def readConfigHeader (fs : Flash π) (fp : FileHandle π) :
    Option ConfigFileHeader × FileHandle π × Flash π :=
  let r := wmSdkFileRead fs fp configFileHeaderSize
  if r.complete configFileHeaderSize then (some (.ofBytes r.data), r.fp, r.flash) else
  let h := configHeaderRetry fp.path 2 r.flash
  (h.1, r.fp, h.2)

/-! ## Writing -/

/-- The module has a block that is stored and passes its check. -/
def isSavable (blocks : ConfigBlocks) (p : ModuleConfig × Nat) : Bool :=
  p.1.isStored && p.1.validates (blocks p.2)

/-- `count_savable_modules`. -/
def countSavableModules (mods : List ModuleConfig) (blocks : ConfigBlocks) : Nat :=
  mods.zipIdx.countP (isSavable blocks)

/-- A write that is reported a success and takes everything. -/
def WriteReply.complete (w : WriteReply π) (size : Nat) : Bool := w.ok && w.written == size

/-- `write_config_header`. -/
def writeConfigHeader (fs : Flash π) (fp : FileHandle π) (moduleCount : Nat) :
    Result × FileHandle π × Flash π :=
  let header : ConfigFileHeader := ⟨configFileMagic, configFileVersion, moduleCount⟩
  let w := wmSdkFileWrite fs fp header.toBytes
  (if w.complete configFileHeaderSize then .success else .error, w.fp, w.flash)

/-- `write_module_entry`. -/
def writeModuleEntry (fs : Flash π) (fp : FileHandle π) (m : ModuleConfig) (block : List Byte) :
    Result × FileHandle π × Flash π :=
  if ¬ m.configPtr then (.invalidParam, fp, fs) else
  if m.configSize = 0 then (.success, fp, fs) else
  let n := wmSdkFileWrite fs fp (utilsStrncpySafe moduleNameMaxSize m.name).toList
  if ¬ n.complete moduleNameMaxSize then (.error, n.fp, n.flash) else
  let s := wmSdkFileWrite n.flash n.fp (leBytes 4 m.configSize)
  if ¬ s.complete 4 then (.error, s.fp, s.flash) else
  let d := wmSdkFileWrite s.flash s.fp (block.take m.configSize)
  (if d.complete m.configSize then .success else .error, d.fp, d.flash)

/-- The loop of `config_save_to_file` over the modules left. -/
def configSaveEntries (blocks : ConfigBlocks) :
    List (ModuleConfig × Nat) → Flash π → FileHandle π → Result × Flash π
  | [], fs, _ => (.success, fs)
  | p :: ps, fs, fp =>
    if ¬ isSavable blocks p then configSaveEntries blocks ps fs fp else
    match writeModuleEntry fs fp p.1 (blocks p.2) with
    | (.success, fp, fs) => configSaveEntries blocks ps fs fp
    | (_, _, fs) => (.error, fs)

/-- `config_save_to_file`. -/
def configSaveToFile (mods : List ModuleConfig) (path : π) (blocks : ConfigBlocks) (fs : Flash π) :
    Result × Flash π :=
  let moduleCount := countSavableModules mods blocks
  if moduleCount = 0 then (.success, fs) else
  match wmSdkFileOpen fs path .wb with
  | (none, fs) => (.error, fs)
  | (some fp, fs) =>
    match writeConfigHeader fs fp moduleCount with
    | (.success, fp, fs) =>
      match configSaveEntries blocks mods.zipIdx fs fp with
      | (.success, fs) => (.success, (wmSdkFileClose (wmSdkFileSync fs)).2)
      | (r, fs) => (r, (wmSdkFileClose fs).2)
    | (_, _, fs) => (.error, (wmSdkFileClose fs).2)

/-! ## Loading -/

/-- `config_load_from_file` after a boot: the blocks, and the flash. -/
def configLoadFromFile (mods : List ModuleConfig) (path : π) (blocks : ConfigBlocks)
    (fs : Flash π) : ConfigBlocks × Flash π :=
  let blocks := initializeModuleDefaults mods blocks
  match wmSdkFileOpen fs path .rb with
  | (none, fs) => (blocks, (configSaveToFile mods path blocks fs).2)
  | (some fp, fs) =>
    match readConfigHeader fs fp with
    | (none, _, fs) => (blocks, (wmSdkFileClose fs).2)
    | (some header, fp, fs) =>
      if header.magic ≠ configFileMagic then (blocks, (wmSdkFileClose fs).2)
      else if header.version ≠ configFileVersion then
        let d := wmSdkFileDelete (wmSdkFileClose fs).2 path
        (blocks, (configSaveToFile mods path blocks d.2).2)
      else
        let s := configLoadEntries mods header.entryCount ⟨blocks, fp, fs, false, false⟩
        let fs := (wmSdkFileClose s.flash).2
        if s.anyConfigUpdated ∨ s.fileCorrupted then
          (s.blocks, (configSaveToFile mods path s.blocks fs).2)
        else (s.blocks, fs)

end WalnutGateway
