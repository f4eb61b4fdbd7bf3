import WalnutGateway.Config.Setters
import WalnutGateway.Config.SoundLoad

/-!
# Accepted settings and the next boot

A boot loads the configurations, then set requests change them one after the other. The
network, command and system functions write the file when they accept, with the
configurations of all modules in it; the TCP function only changes its block, which
gets into the file when one of the others saves.
-/

namespace WalnutGateway

/-! ## Requests -/

/-- The four modules that are set. -/
inductive SetTarget
  | tcp
  | network
  | command
  | system
  deriving DecidableEq, Repr

namespace SetTarget

/-- Where the module is in `g_modules`. -/
def slot : SetTarget → Nat
  | tcp => ModuleId.tcp.toNat
  | network => ModuleId.network.toNat
  | command => ModuleId.cmd.toNat
  | system => ModuleId.system.toNat

/-- Its entry there. -/
def module : SetTarget → ModuleConfig
  | tcp => tcpModule
  | network => networkModule
  | command => commandModule
  | system => systemModule

/-- Its set function. -/
def set (strtof : Strtof) (alloc : Bool) (config configString : List Byte) : SetTarget → SetReply
  | tcp => wewareTcpConfigSet config configString
  | network => networkConfigSet alloc config configString
  | command => commandConfigSet alloc config configString
  | system => systemConfigSet strtof alloc config configString

theorem set_spec (strtof : Strtof) (alloc : Bool) (config configString : List Byte)
    (t : SetTarget) :
    (t.set strtof alloc config configString).Spec t.module config := by
  cases t with
  | tcp => exact (wewareTcpConfigSet_spec config configString).1
  | network => exact (networkConfigSet_spec alloc config configString).1
  | command => exact (commandConfigSet_spec alloc config configString).1
  | system => exact (systemConfigSet_spec strtof alloc config configString).1

/-- Apart from the TCP function a set function that does not save changes nothing. -/
theorem set_unsaved {strtof : Strtof} {alloc : Bool} {config configString : List Byte}
    {t : SetTarget} (ht : t ≠ tcp) (h : (t.set strtof alloc config configString).saves = false) :
    (t.set strtof alloc config configString).block = config := by
  by_cases hresult : (t.set strtof alloc config configString).result = .success
  · cases t with
    | tcp => exact absurd rfl ht
    | network =>
      have hsaves := (networkConfigSet_spec alloc config configString).2 hresult
      exact absurd (h.symm.trans hsaves) Bool.false_ne_true
    | command =>
      have hsaves := (commandConfigSet_spec alloc config configString).2 hresult
      exact absurd (h.symm.trans hsaves) Bool.false_ne_true
    | system => exact (systemConfigSet_spec strtof alloc config configString).2 h
  · exact ((t.set_spec strtof alloc config configString).rejected hresult).1

end SetTarget

/-- A call of a set function, and what `wm_sdk_memory_alloc` answers in it. -/
structure SetRequest where
  target : SetTarget
  configString : List Byte
  alloc : Bool

/-! ## Runs -/

/-- What is fixed on a device: `strtof`, and where the file is. -/
structure ConfigDevice (π : Type) where
  strtof : Strtof
  path : π

/-- The blocks and the flash. -/
structure ConfigState (π : Type) where
  blocks : ConfigBlocks
  flash : Flash π

/-- The static storage of the blocks before a boot. -/
def configStorage : ConfigBlocks :=
  fun i => List.replicate ((walnutModules[i]?).elim 0 ModuleConfig.configSize) 0

variable {π : Type} [DecidableEq π]

namespace ConfigDevice

variable (d : ConfigDevice π)


/-- The state after `config_load_from_file` in a boot. -/
def boot (fs : Flash π) : ConfigState π :=
  ⟨(configLoadFromFile walnutModules d.path configStorage fs).1,
    (configLoadFromFile walnutModules d.path configStorage fs).2⟩

/-- The reply to a request. -/
def reply (s : ConfigState π) (r : SetRequest) : SetReply :=
  r.target.set d.strtof r.alloc (s.blocks r.target.slot) r.configString

/-- A set function with its save. -/
def set (s : ConfigState π) (r : SetRequest) : ConfigState π :=
  let blocks := Function.update s.blocks r.target.slot (d.reply s r).block
  ⟨blocks,
    if (d.reply s r).saves then (configSaveToFile walnutModules d.path blocks s.flash).2
    else s.flash⟩

/-- Set functions one after the other. -/
def run (s : ConfigState π) (rs : List SetRequest) : ConfigState π := rs.foldl d.set s

/-- The configuration of a module after the last accepted request for it. -/
def lastAccepted (t : SetTarget) (s : ConfigState π) : List SetRequest → Option (List Byte)
  | [] => none
  | r :: rs =>
    (lastAccepted t (d.set s r) rs).or
      (if r.target = t ∧ (d.reply s r).result = .success then some ((d.set s r).blocks t.slot)
      else none)

/-- The blocks after the last request that saved, `none` if none did. -/
def lastSaved (s : ConfigState π) : List SetRequest → Option ConfigBlocks
  | [] => none
  | r :: rs =>
    (lastSaved (d.set s r) rs).or (if (d.reply s r).saves then some (d.set s r).blocks else none)

/-- The blocks that the file stands for at the end of a run that starts with a boot. -/
def inFile (s : ConfigState π) (rs : List SetRequest) : ConfigBlocks :=
  (d.lastSaved s rs).getD s.blocks

end ConfigDevice

/-! ## The registry -/

theorem SetTarget.mem_walnutModules (t : SetTarget) :
    (t.module, t.slot) ∈ walnutModules.zipIdx := by
  rw [List.mem_zipIdx_iff_getElem?]
  cases t <;> rfl

theorem SetTarget.isStored_module (t : SetTarget) : t.module.isStored = true := by
  cases t <;> rfl

theorem SetTarget.slot_injective : Function.Injective SetTarget.slot := by
  intro t t' h
  cases t <;> cases t' <;> first | rfl | cases h

theorem sized_configStorage : configStorage.Sized walnutModules := by
  intro p hp
  rw [List.mem_zipIdx_iff_getElem?] at hp
  rw [configStorage, hp, Option.elim_some, List.length_replicate]

/-- With a valid configuration among the four there is something to save. -/
theorem countSavableModules_pos {blocks : ConfigBlocks} (t : SetTarget)
    (h : t.module.validates (blocks t.slot) = true) :
    0 < countSavableModules walnutModules blocks := by
  refine List.countP_pos_iff.mpr ⟨_, t.mem_walnutModules, ?_⟩
  rw [isSavable, t.isStored_module, h]
  rfl

/-! ## What the file gives -/

namespace ConfigDevice

variable (d : ConfigDevice π)

/-- The four configurations pass their checks, and a boot gives those of `saved`; only
that of TCP can be another one in the blocks. -/
structure Settled (saved : ConfigBlocks) (s : ConfigState π) : Prop where
  sized : s.blocks.Sized walnutModules
  sound : s.flash.Sound
  valid : ∀ t : SetTarget, t.module.validates (s.blocks t.slot) = true
  same : ∀ t : SetTarget, t ≠ .tcp → s.blocks t.slot = saved t.slot
  loads : ∀ fs : Flash π, fs.Sound → fs.files d.path = s.flash.files d.path →
    ∀ t : SetTarget, (d.boot fs).blocks t.slot = saved t.slot

/-- A save settles the blocks. -/
theorem Settled.of_save {blocks : ConfigBlocks} {fs : Flash π} (hb : blocks.Sized walnutModules)
    (hfs : fs.Sound) (hvalid : ∀ t : SetTarget, t.module.validates (blocks t.slot) = true) :
    d.Settled blocks ⟨blocks, (configSaveToFile walnutModules d.path blocks fs).2⟩ := by
  obtain ⟨hsound, hfile⟩ := configSaveToFile_sound hb d.path hfs
    (countSavableModules_pos .tcp (hvalid .tcp))
  refine ⟨hb, hsound, hvalid, fun _ _ => rfl, ?_⟩
  intro fs' hfs' hsame t
  exact configLoadFromFile_saved nodup_walnutModules (by decide) hb sized_configStorage hfs'
    (hsame.trans hfile) t.mem_walnutModules t.isStored_module (hvalid t)

theorem sized_boot (fs : Flash π) : (d.boot fs).blocks.Sized walnutModules := by
  unfold boot
  rw [configLoadFromFile_blocks]
  exact sized_configStorage.initializeModuleDefaults.foldl_applyVisit
    fun v hv => (configVisits_inside walnutModules d.path fs v hv).2

/-- A boot settles what it loads, where that passes the checks. -/
theorem settled_boot {fs : Flash π} (hfs : fs.Sound)
    (hvalid : ∀ t : SetTarget, t.module.validates ((d.boot fs).blocks t.slot) = true) :
    d.Settled (d.boot fs).blocks (d.boot fs) := by
  rcases configLoadFromFile_flash walnutModules d.path configStorage hfs with
    hsame | ⟨fs', hfs', hsave⟩
  · have hflash : (d.boot fs).flash = fs := hsame
    refine ⟨d.sized_boot fs, by rwa [hflash], hvalid, fun _ _ => rfl, ?_⟩
    intro fs' hfs' hfile t
    rw [hflash] at hfile
    unfold boot
    dsimp only
    rw [configLoadFromFile_blocks, configLoadFromFile_blocks,
      configVisits_congr walnutModules hfs' hfs hfile]
  · have hsettled := Settled.of_save d (d.sized_boot fs) hfs' hvalid
    unfold boot at hsettled ⊢
    rw [← hsave] at hsettled
    exact hsettled

variable {d}

theorem set_blocks_self (s : ConfigState π) (r : SetRequest) :
    (d.set s r).blocks r.target.slot = (d.reply s r).block := Function.update_self ..

theorem set_blocks_of_ne (s : ConfigState π) {r : SetRequest} {t : SetTarget} (h : r.target ≠ t) :
    (d.set s r).blocks t.slot = s.blocks t.slot := by
  apply Function.update_of_ne
  intro heq
  exact h (SetTarget.slot_injective heq.symm)

/-- A request keeps the blocks valid and in their sizes. -/
theorem Settled.set_blocks {saved : ConfigBlocks} {s : ConfigState π} (h : d.Settled saved s)
    (r : SetRequest) : (d.set s r).blocks.Sized walnutModules ∧
      ∀ t : SetTarget, t.module.validates ((d.set s r).blocks t.slot) = true := by
  have hspec : (d.reply s r).Spec r.target.module (s.blocks r.target.slot) :=
    r.target.set_spec d.strtof r.alloc _ r.configString
  have hlen : (s.blocks r.target.slot).length = r.target.module.configSize :=
    h.sized _ r.target.mem_walnutModules
  constructor
  · intro p hp
    by_cases hslot : p.2 = r.target.slot
    · obtain rfl : p = (r.target.module, r.target.slot) :=
        eq_of_mem_zipIdx hp r.target.mem_walnutModules hslot
      rw [set_blocks_self]
      exact hspec.length hlen
    · change (Function.update s.blocks r.target.slot _ p.2).length = _
      rw [Function.update_of_ne hslot]
      exact h.sized p hp
  · intro t
    by_cases ht : r.target = t
    · subst ht
      rw [set_blocks_self]
      by_cases hresult : (d.reply s r).result = .success
      · exact hspec.validates hresult hlen (h.valid _)
      · rw [(hspec.rejected hresult).1]
        exact h.valid _
    · rw [set_blocks_of_ne s ht]
      exact h.valid t

/-- One request: if it saves its blocks are settled, else the old ones are. -/
theorem Settled.set {saved : ConfigBlocks} {s : ConfigState π} (h : d.Settled saved s)
    (r : SetRequest) : d.Settled
      ((if (d.reply s r).saves then some (d.set s r).blocks else none).getD saved) (d.set s r) := by
  obtain ⟨hsized, hvalid⟩ := h.set_blocks r
  by_cases hsaves : (d.reply s r).saves = true
  · have hsettled := Settled.of_save d hsized h.sound hvalid
    rw [if_pos hsaves, Option.getD_some]
    unfold ConfigDevice.set at hsettled ⊢
    dsimp only at hsettled ⊢
    rw [if_pos hsaves]
    exact hsettled
  · have hflash : (d.set s r).flash = s.flash := if_neg hsaves
    rw [if_neg hsaves, Option.getD_none]
    refine ⟨hsized, by rw [hflash]; exact h.sound, hvalid, ?_, by rw [hflash]; exact h.loads⟩
    intro t ht
    rw [← h.same t ht]
    by_cases htarget : r.target = t
    · subst htarget
      rw [set_blocks_self]
      exact SetTarget.set_unsaved ht (Bool.not_eq_true _ ▸ hsaves)
    · exact set_blocks_of_ne s htarget

/-- Any run of requests. -/
theorem Settled.run {saved : ConfigBlocks} {s : ConfigState π} (h : d.Settled saved s)
    (rs : List SetRequest) : d.Settled ((d.lastSaved s rs).getD saved) (d.run s rs) := by
  induction rs generalizing saved s with
  | nil => exact h
  | cons r rs ih =>
    have hrest := ih (h.set r)
    rw [lastSaved, Option.getD_or]
    exact hrest

/-- A request that is not accepted for a module leaves its block. -/
theorem set_blocks_of_not_accepted {t : SetTarget} {s : ConfigState π} {r : SetRequest}
    (h : ¬ (r.target = t ∧ (d.reply s r).result = .success)) :
    (d.set s r).blocks t.slot = s.blocks t.slot := by
  by_cases ht : r.target = t
  · subst ht
    have hspec : (d.reply s r).Spec r.target.module (s.blocks r.target.slot) :=
      r.target.set_spec d.strtof r.alloc _ r.configString
    rw [set_blocks_self]
    exact (hspec.rejected fun hresult => h ⟨rfl, hresult⟩).1
  · exact set_blocks_of_ne s ht

theorem lastAccepted_cons_eq_none {t : SetTarget} {s : ConfigState π} {r : SetRequest}
    {rs : List SetRequest} : d.lastAccepted t s (r :: rs) = none ↔
      d.lastAccepted t (d.set s r) rs = none ∧
        ¬ (r.target = t ∧ (d.reply s r).result = .success) := by
  rw [lastAccepted, Option.or_eq_none_iff]
  refine and_congr Iff.rfl ?_
  split_ifs with h
  · exact ⟨nofun, fun hnot => absurd h hnot⟩
  · exact ⟨fun _ => h, fun _ => rfl⟩

/-- Without an accepted request a block is as before. -/
theorem run_blocks_of_none {t : SetTarget} {s : ConfigState π} {rs : List SetRequest}
    (h : d.lastAccepted t s rs = none) : (d.run s rs).blocks t.slot = s.blocks t.slot := by
  induction rs generalizing s with
  | nil => rfl
  | cons r rs ih =>
    obtain ⟨hlater, hnot⟩ := lastAccepted_cons_eq_none.mp h
    exact (ih hlater).trans (set_blocks_of_not_accepted hnot)

/-- The last accepted configuration is still there at the end. -/
theorem run_blocks_of_some {t : SetTarget} {s : ConfigState π} {rs : List SetRequest}
    {config : List Byte} (h : d.lastAccepted t s rs = some config) :
    (d.run s rs).blocks t.slot = config := by
  induction rs generalizing s with
  | nil => cases h
  | cons r rs ih =>
    cases hlater : d.lastAccepted t (d.set s r) rs with
    | some later =>
      rw [lastAccepted, hlater, Option.some_or] at h
      exact ih (hlater.trans h)
    | none =>
      rw [lastAccepted, hlater, Option.none_or] at h
      split_ifs at h
      rw [← Option.some.inj h]
      exact run_blocks_of_none hlater

/-- Without an accepted request the file stands for the block as it is. -/
theorem lastSaved_of_none {t : SetTarget} {saved : ConfigBlocks} {s : ConfigState π}
    {rs : List SetRequest} (h : d.lastAccepted t s rs = none)
    (hsaved : saved t.slot = s.blocks t.slot) :
    (d.lastSaved s rs).getD saved t.slot = (d.run s rs).blocks t.slot := by
  induction rs generalizing saved s with
  | nil => exact hsaved
  | cons r rs ih =>
    obtain ⟨hlater, hnot⟩ := lastAccepted_cons_eq_none.mp h
    rw [lastSaved, Option.getD_or]
    refine ih hlater ?_
    by_cases hsaves : (d.reply s r).saves = true
    · rw [if_pos hsaves, Option.getD_some]
    · rw [if_neg hsaves, Option.getD_none, hsaved, set_blocks_of_not_accepted hnot]

end ConfigDevice

/-! ## What a reboot keeps -/

/-- For every run of set requests that starts with a boot on which the four
configurations pass their checks, and every boot after it from a flash with the same
configuration file: each configuration is the one after its last accepted request
exactly when the TCP configuration at the end is the one that was there at the last
save, or at the first boot if nothing was saved. -/
theorem set_config_survives_reboot_iff (d : ConfigDevice π) {fs fs' : Flash π} (hfs : fs.Sound)
    (hvalid : ∀ t : SetTarget, t.module.validates ((d.boot fs).blocks t.slot) = true)
    (rs : List SetRequest) (hfs' : fs'.Sound)
    (hfile : fs'.files d.path = (d.run (d.boot fs) rs).flash.files d.path) :
    (∀ (t : SetTarget) (config : List Byte), d.lastAccepted t (d.boot fs) rs = some config →
        (d.boot fs').blocks t.slot = config) ↔
      d.inFile (d.boot fs) rs SetTarget.tcp.slot =
        (d.run (d.boot fs) rs).blocks SetTarget.tcp.slot := by
  have hsettled := (d.settled_boot hfs hvalid).run rs
  have hloads := hsettled.loads fs' hfs' hfile
  constructor
  · intro h
    cases haccepted : d.lastAccepted .tcp (d.boot fs) rs with
    | none => exact ConfigDevice.lastSaved_of_none haccepted rfl
    | some config =>
      rw [ConfigDevice.run_blocks_of_some haccepted, ← h .tcp config haccepted]
      exact (hloads .tcp).symm
  · intro htcp t config haccepted
    rw [hloads t, ← ConfigDevice.run_blocks_of_some haccepted]
    by_cases ht : t = .tcp
    · subst ht
      exact htcp
    · exact (hsettled.same t ht).symm

/-- A device with an empty flash, on which no number is asked for. -/
def emptyDevice : ConfigDevice Unit := ⟨fun _ => none, ()⟩

/-- A request on a device with memory. -/
def setRequest (t : SetTarget) (configString : String) : SetRequest :=
  ⟨t, asciiBytes configString, true⟩

/-- A port that is set before a network setting is kept. -/
theorem set_config_survives_reboot_port :
    let s := emptyDevice.boot ⟨fun _ => none, []⟩
    let s' := emptyDevice.run s [setRequest .tcp "port:1", setRequest .network "cid:3"]
    (emptyDevice.boot s'.flash).blocks SetTarget.tcp.slot =
      setField tcpModule.defaultBlock 64 (leBytes 2 1) := by
  have hvalid : ∀ t : SetTarget, t.module.validates
      ((emptyDevice.boot ⟨fun _ => none, []⟩).blocks t.slot) = true := by
    intro t
    cases t <;> decide +kernel
  have hsound : Flash.Sound (⟨fun _ => none, []⟩ : Flash Unit) := rfl
  have hsurvives := set_config_survives_reboot_iff emptyDevice hsound hvalid
    [setRequest .tcp "port:1", setRequest .network "cid:3"]
    (show Flash.Sound (emptyDevice.run (emptyDevice.boot ⟨fun _ => none, []⟩)
      [setRequest .tcp "port:1", setRequest .network "cid:3"]).flash by decide +kernel) rfl
  exact hsurvives.mpr (by decide +kernel) .tcp _ (by decide +kernel)

/-- A port that is accepted and not there after a reboot. -/
theorem set_config_lost_port :
    let s := emptyDevice.boot ⟨fun _ => none, []⟩
    let s' := emptyDevice.run s [setRequest .tcp "port:1"]
    s'.flash.Sound ∧
      emptyDevice.lastAccepted .tcp s [setRequest .tcp "port:1"] =
        some (setField tcpModule.defaultBlock 64 (leBytes 2 1)) ∧
      (emptyDevice.boot s'.flash).blocks SetTarget.tcp.slot = tcpModule.defaultBlock ∧
      tcpModule.defaultBlock ≠ setField tcpModule.defaultBlock 64 (leBytes 2 1) := by
  decide +kernel

end WalnutGateway
