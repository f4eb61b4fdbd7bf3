import WalnutGateway.Core.Bytes
import Mathlib.Logic.Function.Basic

/-!
# The SDK file layer

`wm_sdk_file_*` over an arbitrary set of paths. A flash state maps paths to
file contents and carries the outcomes the driver will give to the next calls;
a call past the end of that list succeeds. A failing or short write leaves the
bytes it did write in the file. Handles hold the position that reads and
writes advance.
-/

namespace WalnutGateway

/-- What the flash driver does with one call. -/
inductive IoOutcome
  /-- The call is carried out in full. -/
  | success
  /-- Success is returned after at most `done` bytes. -/
  | short (done : Nat)
  /-- An error is returned after at most `done` bytes reached the file. -/
  | fail (done : Nat)
  deriving DecidableEq, Repr

/-- File contents, and the outcomes of the calls to come (success once used up). -/
structure Flash (π : Type) where
  /-- Contents of each existing file. -/
  files : π → Option (List Byte)
  /-- Driver outcomes of the next calls. -/
  outcomes : List IoOutcome

/-- The `fopen` modes the firmware uses. -/
inductive FileMode
  | rb
  | wb
  | ab
  deriving DecidableEq, Repr

/-- An open file: where it is and where the next read or write goes. -/
structure FileHandle (π : Type) where
  path : π
  mode : FileMode
  pos : Nat

/-- The result of `wm_sdk_file_read`. -/
structure ReadReply (π : Type) where
  ok : Bool
  data : List Byte
  fp : FileHandle π
  flash : Flash π

/-- The result of `wm_sdk_file_write`; `written` is its out parameter. -/
structure WriteReply (π : Type) where
  ok : Bool
  written : Nat
  fp : FileHandle π
  flash : Flash π

variable {π : Type}

namespace Flash

/-- The outcome of the next call, and the flash that waits for the call after it. -/
def tick (fs : Flash π) : IoOutcome × Flash π :=
  match fs.outcomes with
  | [] => (.success, fs)
  | o :: os => (o, { fs with outcomes := os })

/-- No call is going to fail. -/
def Sound (fs : Flash π) : Prop := fs.outcomes = []

instance (fs : Flash π) : Decidable fs.Sound := inferInstanceAs (Decidable (fs.outcomes = []))

/-- Contents of a file, empty when there is none. -/
def contents (fs : Flash π) (path : π) : List Byte := (fs.files path).getD []

variable [DecidableEq π]

/-- Replace the contents of one file. -/
def put (fs : Flash π) (path : π) (bytes : List Byte) : Flash π :=
  { fs with files := Function.update fs.files path (some bytes) }

/-- Remove one file. -/
def erase (fs : Flash π) (path : π) : Flash π :=
  { fs with files := Function.update fs.files path none }

@[simp] theorem put_outcomes (fs : Flash π) (path : π) (bytes : List Byte) :
    (fs.put path bytes).outcomes = fs.outcomes := rfl

@[simp] theorem erase_outcomes (fs : Flash π) (path : π) :
    (fs.erase path).outcomes = fs.outcomes := rfl

@[simp] theorem put_files_self (fs : Flash π) (path : π) (bytes : List Byte) :
    (fs.put path bytes).files path = some bytes := Function.update_self ..

@[simp] theorem put_files_of_ne (fs : Flash π) {path other : π} (bytes : List Byte)
    (h : other ≠ path) : (fs.put path bytes).files other = fs.files other :=
  Function.update_of_ne h ..

@[simp] theorem erase_files_self (fs : Flash π) (path : π) :
    (fs.erase path).files path = none := Function.update_self ..

@[simp] theorem erase_files_of_ne (fs : Flash π) {path other : π} (h : other ≠ path) :
    (fs.erase path).files other = fs.files other := Function.update_of_ne h ..

@[simp] theorem put_put (fs : Flash π) (path : π) (bytes bytes' : List Byte) :
    (fs.put path bytes).put path bytes' = fs.put path bytes' := by
  simp only [put, Function.update_idem]

@[simp] theorem erase_put (fs : Flash π) (path : π) (bytes : List Byte) :
    (fs.erase path).put path bytes = fs.put path bytes := by
  simp only [erase, put, Function.update_idem]

@[simp] theorem erase_erase (fs : Flash π) (path : π) :
    (fs.erase path).erase path = fs.erase path := by
  simp only [erase, Function.update_idem]

@[simp] theorem contents_put (fs : Flash π) (path : π) (bytes : List Byte) :
    (fs.put path bytes).contents path = bytes := by
  rw [contents, put_files_self, Option.getD_some]

@[simp] theorem contents_erase (fs : Flash π) (path : π) :
    (fs.erase path).contents path = [] := by
  rw [contents, erase_files_self, Option.getD_none]

omit [DecidableEq π] in
theorem contents_of_files {fs : Flash π} {path : π} {bytes : List Byte}
    (h : fs.files path = some bytes) : fs.contents path = bytes := by
  rw [contents, h, Option.getD_some]

omit [DecidableEq π] in
theorem Sound.tick {fs : Flash π} (h : fs.Sound) : fs.tick = (.success, fs) := by
  unfold Sound at h
  simp only [Flash.tick, h]

theorem Sound.put {fs : Flash π} (h : fs.Sound) (path : π) (bytes : List Byte) :
    (fs.put path bytes).Sound := h

theorem Sound.erase {fs : Flash π} (h : fs.Sound) (path : π) : (fs.erase path).Sound := h

end Flash

/-! ## The calls -/

variable [DecidableEq π]

/-- `wm_sdk_file_open`: reading needs the file, writing creates it, and `wb` empties it. -/
def wmSdkFileOpen (fs : Flash π) (path : π) (mode : FileMode) :
    Option (FileHandle π) × Flash π :=
  let t := fs.tick
  match t.1, mode with
  | .success, .rb =>
    if (t.2.files path).isSome then (some ⟨path, .rb, 0⟩, t.2) else (none, t.2)
  | .success, .wb => (some ⟨path, .wb, 0⟩, t.2.put path [])
  | .success, .ab => (some ⟨path, .ab, 0⟩, t.2.put path (t.2.contents path))
  | _, _ => (none, t.2)

/-- The contents after `data` was written at the handle: at the end in append mode. -/
def FileHandle.overwrite (fp : FileHandle π) (old data : List Byte) : List Byte :=
  match fp.mode with
  | .ab => old ++ data
  | _ => old.take fp.pos ++ data ++ old.drop (fp.pos + data.length)

/-- `wm_sdk_file_write` of all of `data`. -/
def wmSdkFileWrite (fs : Flash π) (fp : FileHandle π) (data : List Byte) : WriteReply π :=
  let t := fs.tick
  let put (ok : Bool) (part : List Byte) : WriteReply π :=
    ⟨ok, part.length, { fp with pos := fp.pos + part.length },
      t.2.put fp.path (fp.overwrite (t.2.contents fp.path) part)⟩
  match t.1 with
  | .success => put true data
  | .short k => put true (data.take k)
  | .fail k => put false (data.take k)

/-- `wm_sdk_file_read` of up to `size` bytes. -/
def wmSdkFileRead (fs : Flash π) (fp : FileHandle π) (size : Nat) : ReadReply π :=
  let t := fs.tick
  let get (ok : Bool) (n : Nat) : ReadReply π :=
    let data := ((t.2.contents fp.path).drop fp.pos).take n
    ⟨ok, data, { fp with pos := fp.pos + data.length }, t.2⟩
  match t.1 with
  | .success => get true size
  | .short k => get true (min k size)
  | .fail k => get false (min k size)

/-- `wm_sdk_file_seek` from the start of the file; its result is never looked at. -/
def wmSdkFileSeek (fs : Flash π) (fp : FileHandle π) (offset : Nat) :
    FileHandle π × Flash π :=
  let t := fs.tick
  match t.1 with
  | .success => ({ fp with pos := offset }, t.2)
  | _ => (fp, t.2)

/-- `wm_sdk_file_seek` from where the handle is; there is no place before the start. -/
def wmSdkFileSeekCur (fs : Flash π) (fp : FileHandle π) (offset : Int) :
    FileHandle π × Flash π :=
  let t := fs.tick
  match t.1 with
  | .success =>
    (if fp.pos + offset < 0 then fp else { fp with pos := (fp.pos + offset).toNat }, t.2)
  | _ => (fp, t.2)

/-- `wm_sdk_file_sync`; its result is never looked at. -/
def wmSdkFileSync (fs : Flash π) : Flash π := fs.tick.2

/-- `wm_sdk_file_get_size`: the size, if the call succeeds. -/
def wmSdkFileGetSize (fs : Flash π) (fp : FileHandle π) : Option Nat × Flash π :=
  let t := fs.tick
  match t.1 with
  | .success => (some (t.2.contents fp.path).length, t.2)
  | _ => (none, t.2)

/-- `wm_sdk_file_close`: true on success. -/
def wmSdkFileClose (fs : Flash π) : Bool × Flash π :=
  let t := fs.tick
  (t.1 = .success, t.2)

/-- `wm_sdk_file_exists`: true when the path is reported to exist. -/
def wmSdkFileExists (fs : Flash π) (path : π) : Bool × Flash π :=
  let t := fs.tick
  match t.1 with
  | .success => ((t.2.files path).isSome, t.2)
  | _ => (false, t.2)

/-- `wm_sdk_file_delete`: true when the file existed and is gone. -/
def wmSdkFileDelete (fs : Flash π) (path : π) : Bool × Flash π :=
  let t := fs.tick
  match t.1 with
  | .success => ((t.2.files path).isSome, t.2.erase path)
  | _ => (false, t.2)

/-! ## What a call leaves alone, whatever the driver does -/

/-- At most the file at `path` differs. -/
def Flash.SameBut (path : π) (fs fs' : Flash π) : Prop :=
  ∀ other, other ≠ path → fs'.files other = fs.files other

section SameBut

variable {path : π} {fs fs' fs'' : Flash π}

omit [DecidableEq π] in
theorem Flash.SameBut.refl (path : π) (fs : Flash π) : fs.SameBut path fs := fun _ _ => rfl

omit [DecidableEq π] in
theorem Flash.SameBut.trans (h : fs.SameBut path fs') (h' : fs'.SameBut path fs'') :
    fs.SameBut path fs'' := fun other hne => (h' other hne).trans (h other hne)

omit [DecidableEq π] in
theorem Flash.SameBut.of_files (h : fs'.files = fs.files) : fs.SameBut path fs' :=
  fun other _ => congrFun h other

omit [DecidableEq π] in
@[simp] theorem Flash.tick_files (fs : Flash π) : fs.tick.2.files = fs.files := by
  unfold Flash.tick
  split <;> rfl

theorem Flash.sameBut_put (path : π) (fs : Flash π) (bytes : List Byte) :
    fs.SameBut path (fs.put path bytes) := fun _ hne => Flash.put_files_of_ne _ _ hne

theorem Flash.sameBut_erase (path : π) (fs : Flash π) : fs.SameBut path (fs.erase path) :=
  fun _ hne => Flash.erase_files_of_ne _ hne

omit [DecidableEq π] in
theorem Flash.sameBut_tick (path : π) (fs : Flash π) : fs.SameBut path fs.tick.2 :=
  .of_files fs.tick_files

theorem wmSdkFileOpen_sameBut (fs : Flash π) (path : π) (mode : FileMode) :
    fs.SameBut path (wmSdkFileOpen fs path mode).2 := by
  have htick := Flash.sameBut_tick path fs
  unfold wmSdkFileOpen
  dsimp only
  split
  · split <;> exact htick
  · exact htick.trans (Flash.sameBut_put _ _ _)
  · exact htick.trans (Flash.sameBut_put _ _ _)
  · exact htick

/-- Opening for reading changes nothing. -/
theorem wmSdkFileOpen_rb_files (fs : Flash π) (path : π) :
    (wmSdkFileOpen fs path .rb).2.files = fs.files := by
  unfold wmSdkFileOpen
  dsimp only
  cases fs.tick.1 with
  | success => dsimp only; split <;> exact fs.tick_files
  | short k => exact fs.tick_files
  | fail k => exact fs.tick_files

/-- A handle is one on the file that was opened, at its start. -/
theorem wmSdkFileOpen_handle {mode : FileMode} {fp : FileHandle π}
    (h : (wmSdkFileOpen fs path mode).1 = some fp) : fp = ⟨path, mode, 0⟩ := by
  unfold wmSdkFileOpen at h
  dsimp only at h
  split at h
  · split at h
    · cases h
      rfl
    · cases h
  · cases h
    rfl
  · cases h
    rfl
  · cases h

theorem wmSdkFileWrite_sameBut (fs : Flash π) (fp : FileHandle π) (data : List Byte) :
    fs.SameBut fp.path (wmSdkFileWrite fs fp data).flash ∧
      (wmSdkFileWrite fs fp data).fp.path = fp.path := by
  have htick := Flash.sameBut_tick fp.path fs
  unfold wmSdkFileWrite
  dsimp only
  split <;> exact ⟨htick.trans (Flash.sameBut_put _ _ _), rfl⟩

omit [DecidableEq π] in
theorem wmSdkFileRead_files (fs : Flash π) (fp : FileHandle π) (size : Nat) :
    (wmSdkFileRead fs fp size).flash.files = fs.files := by
  unfold wmSdkFileRead
  dsimp only
  split <;> exact fs.tick_files

omit [DecidableEq π] in
/-- A read gives bytes of the file from where the handle is, no more than asked for,
and leaves the handle behind them. -/
theorem wmSdkFileRead_data (fs : Flash π) (fp : FileHandle π) (size : Nat) :
    (wmSdkFileRead fs fp size).data <+: ((fs.contents fp.path).drop fp.pos).take size ∧
      (wmSdkFileRead fs fp size).fp =
        { fp with pos := fp.pos + (wmSdkFileRead fs fp size).data.length } := by
  have htake (k : Nat) (hk : k ≤ size) : ((fs.tick.2.contents fp.path).drop fp.pos).take k <+:
      ((fs.contents fp.path).drop fp.pos).take size := by
    rw [Flash.contents, Flash.tick_files, ← Flash.contents]
    exact List.take_prefix_take_left hk
  unfold wmSdkFileRead
  dsimp only
  split
  · exact ⟨htake _ (Nat.le_refl _), rfl⟩
  · exact ⟨htake _ (Nat.min_le_right _ _), rfl⟩
  · exact ⟨htake _ (Nat.min_le_right _ _), rfl⟩

omit [DecidableEq π] in
theorem wmSdkFileSeek_files (fs : Flash π) (fp : FileHandle π) (offset : Nat) :
    (wmSdkFileSeek fs fp offset).2.files = fs.files := by
  unfold wmSdkFileSeek
  dsimp only
  split <;> exact fs.tick_files

omit [DecidableEq π] in
theorem wmSdkFileSeekCur_files (fs : Flash π) (fp : FileHandle π) (offset : Int) :
    (wmSdkFileSeekCur fs fp offset).2.files = fs.files := by
  unfold wmSdkFileSeekCur
  dsimp only
  split <;> exact fs.tick_files

omit [DecidableEq π] in
theorem wmSdkFileSeekCur_path (fs : Flash π) (fp : FileHandle π) (offset : Int) :
    (wmSdkFileSeekCur fs fp offset).1.path = fp.path := by
  unfold wmSdkFileSeekCur
  dsimp only
  split
  · split <;> rfl
  · rfl

omit [DecidableEq π] in
theorem wmSdkFileGetSize_files (fs : Flash π) (fp : FileHandle π) :
    (wmSdkFileGetSize fs fp).2.files = fs.files := by
  unfold wmSdkFileGetSize
  dsimp only
  split <;> exact fs.tick_files

omit [DecidableEq π] in
theorem wmSdkFileClose_files (fs : Flash π) : (wmSdkFileClose fs).2.files = fs.files :=
  fs.tick_files

theorem wmSdkFileDelete_sameBut (fs : Flash π) (path : π) :
    fs.SameBut path (wmSdkFileDelete fs path).2 := by
  have htick := Flash.sameBut_tick path fs
  unfold wmSdkFileDelete
  dsimp only
  split
  · exact htick.trans (Flash.sameBut_erase _ _)
  · exact htick

end SameBut

omit [DecidableEq π] in
theorem Flash.tick_fst (fs : Flash π) : fs.tick.1 = fs.outcomes.headD .success := by
  unfold Flash.tick
  split <;> simp [*]

omit [DecidableEq π] in
theorem Flash.tick_outcomes (fs : Flash π) : fs.tick.2.outcomes = fs.outcomes.tail := by
  unfold Flash.tick
  split <;> simp [*]

omit [DecidableEq π] in
theorem Flash.tick_contents (fs : Flash π) (path : π) :
    fs.tick.2.contents path = fs.contents path := by
  rw [Flash.contents, Flash.tick_files, Flash.contents]

/-- A write that reports all of its bytes put them all there. -/
theorem wmSdkFileWrite_complete {fs : Flash π} {fp : FileHandle π} {data : List Byte}
    (hok : (wmSdkFileWrite fs fp data).ok = true)
    (hall : (wmSdkFileWrite fs fp data).written = data.length) :
    (wmSdkFileWrite fs fp data).flash.files fp.path =
        some (fp.overwrite (fs.contents fp.path) data) ∧
      (wmSdkFileWrite fs fp data).fp = { fp with pos := fp.pos + data.length } := by
  have htick := fs.tick_contents fp.path
  unfold wmSdkFileWrite at hok hall ⊢
  dsimp only at hok hall ⊢
  cases ho : fs.tick.1 with
  | success => exact ⟨by rw [Flash.put_files_self, htick], rfl⟩
  | short k =>
    rw [ho] at hall
    dsimp only at hall
    have htake : data.take k = data :=
      List.take_of_length_le (by rw [List.length_take] at hall; omega)
    dsimp only
    rw [htake]
    exact ⟨by rw [Flash.put_files_self, htick], rfl⟩
  | fail k =>
    rw [ho] at hok
    cases hok

/-- What a write of `data` moves under a driver outcome. -/
def IoOutcome.moved (data : List Byte) : IoOutcome → List Byte
  | .success => data
  | .short k => data.take k
  | .fail k => data.take k

/-- An append adds what the driver moves, and is complete only if that is all. -/
theorem wmSdkFileWrite_ab (fs : Flash π) (path : π) (pos : Nat) (data : List Byte) :
    let w := wmSdkFileWrite fs ⟨path, .ab, pos⟩ data
    let p := (fs.outcomes.headD .success).moved data
    w.flash.contents path = fs.contents path ++ p ∧ w.flash.outcomes = fs.outcomes.tail ∧
      w.written = p.length ∧ (∃ pos', w.fp = ⟨path, .ab, pos'⟩) ∧
      (w.ok = true ↔ ∀ k, fs.outcomes.headD .success ≠ .fail k) := by
  dsimp only
  rw [← fs.tick_fst]
  unfold wmSdkFileWrite
  dsimp only
  cases fs.tick.1 with
  | success =>
    refine ⟨?_, fs.tick_outcomes, rfl, ⟨_, rfl⟩, by simp⟩
    rw [Flash.contents_put, Flash.tick_contents]
    rfl
  | short k =>
    refine ⟨?_, fs.tick_outcomes, rfl, ⟨_, rfl⟩, by simp⟩
    rw [Flash.contents_put, Flash.tick_contents]
    rfl
  | fail k =>
    refine ⟨?_, fs.tick_outcomes, rfl, ⟨_, rfl⟩, by simp⟩
    rw [Flash.contents_put, Flash.tick_contents]
    rfl

/-- Opening for appending changes no contents, and fails with the driver only. -/
theorem wmSdkFileOpen_ab_contents (fs : Flash π) (path : π) :
    (wmSdkFileOpen fs path .ab).2.contents path = fs.contents path ∧
      (wmSdkFileOpen fs path .ab).2.outcomes = fs.outcomes.tail ∧
      ((wmSdkFileOpen fs path .ab).1 = none ↔ fs.outcomes.headD .success ≠ .success) := by
  rw [← fs.tick_fst]
  unfold wmSdkFileOpen
  dsimp only
  cases fs.tick.1 with
  | success =>
    exact ⟨by rw [Flash.contents_put, Flash.tick_contents], fs.tick_outcomes, by simp⟩
  | short k => exact ⟨fs.tick_contents path, fs.tick_outcomes, by simp⟩
  | fail k => exact ⟨fs.tick_contents path, fs.tick_outcomes, by simp⟩

/-- Only a call that the driver fails opens no file for writing. -/
theorem wmSdkFileOpen_wb_files (fs : Flash π) (path : π) :
    ∀ fp ∈ (wmSdkFileOpen fs path .wb).1, (wmSdkFileOpen fs path .wb).2.files path = some [] := by
  intro fp h
  unfold wmSdkFileOpen at h ⊢
  dsimp only at h ⊢
  cases ho : fs.tick.1 with
  | success => exact Flash.put_files_self ..
  | short k =>
    rw [ho] at h
    cases h
  | fail k =>
    rw [ho] at h
    cases h

/-! ## Calls on a flash where nothing fails -/

section Sound

variable {fs : Flash π}

theorem wmSdkFileOpen_rb (h : fs.Sound) (path : π) :
    wmSdkFileOpen fs path .rb =
      (if (fs.files path).isSome then some ⟨path, .rb, 0⟩ else none, fs) := by
  simp only [wmSdkFileOpen, h.tick]
  split <;> rfl

theorem wmSdkFileOpen_rb_none (h : fs.Sound) {path : π} (hp : fs.files path = none) :
    wmSdkFileOpen fs path .rb = (none, fs) := by
  simp [wmSdkFileOpen_rb h, hp]

theorem wmSdkFileOpen_rb_some (h : fs.Sound) {path : π} {bytes : List Byte}
    (hp : fs.files path = some bytes) :
    wmSdkFileOpen fs path .rb = (some ⟨path, .rb, 0⟩, fs) := by
  simp [wmSdkFileOpen_rb h, hp]

theorem wmSdkFileOpen_wb (h : fs.Sound) (path : π) :
    wmSdkFileOpen fs path .wb = (some ⟨path, .wb, 0⟩, fs.put path []) := by
  simp only [wmSdkFileOpen, h.tick]

theorem wmSdkFileOpen_ab (h : fs.Sound) (path : π) :
    wmSdkFileOpen fs path .ab = (some ⟨path, .ab, 0⟩, fs.put path (fs.contents path)) := by
  simp only [wmSdkFileOpen, h.tick]

theorem wmSdkFileWrite_sound (h : fs.Sound) (fp : FileHandle π) (data : List Byte) :
    wmSdkFileWrite fs fp data =
      ⟨true, data.length, { fp with pos := fp.pos + data.length },
        fs.put fp.path (fp.overwrite (fs.contents fp.path) data)⟩ := by
  simp only [wmSdkFileWrite, h.tick]

omit [DecidableEq π] in
theorem wmSdkFileRead_sound (h : fs.Sound) (fp : FileHandle π) (size : Nat) :
    wmSdkFileRead fs fp size =
      ⟨true, ((fs.contents fp.path).drop fp.pos).take size,
        { fp with pos := fp.pos + (((fs.contents fp.path).drop fp.pos).take size).length },
        fs⟩ := by
  simp only [wmSdkFileRead, h.tick]

omit [DecidableEq π] in
theorem wmSdkFileSeek_sound (h : fs.Sound) (fp : FileHandle π) (offset : Nat) :
    wmSdkFileSeek fs fp offset = ({ fp with pos := offset }, fs) := by
  simp only [wmSdkFileSeek, h.tick]

omit [DecidableEq π] in
theorem wmSdkFileGetSize_sound (h : fs.Sound) (fp : FileHandle π) :
    wmSdkFileGetSize fs fp = (some (fs.contents fp.path).length, fs) := by
  simp only [wmSdkFileGetSize, h.tick]

omit [DecidableEq π] in
theorem wmSdkFileClose_sound (h : fs.Sound) : wmSdkFileClose fs = (true, fs) := by
  simp only [wmSdkFileClose, h.tick, decide_true]

omit [DecidableEq π] in
theorem wmSdkFileExists_sound (h : fs.Sound) (path : π) :
    wmSdkFileExists fs path = ((fs.files path).isSome, fs) := by
  simp only [wmSdkFileExists, h.tick]

theorem wmSdkFileDelete_sound (h : fs.Sound) (path : π) :
    wmSdkFileDelete fs path = ((fs.files path).isSome, fs.erase path) := by
  simp only [wmSdkFileDelete, h.tick]

end Sound

end WalnutGateway
