import WalnutGateway.Common.Types

/-!
# Whole-file access

`file_system_read_file` and `file_system_write_file`. The parent directory of
the file exists, so a failed open has another reason and is not retried.
-/

namespace WalnutGateway

variable {π : Type} [DecidableEq π]

/-- `file_system_write_file`. -/
def fileSystemWriteFile (fs : Flash π) (path : π) (data : List Byte) : Result × Flash π :=
  if data.length = 0 then (.invalidParam, fs) else
  match wmSdkFileOpen fs path .wb with
  | (none, fs) => (.error, fs)
  | (some file, fs) =>
    let w := wmSdkFileWrite fs file data
    if ¬ w.ok ∨ w.written ≠ data.length then (.error, w.flash) else
    let c := wmSdkFileClose w.flash
    if ¬ c.1 then (.error, c.2) else (.success, c.2)

/-- `file_system_read_file`: up to `bufferSize` bytes and how many were read. -/
def fileSystemReadFile (fs : Flash π) (path : π) (bufferSize : Nat) :
    Except Result (List Byte) × Flash π :=
  match wmSdkFileOpen fs path .rb with
  | (none, fs) => (.error .notFound, fs)
  | (some file, fs) =>
    let g := wmSdkFileGetSize fs file
    let fileSize := g.1.getD bufferSize
    let toRead := if fileSize < bufferSize then fileSize else bufferSize
    let r := wmSdkFileRead g.2 file toRead
    if ¬ r.ok ∨ (r.data.length = 0 ∧ toRead > 0) then (.error .error, r.flash) else
    (.ok r.data, r.flash)

/-- Writing a file touches no other, whatever the driver does. -/
theorem fileSystemWriteFile_sameBut (fs : Flash π) (path : π) (data : List Byte) :
    fs.SameBut path (fileSystemWriteFile fs path data).2 := by
  have hopen := wmSdkFileOpen_sameBut fs path .wb
  unfold fileSystemWriteFile
  split
  · exact .refl _ _
  · cases ho : wmSdkFileOpen fs path .wb with
    | mk file fs' =>
      rw [ho] at hopen
      cases file with
      | none => exact hopen
      | some file =>
        obtain rfl : file = ⟨path, .wb, 0⟩ := wmSdkFileOpen_handle (congrArg Prod.fst ho)
        have hwrite := hopen.trans (wmSdkFileWrite_sameBut fs' ⟨path, .wb, 0⟩ data).1
        have hclose := hwrite.trans (.of_files (wmSdkFileClose_files _))
        dsimp only
        split
        · exact hwrite
        · split <;> exact hclose

/-- A file that was written successfully holds the data. -/
theorem fileSystemWriteFile_success {fs : Flash π} {path : π} {data : List Byte}
    (h : (fileSystemWriteFile fs path data).1 = .success) :
    (fileSystemWriteFile fs path data).2.files path = some data := by
  have hopen := wmSdkFileOpen_wb_files fs path
  unfold fileSystemWriteFile at h ⊢
  split at h
  · cases h
  · rename_i hlen
    rw [if_neg hlen]
    cases ho : wmSdkFileOpen fs path .wb with
    | mk file fs' =>
      rw [ho] at h hopen
      cases file with
      | none => cases h
      | some file =>
        have hempty : fs'.contents path = [] := Flash.contents_of_files (hopen file rfl)
        obtain rfl : file = ⟨path, .wb, 0⟩ := wmSdkFileOpen_handle (congrArg Prod.fst ho)
        dsimp only at h ⊢
        split at h
        · cases h
        · rename_i hall
          rw [not_or, not_not, not_not] at hall
          obtain ⟨hfile, -⟩ := wmSdkFileWrite_complete hall.1 hall.2
          rw [hempty] at hfile
          have hdata : (wmSdkFileWrite fs' ⟨path, .wb, 0⟩ data).flash.files path = some data := by
            rw [hfile]
            simp [FileHandle.overwrite]
          rw [if_neg (by rw [not_or, not_not, not_not]; exact hall)]
          split <;> exact (congrFun (wmSdkFileClose_files _) path).trans hdata

/-- Reading a file changes nothing. -/
theorem fileSystemReadFile_files (fs : Flash π) (path : π) (bufferSize : Nat) :
    (fileSystemReadFile fs path bufferSize).2.files = fs.files := by
  have hopen := wmSdkFileOpen_rb_files fs path
  unfold fileSystemReadFile
  cases ho : wmSdkFileOpen fs path .rb with
  | mk file fs' =>
    rw [ho] at hopen
    cases file with
    | none => exact hopen
    | some file =>
      have hread (n : Nat) := ((wmSdkFileRead_files (wmSdkFileGetSize fs' file).2 file n).trans
        (wmSdkFileGetSize_files fs' file)).trans hopen
      dsimp only
      generalize (if (wmSdkFileGetSize fs' file).1.getD bufferSize < bufferSize then
        (wmSdkFileGetSize fs' file).1.getD bufferSize else bufferSize) = toRead
      split <;> exact hread toRead

section Sound

variable {fs : Flash π} (h : fs.Sound)
include h

theorem fileSystemWriteFile_sound (path : π) {data : List Byte} (hd : data ≠ []) :
    fileSystemWriteFile fs path data = (.success, fs.put path data) := by
  have hlen : data.length ≠ 0 := by simpa using hd
  simp only [fileSystemWriteFile, hlen, ite_false, wmSdkFileOpen_wb h,
    wmSdkFileWrite_sound (h.put path []), FileHandle.overwrite, Flash.contents_put,
    Flash.put_put, not_true, ne_eq, or_self]
  simp [wmSdkFileClose_sound (h.put path data)]

theorem fileSystemReadFile_none {path : π} (hp : fs.files path = none) (bufferSize : Nat) :
    fileSystemReadFile fs path bufferSize = (.error .notFound, fs) := by
  simp only [fileSystemReadFile, wmSdkFileOpen_rb_none h hp]

/-- Nothing fails: the file is read from its start, as far as the buffer goes. -/
theorem fileSystemReadFile_some {path : π} {bytes : List Byte} (hp : fs.files path = some bytes)
    (bufferSize : Nat) :
    fileSystemReadFile fs path bufferSize = (.ok (bytes.take bufferSize), fs) := by
  simp only [fileSystemReadFile, wmSdkFileOpen_rb_some h hp, wmSdkFileGetSize_sound h,
    wmSdkFileRead_sound h, Flash.contents_of_files hp, Option.getD_some, List.drop_zero]
  have htake : bytes.take (if bytes.length < bufferSize then bytes.length else bufferSize) =
      bytes.take bufferSize := by
    split
    · rw [List.take_length, List.take_of_length_le (by omega)]
    · rfl
  rw [htake, if_neg]
  rintro (hk | ⟨hz, hpos⟩)
  · exact hk trivial
  · rw [List.length_take] at hz
    split at hpos <;> omega

end Sound

end WalnutGateway
