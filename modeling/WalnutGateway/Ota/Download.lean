import WalnutGateway.Common.Text
import WalnutGateway.Storage.FileSystem
import Mathlib.Data.List.Range

/-!
# Downloading an image

The download engine of `ota_file_download.c`: a session is set up, the image is read in chunks
and each chunk is written to a file. It is built with `OTA_DOWNLOAD_TEST`, so the SIMCOM image
goes to a file as well. A run keeps a log of what was opened and released, and of the closes
and deletes that failed. The HTTPS client, the message queue and the size of the flash are what
the environment makes of them.
-/

namespace WalnutGateway

/-- Bytes of the server's file. -/
def serverBytes (content : Nat → Byte) (offset length : Nat) : List Byte :=
  (List.range' offset length).map content

/-- `sdk_https_download_read_chunk`: a call that succeeds brings bytes of the file from the
offset, at least one and no more than were asked for. -/
structure DownloadServer where
  content : Nat → Byte
  readChunk : Nat → Nat → Nat → Option (List Byte)
  honest : ∀ {call offset size data}, readChunk call offset size = some data →
    0 < data.length ∧ data.length ≤ size ∧ data = serverBytes content offset data.length

/-- What the download finds around it. -/
structure DownloadEnv where
  server : DownloadServer
  /-- `wm_sdk_msgq_create`. -/
  msgqCreated : Bool
  /-- `sdk_https_download_init` on `SDK_HTTPS_DATA_TX_USB20`. -/
  usbInit : Bool
  /-- The same on `SDK_HTTPS_DATA_TX_SERIAL`. -/
  serialInit : Bool
  /-- `sdk_https_download_configure_ssl`. -/
  sslConfigured : Bool
  /-- `sdk_https_download_set_params`. -/
  paramsSet : List Byte → Bool
  /-- `sdk_https_download_get_file_size`. -/
  fileSize : Option Nat
  /-- The free bytes of `file_system_get_disk_info`. -/
  freeBytes : Option Int

/-- What a download opens. -/
inductive DownloadResource
  | msgq
  | https
  | file
  deriving DecidableEq

/-- What a download does with it. -/
inductive DownloadEvent
  | opened (r : DownloadResource)
  | released (r : DownloadResource)
  | closeFailed
  | deleteFailed
  deriving DecidableEq

/-- The flash, the chunks asked for so far, and the log. -/
structure DownloadRun where
  flash : Flash (List Byte)
  reads : Nat
  log : List DownloadEvent

namespace DownloadRun

/-- The log goes on. -/
def note (st : DownloadRun) (events : List DownloadEvent) : DownloadRun :=
  { st with log := st.log ++ events }

/-- `file_system_delete`. -/
def fileSystemDelete (path : List Byte) (st : DownloadRun) : Bool × DownloadRun :=
  let d := wmSdkFileDelete st.flash path
  (d.1, { st with flash := d.2 }.note (if d.1 then [] else [.deleteFailed]))

/-- `wm_sdk_file_close` of the file that the image is written to. -/
def fileClose (st : DownloadRun) : Bool × DownloadRun :=
  let c := wmSdkFileClose st.flash
  (c.1, { st with flash := c.2 }.note
    (if c.1 then [.released .file] else [.closeFailed, .released .file]))

end DownloadRun

/-! ## The engine -/

/-- `OTA_DL_CHUNK_SIZE`. -/
def otaDlChunkSize : Nat := 1024

/-- `OTA_FLASH_DOWNLOAD_MARGIN_BYTES`. -/
def otaFlashDownloadMarginBytes : Nat := 64 * 1024

/-- `ota_flash_has_space_for_download`. -/
def otaFlashHasSpaceForDownload (env : DownloadEnv) (fileSize : Nat) (replacePath : List Byte)
    (st : DownloadRun) : Bool × DownloadRun :=
  if fileSize = 0 then (false, st)
  else
    let probe := fileSystemReadFile st.flash replacePath 1
    let st :=
      if replacePath = [] then st
      else if probe.1.isOk then ({ st with flash := probe.2 }.fileSystemDelete replacePath).2
      else { st with flash := probe.2 }
    match env.freeBytes with
    | none => (false, st)
    | some free => (0 ≤ free ∧ fileSize + otaFlashDownloadMarginBytes ≤ free.toNat, st)

/-- `ota_download_init_https`. -/
def otaDownloadInitHttps (env : DownloadEnv) (st : DownloadRun) : Bool × DownloadRun :=
  if ¬ env.msgqCreated then (false, st)
  else if ¬ env.usbInit ∧ ¬ env.serialInit then
    (false, st.note [.opened .msgq, .released .msgq])
  else if ¬ env.sslConfigured then
    (false, st.note [.opened .msgq, .opened .https, .released .https, .released .msgq])
  else (true, st.note [.opened .msgq, .opened .https])

/-- `ota_download_cleanup_https`. -/
def otaDownloadCleanupHttps (st : DownloadRun) : DownloadRun :=
  st.note [.released .https, .released .msgq]

/-- `ota_download_read_chunk`. -/
def otaDownloadReadChunk (server : DownloadServer) (call offset chunkSize bufferSize : Nat) :
    Option (List Byte) :=
  if bufferSize = 0 then none
  else
    let chunkSize := if bufferSize < chunkSize then bufferSize else chunkSize
    match server.readChunk call offset chunkSize with
    | none => none
    | some data => if data.length = 0 then none else some (data.take bufferSize)

/-- A chunk has at least one byte. -/
theorem otaDownloadReadChunk_pos {server : DownloadServer} {call offset chunkSize bufferSize : Nat}
    {data : List Byte}
    (h : otaDownloadReadChunk server call offset chunkSize bufferSize = some data) :
    0 < data.length := by
  unfold otaDownloadReadChunk at h
  split at h
  · cases h
  · rename_i hbuffer
    dsimp only at h
    split at h
    · cases h
    · split at h
      · cases h
      · rename_i hdata
        cases h
        rw [List.length_take]
        omega

/-- `ota_download_stream` from an offset into a file; every chunk moves the offset. -/
def otaDownloadStream (server : DownloadServer) (fileSize scratchSize offset : Nat)
    (fp : FileHandle (List Byte)) (st : DownloadRun) : Bool × DownloadRun :=
  if offset < fileSize then
    let remaining := fileSize - offset
    let chunkSize := if otaDlChunkSize < remaining then otaDlChunkSize else remaining
    match h : otaDownloadReadChunk server st.reads offset chunkSize scratchSize with
    | none => (false, { st with reads := st.reads + 1 })
    | some data =>
      -- `ota_sink_file`
      let w := wmSdkFileWrite st.flash fp data
      if ¬ (w.ok ∧ w.written = data.length) then
        (false, { st with flash := w.flash, reads := st.reads + 1 })
      else
        have : 0 < data.length := otaDownloadReadChunk_pos h
        otaDownloadStream server fileSize scratchSize (offset + data.length) w.fp
          { st with flash := w.flash, reads := st.reads + 1 }
  else (true, st)
termination_by fileSize - offset

/-- What `ota_download_write_simcom` and `ota_download_write_st` do once the old file is gone:
open, stream, close, and delete where one of them fails. -/
def otaDownloadWriteFile (env : DownloadEnv) (fileSize scratchSize : Nat) (path : List Byte)
    (st : DownloadRun) : Bool × DownloadRun :=
  match wmSdkFileOpen st.flash path .wb with
  | (none, flash) => (false, { st with flash := flash })
  | (some file, flash) =>
    let streamed := otaDownloadStream env.server fileSize scratchSize 0 file
      ({ st with flash := flash }.note [.opened .file])
    let closed := streamed.2.fileClose
    if ¬ streamed.1 ∨ ¬ closed.1 then (false, (closed.2.fileSystemDelete path).2)
    else (true, closed.2)

/-- `OTA_DOWNLOAD_TEST_FILE_PATH`. -/
def otaDownloadTestFilePath : List Byte := asciiBytes "C:/fota/simcom_test.bin"

/-- `ST_FIRMWARE_FILE_PATH`. -/
def stFirmwareFilePath : List Byte := asciiBytes "C:/fota/st_firmware.bin"

/-- `ota_download_write_simcom`. -/
def otaDownloadWriteSimcom (env : DownloadEnv) (fileSize scratchSize : Nat) (st : DownloadRun) :
    Bool × DownloadRun :=
  let space := otaFlashHasSpaceForDownload env fileSize otaDownloadTestFilePath st
  if ¬ space.1 then (false, space.2)
  else otaDownloadWriteFile env fileSize scratchSize otaDownloadTestFilePath space.2

/-- `ota_download_write_st`. -/
def otaDownloadWriteSt (env : DownloadEnv) (fileSize scratchSize : Nat) (st : DownloadRun) :
    Bool × DownloadRun :=
  let probe := fileSystemReadFile st.flash stFirmwareFilePath 1
  let st := { st with flash := probe.2 }
  if probe.1.isOk then
    let d := st.fileSystemDelete stFirmwareFilePath
    if ¬ d.1 then (false, d.2)
    else otaDownloadWriteFile env fileSize scratchSize stFirmwareFilePath d.2
  else otaDownloadWriteFile env fileSize scratchSize stFirmwareFilePath st

/-! ## The entry points -/

/-- `OTA_UPGRADE_SIMCOM`. -/
def otaUpgradeSimcom : Int := 0

/-- `OTA_UPGRADE_ST`. -/
def otaUpgradeSt : Int := 1

/-- What an entry point returns and leaves; `outSize` is written where it is not `NULL`. -/
structure DownloadReply where
  ok : Bool
  outSize : Nat
  run : DownloadRun

/-- `ota_download_and_write_firmware`; `none` is a `NULL` pointer. -/
def otaDownloadAndWriteFirmware (env : DownloadEnv) (upgradeType : Int) (url : Option (List Byte))
    (scratch : Option Nat) (st : DownloadRun) : DownloadReply :=
  match url, scratch with
  | some url, some scratchSize =>
    if url = [] then ⟨false, 0, st⟩
    else if scratchSize = 0 then ⟨false, 0, st⟩
    else if upgradeType ≠ otaUpgradeSimcom ∧ upgradeType ≠ otaUpgradeSt then ⟨false, 0, st⟩
    else
      let init := otaDownloadInitHttps env st
      if ¬ init.1 then ⟨false, 0, init.2⟩
      else if ¬ env.paramsSet url then ⟨false, 0, otaDownloadCleanupHttps init.2⟩
      else
        match env.fileSize with
        | none => ⟨false, 0, otaDownloadCleanupHttps init.2⟩
        | some 0 => ⟨false, 0, otaDownloadCleanupHttps init.2⟩
        | some (n + 1) =>
          if upgradeType = otaUpgradeSt then
            let space := otaFlashHasSpaceForDownload env (n + 1) stFirmwareFilePath init.2
            if ¬ space.1 then ⟨false, 0, otaDownloadCleanupHttps space.2⟩
            else
              let written := otaDownloadWriteSt env (n + 1) scratchSize space.2
              ⟨written.1, if written.1 then n + 1 else 0, otaDownloadCleanupHttps written.2⟩
          else
            let written := otaDownloadWriteSimcom env (n + 1) scratchSize init.2
            ⟨written.1, 0, otaDownloadCleanupHttps written.2⟩
  | _, _ => ⟨false, 0, st⟩

/-- `ota_download_peripheral_file`. -/
def otaDownloadPeripheralFile (env : DownloadEnv) (url destPath : Option (List Byte))
    (scratch : Option Nat) (st : DownloadRun) : Bool × DownloadRun :=
  match url, destPath, scratch with
  | some url, some destPath, some scratchSize =>
    if url = [] ∨ scratchSize = 0 then (false, st)
    else
      let init := otaDownloadInitHttps env st
      if ¬ init.1 then (false, init.2)
      else if ¬ env.paramsSet url then (false, otaDownloadCleanupHttps init.2)
      else
        match env.fileSize with
        | none => (false, otaDownloadCleanupHttps init.2)
        | some 0 => (false, otaDownloadCleanupHttps init.2)
        | some (n + 1) =>
          let space := otaFlashHasSpaceForDownload env (n + 1) destPath init.2
          if ¬ space.1 then (false, otaDownloadCleanupHttps space.2)
          else
            match wmSdkFileOpen space.2.flash destPath .wb with
            | (none, flash) => (false, otaDownloadCleanupHttps { space.2 with flash := flash })
            | (some file, flash) =>
              let streamed := otaDownloadStream env.server (n + 1) scratchSize 0 file
                ({ space.2 with flash := flash }.note [.opened .file])
              let cleaned := otaDownloadCleanupHttps streamed.2.fileClose.2
              if ¬ streamed.1 then (false, (cleaned.fileSystemDelete destPath).2)
              else (true, cleaned)
  | _, _, _ => (false, st)

end WalnutGateway
