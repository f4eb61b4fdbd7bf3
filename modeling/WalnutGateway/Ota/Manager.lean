import WalnutGateway.Common.Utils
import WalnutGateway.Core.Machine

/-!
# The OTA manager

The main loop runs `ota_manager_check_and_update` over and over. Its steps are those between
which the command handler and the event callbacks can get in: the IMEI, the two gates, the
session flag, the dispatch of the one device, and the end of the session.
-/

namespace WalnutGateway

/-- `OTA_CHECK_COOLDOWN_MS`. -/
def otaCheckCooldownMs : Nat := 12 * 60 * 60 * 1000

/-- `OtaDevice`. -/
inductive OtaDevice
  | simcom
  | st
  | peripheral
  | count
  deriving DecidableEq, Repr

/-- `OtaResult`. -/
inductive OtaResult
  | noUpdate
  | updated
  | inProgress
  | skipped
  | error
  deriving DecidableEq, Repr

/-- `OtaReason`, as far as the SIMCOM path sets it. -/
inductive OtaReason
  | none
  | ok
  | noUpdate
  | versionCheck
  | download
  deriving DecidableEq, Repr

/-- Where `ota_manager_check_and_update` is. -/
inductive OtaPc
  /-- Between two ticks. -/
  | start
  /-- Before the prerequisites are asked for. -/
  | gates
  | cooldown
  /-- Before the session is marked as busy. -/
  | session
  | dispatch
  | finish (result : OtaResult)
  deriving DecidableEq, Repr

/-- `OtaState`, with the time that the tick counter counts. -/
structure Ota where
  initialized : Bool
  networkConnected : Bool
  gpsConfigured : Bool
  lastCheckTicks : UInt32
  imei : CArray 16
  imeiValid : Bool
  periInProgress : Bool
  forceActive : Bool
  sessionActive : Bool
  stInProgress : Bool
  simLastReason : OtaReason
  /-- Milliseconds on a clock that does not wrap. -/
  time : Nat
  pc : OtaPc

/-- What a step of the tick finds. -/
structure OtaEnv where
  /-- The event manager takes the four callbacks. -/
  registered : Bool
  /-- `device_utils_get_imei`. -/
  imei : Option (List Byte)
  /-- `weware_network_is_stable`. -/
  stable : Bool
  /-- `ota_check_update_required`. -/
  updateRequired : Int
  /-- `ota_download_and_write_firmware`. -/
  downloaded : Int

/-- A step of the tick, a request of the command handler, a callback, or time that passes. -/
inductive OtaEvent
  | task (env : OtaEnv)
  | forceUpdate (registered : Bool)
  | networkConnected
  | networkDisconnected
  | gpsConfigured
  | gpsDisconnected
  | wait (ms : Nat)

/-- What is seen of a step. -/
inductive OtaOutput
  | none
  /-- `ota_manager_check_and_update` returns. -/
  | returned (result : Int)
  /-- `ota_manager_force_update` returns. -/
  | forced (result : Result)
  deriving DecidableEq

namespace Ota

/-- The state after `memset`. -/
def zeroed (time : Nat) (pc : OtaPc) : Ota where
  initialized := false
  networkConnected := false
  gpsConfigured := false
  lastCheckTicks := 0
  imei := utilsStrncpySafe 16 []
  imeiValid := false
  periInProgress := false
  forceActive := false
  sessionActive := false
  stInProgress := false
  simLastReason := .none
  time := time
  pc := pc

/-- `ota_manager_init`. -/
def otaManagerInit (registered : Bool) (o : Ota) : Result × Ota :=
  if o.initialized then (.alreadyInitialized, o)
  else if registered then (.success, { zeroed o.time o.pc with initialized := true })
  else (.error, zeroed o.time o.pc)

/-- The manager as the boot leaves it. -/
def boot (time : Nat) : Ota := (otaManagerInit true (zeroed time .start)).2

/-- `SDK_GET_TICKS`. -/
def ticks (o : Ota) : UInt32 := UInt32.ofNat o.time

/-- `ota_prerequisites_ok`. -/
def prerequisitesOk (stable : Bool) (o : Ota) : Bool :=
  o.networkConnected && o.gpsConfigured && stable

/-- The cooldown has elapsed, or the stamp says that there is none. -/
def cooldownElapsed (o : Ota) : Bool :=
  o.lastCheckTicks = 0 ∨ otaCheckCooldownMs ≤ (utilsElapsedMsSince o.ticks o.lastCheckTicks).toNat

/-- `ota_check_cooldown`. -/
def checkCooldown (o : Ota) : Bool × Ota :=
  if o.cooldownElapsed then (true, { o with lastCheckTicks := o.ticks }) else (false, o)

/-- `ota_process_simcom_update`. -/
def processSimcomUpdate (env : OtaEnv) (o : Ota) : Int × Ota :=
  if env.updateRequired ≤ 0 then
    (env.updateRequired, { o with
      simLastReason := if env.updateRequired = 0 then .noUpdate else .versionCheck })
  else (env.downloaded, { o with
    simLastReason := if env.downloaded ≠ 0 then .ok else .download })

/-- The IMEI is cached, or can be. -/
def imeiKnown (env : OtaEnv) (o : Ota) : Bool :=
  o.imeiValid || (env.imei.elim [] cString).length ≠ 0

/-- `ota_context_ensure`. -/
def contextEnsure (env : OtaEnv) (o : Ota) : Bool × Ota :=
  if o.imeiValid then (true, o)
  else if o.imeiKnown env then
    (true, { o with imei := utilsStrncpySafe 16 (env.imei.getD []), imeiValid := true })
  else (false, o)

/-- `ota_run_simcom`. -/
def runSimcom (env : OtaEnv) (o : Ota) : OtaResult × Ota :=
  let processed := o.processSimcomUpdate env
  (if 0 < processed.1 then .updated else if processed.1 < 0 then .error else .noUpdate,
    processed.2)

/-- `ota_dispatch`. -/
def dispatch (env : OtaEnv) (device : OtaDevice) (o : Ota) : OtaResult × Ota :=
  if ¬ o.forceActive ∧ ¬ o.prerequisitesOk env.stable then (.skipped, o)
  else match device with
  | .simcom => o.runSimcom env
  | .st | .peripheral => (.noUpdate, o)
  | .count => (.error, o)

/-- The next step of `ota_manager_check_and_update`; the cycle walks one device. -/
def checkAndUpdate (env : OtaEnv) (o : Ota) : OtaOutput × Ota :=
  match o.pc with
  | .start =>
    let initialized := if o.initialized then o else (o.otaManagerInit env.registered).2
    let ensured := initialized.contextEnsure env
    if ensured.1 then (.none, { ensured.2 with pc := .gates }) else (.returned 0, ensured.2)
  | .gates =>
    if ¬ o.forceActive ∧ ¬ o.prerequisitesOk env.stable then (.returned 0, { o with pc := .start })
    else (.none, { o with pc := .cooldown })
  | .cooldown =>
    if o.forceActive then (.none, { o with pc := .session })
    else
      let checked := o.checkCooldown
      if checked.1 then (.none, { checked.2 with pc := .session })
      else (.returned 0, { checked.2 with pc := .start })
  | .session => (.none, { o with sessionActive := true, pc := .dispatch })
  | .dispatch =>
    let dispatched := o.dispatch env .simcom
    (.none, { dispatched.2 with pc := .finish dispatched.1 })
  | .finish result =>
    (.returned (if result = .updated then 1 else 0),
      { o with forceActive := false, sessionActive := false, pc := .start })

/-- `ota_manager_is_busy`. -/
def isBusy (o : Ota) : Bool := o.sessionActive || o.stInProgress || o.periInProgress

/-- `ota_manager_force_update`. -/
def forceUpdate (registered : Bool) (o : Ota) : OtaOutput × Ota :=
  let initialized := if o.initialized then o else (o.otaManagerInit registered).2
  if initialized.isBusy then (.forced .busy, initialized)
  else (.forced .success, { initialized with forceActive := true, lastCheckTicks := 0 })

end Ota

/-- The manager under the main loop, the command handler and the event manager. -/
def otaMachine : Machine Ota OtaEvent OtaOutput where
  step o e :=
    match e with
    | .task env => o.checkAndUpdate env
    | .forceUpdate registered => o.forceUpdate registered
    | .networkConnected => (.none, { o with networkConnected := true })
    | .networkDisconnected => (.none, { o with networkConnected := false })
    | .gpsConfigured => (.none, { o with gpsConfigured := true })
    | .gpsDisconnected => (.none, o)
    | .wait ms => (.none, { o with time := o.time + ms })

end WalnutGateway
