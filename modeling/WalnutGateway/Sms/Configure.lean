import WalnutGateway.Common.Utils
import WalnutGateway.Sim.Detect

/-!
# The modem's SMS configuration

`sms_configure` begins each cycle of the SMS task. It sets the modem up for an inserted SIM, a
bounded number of times and spaced out, until a latch says that it is done. The SIM task tells
it of the SIM through a flag that it changes at any time; the steps of `sms_configure` are those
between two uses of what the tasks share.
-/

namespace WalnutGateway

/-- `SMS_CONFIG_MAX_ATTEMPTS`. -/
def smsConfigMaxAttempts : Nat := 10

/-- `SMS_CONFIG_RETRY_INTERVAL_MS`. -/
def smsConfigRetryIntervalMs : Nat := 2000

/-- Where the SMS task is. -/
inductive SmsPc
  /-- In the rest of its cycle, which may stay inside `wm_sdk_sms_send`. -/
  | cycle
  /-- Before `sms_configure` looks at the flag. -/
  | configure
  /-- Before `weware_sim_get_sim_status`. -/
  | simStatus
  /-- Before the flag is set as the SIM module has a SIM. -/
  | mark
  /-- Before the flag is looked at for the second time. -/
  | check
  /-- Before the attempt is counted. -/
  | attempt
  | init
  | deleteAll
  | setFormat (essentialOk : Bool)
  | setNewMsgInd (essentialOk : Bool)
  | setCharset (essentialOk : Bool)
  | finish (essentialOk : Bool)
  deriving DecidableEq, Repr

/-- The attempt is counted and `sms_configure` has not returned. -/
def SmsPc.inSequence : SmsPc → Bool
  | .init | .deleteAll | .setFormat _ | .setNewMsgInd _ | .setCharset _ | .finish _ => true
  | _ => false

/-- The variables of `sms_manager.c` that `sms_configure` uses, and the task's place. -/
structure SmsSetup where
  /-- `g_sms_sim_inserted`. -/
  simInserted : Bool
  /-- `s_sms_modem_config_applied`. -/
  modemConfigApplied : Bool
  /-- `s_sms_config_attempts`. -/
  configAttempts : UInt8
  /-- `s_sms_config_last_attempt_ms`. -/
  configLastAttemptMs : UInt32
  pc : SmsPc
  deriving DecidableEq, Repr

/-- What a step of the task finds. -/
structure SmsSetupEnv where
  /-- `utils_monotonic_ms_now`. -/
  nowMs : UInt32
  /-- `weware_sim_get_sim_status`. -/
  simStatus : Bool
  /-- The answer of the modem to the command of the step. -/
  answer : ModemResult
  /-- `sms_purge_store`, where the step calls it. -/
  purged : Bool

namespace SmsSetup

/-- The variables before the task starts. -/
def init : SmsSetup := ⟨false, false, 0, 0, .cycle⟩

/-- `sms_on_sim_status`. -/
def onSimStatus (event : SimBroadcast) (m : SmsSetup) : SmsSetup :=
  match event with
  | .available => { m with simInserted := true }
  | .unavailable => { m with simInserted := false }

/-- The second look at the flag, and the checks before an attempt. -/
def check (env : SmsSetupEnv) (m : SmsSetup) : SmsSetup :=
  if ¬ m.simInserted then
    { m with
      modemConfigApplied := false
      configAttempts := 0
      configLastAttemptMs := 0
      pc := .cycle }
  else if m.modemConfigApplied then { m with pc := .cycle }
  else if m.configAttempts > 0 ∧
      (utilsMonotonicMsElapsed env.nowMs m.configLastAttemptMs).toNat <
        smsConfigRetryIntervalMs then
    { m with pc := .cycle }
  else { m with pc := .attempt }

/-- The sequence gets to the latch, as it succeeded or as it gives up. -/
def completes (essentialOk : Bool) (m : SmsSetup) : Bool :=
  essentialOk ∨ smsConfigMaxAttempts ≤ m.configAttempts.toNat

/-- The end of the sequence. -/
def finish (essentialOk : Bool) (m : SmsSetup) : SmsSetup :=
  if ¬ m.completes essentialOk then { m with pc := .cycle }
  else if m.simInserted then { m with modemConfigApplied := true, pc := .cycle }
  else { m with pc := .cycle }

/-- The next step of `sms_configure`, or of the rest of the cycle. -/
def smsConfigure (env : SmsSetupEnv) (m : SmsSetup) : SmsSetup :=
  match m.pc with
  | .cycle => { m with pc := .configure }
  | .configure => { m with pc := if m.simInserted then .check else .simStatus }
  | .simStatus => { m with pc := if env.simStatus then .mark else .check }
  | .mark => { m with simInserted := true, pc := .check }
  | .check => m.check env
  | .attempt =>
    { m with
      configAttempts := m.configAttempts + 1
      configLastAttemptMs := env.nowMs
      pc := .init }
  | .init => { m with pc := if env.answer = .success then .deleteAll else .cycle }
  | .deleteAll => { m with pc := .setFormat (env.answer ≠ .failed ∨ env.purged) }
  | .setFormat ok => { m with pc := .setNewMsgInd (ok ∧ env.answer ≠ .failed) }
  | .setNewMsgInd ok => { m with pc := .setCharset (ok ∧ env.answer ≠ .failed) }
  | .setCharset ok => { m with pc := .finish (ok ∧ env.answer ≠ .failed) }
  | .finish ok => m.finish ok

end SmsSetup

/-! ## The two tasks -/

/-- The SIM module and the SMS task, with the sequences that were run. An insertion is a change
of the SIM module's status from unavailable to available. -/
structure SmsSetupRun where
  /-- Milliseconds on a clock that does not wrap. -/
  now : Nat
  sim : SimDetect
  /-- The broadcasts of the SIM module that the callback has yet to take. -/
  pending : List SimBroadcast
  sms : SmsSetup
  /-- When the sequences of the current insertion began, the latest first. -/
  starts : List Nat
  /-- The same of the earlier insertions. -/
  earlier : List (List Nat)
  /-- The insertion in which the latest sequence began. -/
  startedIn : Nat
  /-- The insertions in which the complete sequences began. -/
  completed : List Nat

/-- What happens to the two tasks. -/
inductive SmsSetupEvent
  /-- Time passes. -/
  | wait (ms : Nat)
  /-- The SIM task: the callback of a broadcast, or a status that it has debounced. -/
  | sim (available : Bool)
  /-- The SMS task. -/
  | sms (answer : ModemResult) (purged : Bool)
  deriving DecidableEq

namespace SmsSetupRun

/-- Before the SMS task starts; the SIM module may have told of the SIM already. -/
def boot (available : Bool) (now : Nat) : SmsSetupRun where
  now := now
  sim := { SimDetect.init with simAvailable := available, lastNotifiedState := available }
  pending := []
  sms := .init
  starts := []
  earlier := []
  startedIn := 0
  completed := []

/-- The insertions so far. -/
def insertion (r : SmsSetupRun) : Nat := r.earlier.length

/-- The status changes from unavailable to available. -/
def Inserts (r : SmsSetupRun) (available : Bool) : Prop :=
  r.pending = [] ∧ r.sim.simAvailable = false ∧ available = true

instance (r : SmsSetupRun) (available : Bool) : Decidable (r.Inserts available) :=
  inferInstanceAs (Decidable (_ ∧ _ ∧ _))

/-- A step of the SIM task. -/
def simTask (available : Bool) (r : SmsSetupRun) : SmsSetupRun :=
  match r.pending with
  | event :: rest => { r with sms := r.sms.onSimStatus event, pending := rest }
  | [] =>
    let set := wewareSimSetSimAvailable available r.sim
    let next := { r with sim := set.2, pending := set.1 }
    if r.Inserts available then { next with starts := [], earlier := r.starts :: r.earlier }
    else next

/-- A step of the SMS task. -/
def smsTask (answer : ModemResult) (purged : Bool) (r : SmsSetupRun) : SmsSetupRun :=
  let next := { r with
    sms := r.sms.smsConfigure ⟨UInt32.ofNat r.now, r.sim.simAvailable, answer, purged⟩ }
  match r.sms.pc with
  | .attempt => { next with starts := r.now :: r.starts, startedIn := r.insertion }
  | .finish ok =>
    if r.sms.completes ok then { next with completed := r.startedIn :: r.completed } else next
  | _ => next

/-- The two tasks, step by step. -/
def machine : Machine SmsSetupRun SmsSetupEvent Unit where
  step r e :=
    ((), match e with
      | .wait ms => { r with now := r.now + ms }
      | .sim available => r.simTask available
      | .sms answer purged => r.smsTask answer purged)

end SmsSetupRun

end WalnutGateway
