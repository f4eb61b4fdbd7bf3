import WalnutGateway.Core.Machine
import WalnutGateway.Common.Types
import Mathlib.Logic.Function.Basic

/-!
# The event manager

Each event has a registry of up to sixteen callbacks. A removal puts the last entry into the
freed place. A broadcast goes through the places that were taken when it began and calls what
it finds there; a callback may register, unregister and broadcast while it runs, so broadcasts
nest.
-/

namespace WalnutGateway

/-- `EventType`. -/
inductive EventType
  | networkConnected
  | networkDisconnected
  | simAvailable
  | simUnavailable
  | gpsConnected
  | gpsDisconnected
  | gpsConfigured
  | tcpConnected
  | tcpDisconnected
  | smsConnected
  | smsDisconnected
  | smsReceived
  | moduleInitialized
  | moduleError
  | chargeConnected
  | chargeDisconnected
  | ignOn
  | ignOff
  | motionOn
  | motionOff
  | resetSoft
  | resetHard
  | urcSms
  | urcNetworkStatus
  | urcSimStatus
  | urcAtResponse
  deriving DecidableEq, Repr

/-- `CallbackEntry`; pointers are numbers, 0 for `NULL`. -/
structure CallbackEntry where
  callback : Nat
  userData : Nat
  moduleName : Option String
  active : Bool
  deriving DecidableEq

/-- An entry after `memset`. -/
def CallbackEntry.cleared : CallbackEntry := ⟨0, 0, none, false⟩

/-- `MAX_CALLBACKS_PER_EVENT`. -/
def maxCallbacksPerEvent : Nat := 16

/-- `EventRegistry`; `callbacks i` is entry `i`. -/
structure EventRegistry where
  callbacks : Nat → CallbackEntry
  count : Nat

namespace EventRegistry

/-- `registry_clear`. -/
def clear : EventRegistry := ⟨fun _ => .cleared, 0⟩

/-- Entry `i` is that of the callback. -/
def holds (r : EventRegistry) (callback i : Nat) : Bool :=
  (r.callbacks i).active ∧ (r.callbacks i).callback = callback

/-- The search of `event_manager_register` and `event_manager_unregister`. -/
def find (r : EventRegistry) (callback : Nat) : Option Nat :=
  (List.range r.count).find? (r.holds callback)

/-- `registry_remove_index`. -/
def removeIndex (r : EventRegistry) (idx : Nat) : EventRegistry :=
  if idx ≥ r.count ∨ r.count = 0 then r
  else
    let moved := if idx < r.count - 1 then
      Function.update r.callbacks idx (r.callbacks (r.count - 1)) else r.callbacks
    ⟨Function.update moved (r.count - 1) .cleared, r.count - 1⟩

/-- A new entry behind the others. -/
def append (r : EventRegistry) (entry : CallbackEntry) : EventRegistry :=
  ⟨Function.update r.callbacks r.count entry, r.count + 1⟩

/-- Entry `i` belongs to the module. -/
def ofModule (r : EventRegistry) (moduleName : String) (i : Nat) : Bool :=
  (r.callbacks i).active ∧ (r.callbacks i).moduleName = some moduleName

/-- The inner loop of `event_manager_unregister_module`; every turn frees an entry or goes on
to the next. -/
def removeModule (moduleName : String) : Nat → Nat → EventRegistry → EventRegistry
  | 0, _, r => r
  | turns + 1, i, r =>
    if i < r.count then
      if r.ofModule moduleName i then removeModule moduleName turns i (r.removeIndex i)
      else removeModule moduleName turns (i + 1) r
    else r

end EventRegistry

/-- A broadcast that is under way. The loop does not read the last three fields; they record
the callbacks that stand since the broadcast began, those it called, and those that were moved
from a place it had still to visit to one it has visited. -/
structure Broadcast where
  event : EventType
  i : Nat
  /-- The snapshot of `r->count`. -/
  count : Nat
  /-- The callback at `i` is running. -/
  running : Bool
  standing : List Nat
  called : List Nat
  passed : List Nat

/-- The registries, and the broadcasts under way, the innermost first. -/
structure EventManager where
  registries : EventType → EventRegistry
  broadcasts : List Broadcast

/-- What the code that runs does next. -/
inductive EventCall
  | register (event : EventType) (callback userData : Nat) (moduleName : Option String)
  | unregister (event : EventType) (callback : Nat)
  | unregisterModule (moduleName : Option String)
  | broadcast (event : EventType) (sourceModule : Option String)
  /-- The running callback returns, or the loop of the innermost broadcast takes a turn. -/
  | resume
  deriving DecidableEq

/-- What is seen of a step. -/
inductive EventOutput
  | returned (result : Result)
  /-- A callback is called, with its user data. -/
  | called (event : EventType) (callback userData : Nat)
  | none
  deriving DecidableEq

/-- A name that is neither `NULL` nor empty. -/
def validName (name : Option String) : Bool := name ≠ none ∧ name ≠ some ""

namespace EventManager

/-- After `event_manager_init`. -/
def init : EventManager := ⟨fun _ => .clear, []⟩

/-- `event_manager_register`. -/
def register (callback userData : Nat) (moduleName : Option String) (r : EventRegistry) :
    Result × EventRegistry :=
  if callback = 0 ∨ ¬ validName moduleName then (.invalidParam, r)
  else if (r.find callback).isSome then (.alreadyInitialized, r)
  else if maxCallbacksPerEvent ≤ r.count then (.error, r)
  else (.success, r.append ⟨callback, userData, moduleName, true⟩)

/-- `event_manager_unregister`. -/
def unregister (callback : Nat) (r : EventRegistry) : Result × EventRegistry :=
  if callback = 0 then (.invalidParam, r)
  else match r.find callback with
  | some i => (.success, r.removeIndex i)
  | none => (.error, r)

/-- `event_manager_unregister_module`, in one registry. -/
def unregisterModule (moduleName : Option String) (r : EventRegistry) : EventRegistry :=
  match moduleName with
  | some name => if name = "" then r else r.removeModule name r.count 0
  | none => r

end EventManager

namespace Broadcast

/-- The place the loop visits next. -/
def next (b : Broadcast) : Nat := if b.running then b.i + 1 else b.i

/-- The callback is moved from a place to visit to one that has been visited. -/
def movedBehind (b : Broadcast) (before after : EventRegistry) (callback : Nat) : Bool :=
  match before.find callback, after.find callback with
  | some p, some q => b.next ≤ p ∧ q < b.next
  | _, _ => false

/-- The records after its registry has changed. -/
def afterChange (before after : EventRegistry) (b : Broadcast) : Broadcast :=
  { b with
    standing := b.standing.filter fun callback => (after.find callback).isSome
    passed := b.standing.filter (b.movedBehind before after) ++ b.passed }

end Broadcast

namespace EventManager

/-- Registries change, and with them what the broadcasts under way record. -/
def change (m : EventManager) (registries : EventType → EventRegistry) : EventManager where
  registries := registries
  broadcasts := m.broadcasts.map fun b =>
    b.afterChange (m.registries b.event) (registries b.event)

/-- A callback runs, or no broadcast is under way. -/
def runs (m : EventManager) : Bool :=
  match m.broadcasts with
  | [] => true
  | b :: _ => b.running

/-- `event_manager_broadcast` up to its loop. -/
def broadcast (event : EventType) (sourceModule : Option String) (m : EventManager) :
    EventOutput × EventManager :=
  let r := m.registries event
  if ¬ validName sourceModule then (.returned .invalidParam, m)
  else if r.count = 0 then (.returned .success, m)
  else (.none, { m with broadcasts :=
    { event := event
      i := 0
      count := r.count
      running := false
      standing := (List.range r.count).map fun i => (r.callbacks i).callback
      called := []
      passed := [] } :: m.broadcasts })

/-- A turn of the loop of `event_manager_broadcast`, or the return of its callback. -/
def resume (m : EventManager) : EventOutput × EventManager :=
  match m.broadcasts with
  | [] => (.none, m)
  | b :: outer =>
    if b.running then
      (.none, { m with broadcasts := { b with running := false, i := b.i + 1 } :: outer })
    else if b.i < b.count then
      let entry := (m.registries b.event).callbacks b.i
      if entry.active ∧ entry.callback ≠ 0 then
        (.called b.event entry.callback entry.userData,
          { m with broadcasts :=
            { b with running := true, called := entry.callback :: b.called } :: outer })
      else (.none, { m with broadcasts := { b with i := b.i + 1 } :: outer })
    else (.returned .success, { m with broadcasts := outer })

end EventManager

/-- The event manager under its callers and callbacks. -/
def eventMachine : Machine EventManager EventCall EventOutput where
  step m call :=
    match call with
    | .register event callback userData moduleName =>
      let registered := EventManager.register callback userData moduleName (m.registries event)
      if m.runs then
        (.returned registered.1, m.change (Function.update m.registries event registered.2))
      else (.none, m)
    | .unregister event callback =>
      let unregistered := EventManager.unregister callback (m.registries event)
      if m.runs then
        (.returned unregistered.1, m.change (Function.update m.registries event unregistered.2))
      else (.none, m)
    | .unregisterModule moduleName =>
      if m.runs then
        (.returned (if validName moduleName then .success else .invalidParam),
          m.change fun event => EventManager.unregisterModule moduleName (m.registries event))
      else (.none, m)
    | .broadcast event sourceModule =>
      if m.runs then m.broadcast event sourceModule else (.none, m)
    | .resume => m.resume

end WalnutGateway
