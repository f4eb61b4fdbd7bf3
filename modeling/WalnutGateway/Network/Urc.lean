import WalnutGateway.Core.Flow
import WalnutGateway.Network.Manager
import WalnutGateway.Queue.Bounded
import WalnutGateway.Queue.Fifo

/-!
# The way of a modem event

The modem's events wait in a queue of the kernel until the URC task hands each to the module that
it is for, and there in a second queue until that module's task drains it. Both queues drop what
finds no room.
-/

namespace WalnutGateway

/-! ## The queues -/

/-- An event code in a queue; nothing is cast to a `ModuleMessage` here. -/
def urcRow : RowType UInt32 where
  size := 4
  image event := leBytes 4 event.toNat
  ofImage bytes := UInt32.ofNat (leNat bytes)
  asMessage _ := .ofPayload .network .network []
  ofMessage _ := 0
  Plain _ := True
  length_image event := length_leBytes 4 event.toNat
  ofImage_image event _ := by
    rw [leNat_leBytes (lt_of_lt_of_eq event.toNat_lt (by norm_num)), UInt32.ofNat_toNat]

/-- The queue of the network module. -/
def netUrcQConfig : QueueConfig UInt32 where
  name := "NET_URC_Q"
  element := urcRow
  capacity := 8
  threadSafe := true
  maxFileSize := 0
  persistOnReboot := false

/-- `urc_event_to_module_id`. -/
def urcEventToModuleId (event : UInt32) : ModuleId :=
  if event = 0 ∨ event = 1 ∨ event = 2 ∨ event = 3 ∨ event = 10 ∨ event = 11 then .network
  else if event = 4 ∨ event = 5 ∨ event = 6 ∨ event = 7 then .sim
  else .count

/-- What the network module makes of an event code. -/
def urcEventOf (event : UInt32) : UrcEvent :=
  if event = 0 then .pdpActive
  else if event = 1 then .pdpInactive
  else if event = 2 then .netActive
  else if event = 3 then .netDisconnected
  else .other

/-- A registered module, as the URC task sees it. -/
structure UrcModule where
  enabled : Bool
  /-- `urc_q`, if it is there. -/
  urcQ : Option (Device UInt32)

/-- The two stages, and the network module behind them. -/
structure UrcSystem where
  /-- `urcMsgQ`. -/
  msgq : List UInt32
  modules : ModuleId → UrcModule
  network : Network

/-- What comes of a step: the event that the network module handles, and its outputs. -/
structure UrcAnswer where
  handled : List UInt32
  outputs : List NetworkOutput

/-- A step of the network task, which handles an event for each turn of
`network_drain_urc_queue`. -/
def UrcSystem.networkTask (env : ModemEnv) (s : UrcSystem) : UrcAnswer × UrcSystem :=
  let idle := (networkMachine.step s.network (.task env))
  if s.network.pc ≠ .drain then (⟨[], idle.1⟩, { s with network := idle.2 })
  else match (s.modules .network).urcQ with
    | none => (⟨[], idle.1⟩, { s with network := idle.2 })
    | some d =>
      match queuePop netUrcQConfig d 1 with
      | ((.success, event :: _), d') =>
        let r := networkMachine.step s.network (.urc (urcEventOf event))
        (⟨[event], r.1⟩, { s with
          network := r.2
          modules := Function.update s.modules .network
            { s.modules .network with urcQ := some d' } })
      | (_, d') => (⟨[], idle.1⟩, { s with
          network := idle.2
          modules := Function.update s.modules .network
            { s.modules .network with urcQ := some d' } })

/-- What happens. -/
inductive UrcOp
  /-- The kernel dispatches an event. -/
  | dispatch (event : UInt32)
  /-- A turn of the loop of `urc_task_entry`. -/
  | recv
  | networkTask (env : ModemEnv)
  | wait (ms : Nat)
  | simAvailable

/-- The events for the network module. -/
def forNetwork (events : List UInt32) : List UInt32 :=
  events.filter fun event => urcEventToModuleId event = .network

/-- The rows of the network module's queue. -/
def UrcSystem.netRows (s : UrcSystem) : List UInt32 :=
  (s.modules .network).urcQ.elim [] fun d => d.q.ringRows netUrcQConfig

/-- The events for the network module that are on their way. -/
def UrcSystem.waiting (s : UrcSystem) : List UInt32 := s.netRows ++ forNetwork s.msgq

/-- The events that are dispatched for the network module. -/
def UrcOp.emitted : UrcOp → List UInt32
  | .dispatch event => forNetwork [event]
  | _ => []

section Step

variable {s : UrcSystem}

end Step

/-! ## Whole runs -/

/-- After start: the network module has its queue, and nothing waits. -/
def UrcSystem.start : UrcSystem where
  msgq := []
  modules mid := ⟨true, if mid = .network then
    some (.fresh fun _ => 0) else none⟩
  network := .start 0

end WalnutGateway
