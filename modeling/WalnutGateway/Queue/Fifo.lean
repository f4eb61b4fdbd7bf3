import WalnutGateway.Core.Machine
import WalnutGateway.Queue.Persist
import WalnutGateway.Queue.SendQueue

/-!
# The file-backed queue as a FIFO

Pushes and pops of a queue with an overflow file, run against a list. Rows move
from the ring to the file, are re-encoded there and read back; as long as no
row is longer than what the reader of compact records takes, no row is refused
and the file is not cleared, none of this can be seen.
-/

namespace WalnutGateway

variable {α κ : Type}

/-! ## Two machines -/

/-- The producer's and the consumer's calls. -/
inductive QueueOp (α : Type)
  | push (data : α)
  | pop (max : Nat)

/-- What the calls return. -/
inductive QueueReply (α : Type)
  | pushed (r : Result)
  | popped (r : Result) (rows : List α)
  deriving DecidableEq

/-- The call on translated rows. -/
def QueueOp.map (f : α → κ) : QueueOp α → QueueOp κ
  | .push data => .push (f data)
  | .pop max => .pop max

/-- The reply with translated rows. -/
def QueueReply.map (f : α → κ) : QueueReply α → QueueReply κ
  | .pushed r => .pushed r
  | .popped r rows => .popped r (rows.map f)

/-- The queue under a sequence of calls. -/
def queueMachine (cfg : QueueConfig α) : Machine (Device α) (QueueOp α) (QueueReply α) where
  step d
    | .push data => (.pushed (queuePush cfg d data).1, (queuePush cfg d data).2)
    | .pop max =>
      (.popped (queuePop cfg d max).1.1 (queuePop cfg d max).1.2, (queuePop cfg d max).2)

/-- The abstract queue: a push appends, a pop takes from the front. -/
def fifoMachine (κ : Type) : Machine (List κ) (QueueOp κ) (QueueReply κ) where
  step s
    | .push data => (.pushed .success, s ++ [data])
    | .pop max =>
      (.popped (if max = 0 then .invalidParam else if s.isEmpty then .notFound else .success)
        (s.take max), s.drop max)

/-- A device with nothing on flash where no call will fail. -/
def Device.fresh (buffer : Nat → α) : Device α :=
  .zeroed ⟨⟨fun _ => none, []⟩, diskInitEmpty, false⟩ buffer

/-- A fresh queue is empty and in order. -/
theorem queueInv_fresh {cfg : QueueConfig α} (hcfg : cfg.WellFormed) (buffer : Nat → α) :
    QueueInv cfg (Device.fresh buffer) ∧ logicalContent cfg (Device.fresh buffer) = [] where
  left :=
    { sound := rfl
      ring := ⟨hcfg.capacity_pos, (Nat.zero_mod _).symm, Nat.zero_le _⟩
      size_eq := rfl
      read_lt := Or.inr ⟨rfl, rfl⟩
      done := ⟨[], Framing.Framed.nil⟩
      unread := ⟨[], Framing.Framed.nil⟩ }
  right := rfl

/-- The TCP send queue of a device with nothing on flash, its buffer zeroed. -/
def freshSendQueue : Device ModuleMessage := .fresh fun _ => .ofPayload .log .log []

theorem queueInv_freshSendQueue :
    QueueInv tcpSendQueueConfig freshSendQueue ∧
      logicalContent tcpSendQueueConfig freshSendQueue = [] :=
  queueInv_fresh wellFormed_tcpSendQueueConfig _

/-! ## Rows that the overflow file keeps -/

/-- The encoder of the overflow file accepts the row. -/
def AcceptedRow (cfg : QueueConfig α) (x : α) : Prop := (queueRecord cfg x).isSome = true

instance (cfg : QueueConfig α) (x : α) : Decidable (AcceptedRow cfg x) :=
  inferInstanceAs (Decidable (_ = true))

/-- All rows of the ring are ones the overflow file keeps. -/
def RingKept (cfg : QueueConfig α) (d : Device α) : Prop :=
  ∀ x ∈ d.q.ringRows cfg, AcceptedRow cfg x ∧ ShortRow cfg x

/-- A push of an accepted row that clears no overflow file; any pop. -/
def AcceptedStep (cfg : QueueConfig α) (d : Device α) : QueueOp α → Prop
  | .push data => AcceptedRow cfg data ∧ ¬ PushClears cfg d
  | .pop _ => True

instance (cfg : QueueConfig α) (d : Device α) : ∀ op, Decidable (AcceptedStep cfg d op)
  | .push _ => inferInstanceAs (Decidable (_ ∧ _))
  | .pop _ => isTrue trivial

/-- Such a step whose row is no longer than the inline size. -/
def KeptStep (cfg : QueueConfig α) (d : Device α) : QueueOp α → Prop
  | .push data => (AcceptedRow cfg data ∧ ShortRow cfg data) ∧ ¬ PushClears cfg d
  | .pop _ => True

instance (cfg : QueueConfig α) (d : Device α) : ∀ op, Decidable (KeptStep cfg d op)
  | .push _ => inferInstanceAs (Decidable (_ ∧ _))
  | .pop _ => isTrue trivial

/-- The head row of a ring that is not empty is one of its rows. -/
theorem head_mem_ringRows {cfg : QueueConfig α} {q : Queue α} (h : q.RingOk cfg)
    (hc : 0 < q.count) : q.buffer q.head ∈ q.ringRows cfg := by
  rw [ringRows_dropHead h hc]
  exact List.mem_cons_self

section Steps

variable {cfg : QueueConfig α} {d : Device α}

theorem mem_ringRows_popLoop (hcfg : cfg.WellFormed) (n : Nat) {d : Device α} (h : StoreOk cfg d)
    {x : α} (hx : x ∈ (queuePopLoop cfg n d).2.q.ringRows cfg) : x ∈ d.q.ringRows cfg := by
  induction n generalizing d with
  | zero => exact hx
  | succ n ih =>
    have h1 := h.popOne hcfg
    have hback := mem_ringRows_popOne hcfg h (x := x)
    rw [queuePopLoop] at hx
    cases hp : queuePopOne cfg d with
    | mk r d' =>
      rw [hp] at h1 hx hback
      cases r with
      | error e => exact hback hx
      | ok y => exact hback (ih h1 hx)

theorem mem_ringRows_pop (hcfg : cfg.WellFormed) (h : StoreOk cfg d) (max : Nat) {x : α}
    (hx : x ∈ (queuePop cfg d max).2.q.ringRows cfg) : x ∈ d.q.ringRows cfg := by
  unfold queuePop at hx
  split at hx
  · exact hx
  · split at hx
    · exact hx
    · dsimp only at hx
      split at hx <;> exact mem_ringRows_popLoop hcfg max h hx

/-- A push of a kept row that clears nothing is a push on the list. -/
theorem fifo_push (hcfg : cfg.WellFormed) (h : QueueInv cfg d) (hkept : RingKept cfg d) {data : α}
    (hdata : AcceptedRow cfg data ∧ ShortRow cfg data) (hclear : ¬ PushClears cfg d) :
    (queuePush cfg d data).1 = .success ∧ QueueInv cfg (queuePush cfg d data).2 ∧
      RingKept cfg (queuePush cfg d data).2 ∧
      contentKeys cfg (queuePush cfg d data).2 = contentKeys cfg d ++ [rowKey cfg data] := by
  have hhead (hfull : cfg.capacity ≤ d.q.count) :=
    hkept _ (head_mem_ringRows h.ring (by have := hcfg.capacity_pos; omega))
  have hok : (queuePush cfg d data).1 = .success :=
    (queuePush_eq_success_iff hcfg h.ring h.sound data).mpr fun hfull => (hhead hfull).1
  obtain ⟨hinv, hkeys⟩ := h.push hcfg (fun hfull => (hhead hfull).2) data
  refine ⟨hok, hinv, ?_, ?_⟩
  · intro x hx
    obtain hold | rfl := mem_ringRows_push hcfg h.ring h.sound hx
    · exact hkept x hold
    · exact hdata
  · rw [hkeys fun hc => hclear hc.2, if_pos hok]

/-- A pop is a pop on the list. -/
theorem fifo_pop (hcfg : cfg.WellFormed) (h : QueueInv cfg d) (hkept : RingKept cfg d) (max : Nat) :
    (queuePop cfg d max).1 =
      (if max = 0 then .invalidParam else if (logicalContent cfg d).isEmpty then .notFound
        else .success, (logicalContent cfg d).take max) ∧
      QueueInv cfg (queuePop cfg d max).2 ∧ RingKept cfg (queuePop cfg d max).2 ∧
      logicalContent cfg (queuePop cfg d max).2 = (logicalContent cfg d).drop max := by
  by_cases hmax : max = 0
  · subst hmax
    exact ⟨rfl, h, hkept, rfl⟩
  · obtain ⟨hreply, hinv, hdrop⟩ := h.pop hcfg (Nat.pos_of_ne_zero hmax)
    refine ⟨?_, hinv, fun x hx => hkept x (mem_ringRows_pop hcfg h.toStoreOk max hx), hdrop⟩
    rw [hreply, if_neg hmax]
    simp only [List.isEmpty_iff]

/-- Empty or in use, a queue in order whose rows are kept answers every sequence
of accepted short pushes and of pops as the list of its content does, and stays
in order. -/
theorem queue_refines_fifo_from (hcfg : cfg.WellFormed) (h : QueueInv cfg d)
    (hkept : RingKept cfg d) {ops : List (QueueOp α)}
    (hops : (queueMachine cfg).Along (KeptStep cfg) d ops) :
    ((queueMachine cfg).run d ops).1.map (QueueReply.map (rowKey cfg)) =
        ((fifoMachine (RowKey α)).run (contentKeys cfg d)
          (ops.map (QueueOp.map (rowKey cfg)))).1 ∧
      (QueueInv cfg ((queueMachine cfg).run d ops).2 ∧
        RingKept cfg ((queueMachine cfg).run d ops).2 ∧
        contentKeys cfg ((queueMachine cfg).run d ops).2 =
          ((fifoMachine (RowKey α)).run (contentKeys cfg d)
            (ops.map (QueueOp.map (rowKey cfg)))).2) := by
  refine (queueMachine cfg).refines (fifoMachine (RowKey α)) (P := KeptStep cfg)
    (R := fun d s => QueueInv cfg d ∧ RingKept cfg d ∧ contentKeys cfg d = s)
    (QueueOp.map (rowKey cfg)) (QueueReply.map (rowKey cfg)) ?_ ⟨h, hkept, rfl⟩ hops
  rintro d s op ⟨hinv, hkept, rfl⟩ hstep
  cases op with
  | push data =>
    obtain ⟨hok, hinv', hkept', hkeys⟩ := fifo_push hcfg hinv hkept hstep.1 hstep.2
    exact ⟨congrArg QueueReply.pushed hok, hinv', hkept', hkeys⟩
  | pop max =>
    obtain ⟨hreply, hinv', hkept', hdrop⟩ := fifo_pop hcfg hinv hkept max
    refine ⟨?_, hinv', hkept', ?_⟩
    · simp only [queueMachine, fifoMachine, QueueOp.map, QueueReply.map, hreply, contentKeys,
        List.map_take, List.isEmpty_map]
    · simp only [queueMachine, fifoMachine, QueueOp.map, contentKeys, hdrop, List.map_drop]

/-- From an empty queue on, as long as every pushed row is one the encoder
accepts and the reader takes, and the overflow file is not cleared, pushes and
pops are those of a list, and the representation stays in order. -/
theorem queue_refines_fifo (hcfg : cfg.WellFormed) (h : QueueInv cfg d)
    (hempty : logicalContent cfg d = []) (ops : List (QueueOp α))
    (hops : (queueMachine cfg).Along (KeptStep cfg) d ops) :
    ((queueMachine cfg).run d ops).1.map (QueueReply.map (rowKey cfg)) =
        ((fifoMachine (RowKey α)).run [] (ops.map (QueueOp.map (rowKey cfg)))).1 ∧
      contentKeys cfg ((queueMachine cfg).run d ops).2 =
        ((fifoMachine (RowKey α)).run [] (ops.map (QueueOp.map (rowKey cfg)))).2 ∧
      QueueInv cfg ((queueMachine cfg).run d ops).2 := by
  have hkeys : contentKeys cfg d = [] := by rw [contentKeys, hempty, List.map_nil]
  have hkept : RingKept cfg d := by
    have hrows := (List.append_eq_nil_iff.mp hempty).2
    intro x hx
    rw [hrows] at hx
    exact absurd hx List.not_mem_nil
  obtain ⟨hout, hinv, -, hcontent⟩ := queue_refines_fifo_from hcfg h hkept hops
  rw [hkeys] at hout hcontent
  exact ⟨hout, hcontent, hinv⟩

/-- The TCP send queue with one packet pushed and popped. -/
theorem queue_refines_fifo_send_queue :
    ((queueMachine tcpSendQueueConfig).run freshSendQueue
        [.push (.ofPayload .gps .tcp [0x57, 0x45, 0x49]), .pop 5]).1.map
        (QueueReply.map (rowKey tcpSendQueueConfig)) =
      ((fifoMachine (RowKey ModuleMessage)).run []
        ([QueueOp.push (ModuleMessage.ofPayload .gps .tcp [0x57, 0x45, 0x49]), .pop 5].map
          (QueueOp.map (rowKey tcpSendQueueConfig)))).1 :=
  (queue_refines_fifo wellFormed_tcpSendQueueConfig queueInv_freshSendQueue.1
    queueInv_freshSendQueue.2 [.push (.ofPayload .gps .tcp [0x57, 0x45, 0x49]), .pop 5]
    (by decide)).1

/-- Eight accepted rows of 300 bytes in a heap block: the first one migrates to
the overflow file, where the reader refuses it, and the pop returns nothing. -/
theorem long_rows_not_fifo :
    ∃ ops : List (QueueOp ModuleMessage),
      (queueMachine tcpSendQueueConfig).Along (AcceptedStep tcpSendQueueConfig)
        freshSendQueue ops ∧
      ((queueMachine tcpSendQueueConfig).run freshSendQueue ops).1.map
          (QueueReply.map (rowKey tcpSendQueueConfig)) ≠
        ((fifoMachine (RowKey ModuleMessage)).run []
          (ops.map (QueueOp.map (rowKey tcpSendQueueConfig)))).1 :=
  ⟨List.replicate 8 (.push (.ofBuffer .cmd .tcp ([0x57, 0x45, 38] ++ List.replicate 297 0))) ++
    [.pop 1], by decide +kernel, by decide +kernel⟩

end Steps

end WalnutGateway
