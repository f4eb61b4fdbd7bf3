import WalnutGateway.Queue.Fifo

/-!
# Peek, then commit by count

The consumer of the TCP send queue copies a batch with `queue_peek_batch` and,
once the batch is acknowledged, removes as many rows with `queue_pop`. Pushes
of other tasks come in between. They keep the rows in front, unless a push that
finds the ring full deletes an overflow file that still holds some of them.
-/

namespace WalnutGateway

variable {α : Type}

/-- The calls that move rows of a send queue. -/
inductive SendQueueOp (α : Type)
  | push (data : α)
  | pop (max : Nat)
  | popTail

/-- The send queue under a sequence of calls. -/
def sendQueueMachine (cfg : QueueConfig α) : Machine (Device α) (SendQueueOp α) (QueueReply α) where
  step d
    | .push data => (.pushed (queuePush cfg d data).1, (queuePush cfg d data).2)
    | .pop max =>
      (.popped (queuePop cfg d max).1.1 (queuePop cfg d max).1.2, (queuePop cfg d max).2)
    | .popTail =>
      match queuePopTail cfg d with
      | (.error e, d) => (.popped e [], d)
      | (.ok x, d) => (.popped .success [x], d)

/-- No row of the ring is longer than what the reader of compact records takes. -/
def RingShort (cfg : QueueConfig α) (d : Device α) : Prop :=
  ∀ x ∈ d.q.ringRows cfg, ShortRow cfg x

/-- A call that pushes no longer row; the file may be cleared, the row refused. -/
def ShortStep (cfg : QueueConfig α) (_ : Device α) : SendQueueOp α → Prop
  | .push data => ShortRow cfg data
  | _ => True

instance (cfg : QueueConfig α) (d : Device α) : ∀ op, Decidable (ShortStep cfg d op)
  | .push data => inferInstanceAs (Decidable (ShortRow cfg data))
  | .pop _ => isTrue trivial
  | .popTail => isTrue trivial

/-- A push of no longer row that deletes no unread record. -/
def KeepsUnread (cfg : QueueConfig α) (d : Device α) : SendQueueOp α → Prop
  | .push data => ShortRow cfg data ∧ ¬ PushClearsUnread cfg d
  | _ => False

instance (cfg : QueueConfig α) (d : Device α) : ∀ op, Decidable (KeepsUnread cfg d op)
  | .push _ => inferInstanceAs (Decidable (_ ∧ _))
  | .pop _ => isFalse id
  | .popTail => isFalse id

section Steps

variable {cfg : QueueConfig α} {d : Device α}

/-- The head row of a full ring is short when all rows are. -/
theorem RingShort.head (hcfg : cfg.WellFormed) (h : d.q.RingOk cfg) (hs : RingShort cfg d)
    (hfull : cfg.capacity ≤ d.q.count) : ShortRow cfg (d.q.buffer d.q.head) :=
  hs _ (head_mem_ringRows h (by have := hcfg.capacity_pos; omega))

theorem RingShort.push (hcfg : cfg.WellFormed) (h : StoreOk cfg d) (hs : RingShort cfg d) {data : α}
    (hdata : ShortRow cfg data) : RingShort cfg (queuePush cfg d data).2 := by
  intro x hx
  obtain hold | rfl := mem_ringRows_push hcfg h.ring h.sound hx
  · exact hs x hold
  · exact hdata

/-- Every call keeps the queue in order and its rows short. -/
theorem sendQueue_step (hcfg : cfg.WellFormed) (h : QueueInv cfg d) (hs : RingShort cfg d)
    {op : SendQueueOp α} (hop : ShortStep cfg d op) :
    QueueInv cfg ((sendQueueMachine cfg).step d op).2 ∧
      RingShort cfg ((sendQueueMachine cfg).step d op).2 := by
  cases op with
  | push data =>
    exact ⟨(h.push hcfg (hs.head hcfg h.ring) data).1, hs.push hcfg h.toStoreOk hop⟩
  | pop max =>
    refine ⟨?_, fun x hx => hs x (mem_ringRows_pop hcfg h.toStoreOk max hx)⟩
    by_cases hmax : max = 0
    · subst hmax
      exact h
    · exact (h.pop hcfg (by omega)).2.1
  | popTail =>
    by_cases hc : 0 < d.q.count
    · obtain ⟨x, d', hpop, rfl, hinv, -⟩ := h.popTail hc
      simp only [sendQueueMachine, hpop]
      refine ⟨hinv, fun y hy => hs y ?_⟩
      rw [ringRows_dropTail h.ring hc]
      exact List.mem_append_left _ hy
    · have hpop : queuePopTail cfg d = (.error .notFound, d) := by
        rw [queuePopTail, if_pos (by omega)]
      simp only [sendQueueMachine, hpop]
      exact ⟨h, hs⟩

/-- Every state reached by short pushes, pops and tail pops is in order. -/
theorem sendQueue_run (hcfg : cfg.WellFormed) (h : QueueInv cfg d) (hs : RingShort cfg d)
    {ops : List (SendQueueOp α)} (hops : (sendQueueMachine cfg).Along (ShortStep cfg) d ops) :
    QueueInv cfg ((sendQueueMachine cfg).run d ops).2 ∧
      RingShort cfg ((sendQueueMachine cfg).run d ops).2 :=
  (sendQueueMachine cfg).invariant (I := fun d => QueueInv cfg d ∧ RingShort cfg d)
    (fun _ _ hd hop => sendQueue_step hcfg hd.1 hd.2 hop) ⟨h, hs⟩ hops

/-- Pushes that delete no unread record leave the content as a prefix. -/
theorem contentKeys_prefix_of_window (hcfg : cfg.WellFormed) (h : QueueInv cfg d)
    (hs : RingShort cfg d) {ops : List (SendQueueOp α)}
    (hops : (sendQueueMachine cfg).Along (KeepsUnread cfg) d ops) :
    contentKeys cfg d <+: contentKeys cfg ((sendQueueMachine cfg).run d ops).2 := by
  induction ops generalizing d with
  | nil => exact List.prefix_rfl
  | cons op ops ih =>
    cases op with
    | push data =>
      obtain ⟨⟨hdata, hclear⟩, hrest⟩ := hops
      obtain ⟨hinv, hkeys⟩ := h.push hcfg (hs.head hcfg h.ring) data
      have hhere : contentKeys cfg d <+: contentKeys cfg (queuePush cfg d data).2 := by
        rw [hkeys hclear]
        exact List.prefix_append _ _
      exact hhere.trans (ih hinv (hs.push hcfg h.toStoreOk hdata) hrest)
    | pop max => exact absurd hops.1 id
    | popTail => exact absurd hops.1 id

/-- In every reachable state of a send queue with short rows, what is popped
after the window is what was peeked before it, as long as no push in the window
deletes unread records. -/
theorem popped_eq_peeked (hcfg : cfg.WellFormed) (htcp : queueIsTcpSendQ cfg = true)
    (h : QueueInv cfg d) (hs : RingShort cfg d) (before : List (SendQueueOp α))
    (hbefore : (sendQueueMachine cfg).Along (ShortStep cfg) d before) {max : Nat} {rows : List α}
    {peeked : Device α}
    (hpeek : queuePeekBatch cfg ((sendQueueMachine cfg).run d before).2 max =
      ((.success, rows), peeked))
    (window : List α)
    (hwindow : (sendQueueMachine cfg).Along (KeepsUnread cfg) peeked (window.map .push)) :
    (queuePop cfg ((sendQueueMachine cfg).run peeked (window.map .push)).2 rows.length).1.1 =
        .success ∧
      (queuePop cfg ((sendQueueMachine cfg).run peeked (window.map .push)).2
        rows.length).1.2.map (rowKey cfg) = rows.map (rowKey cfg) := by
  obtain ⟨hinv, hshort⟩ := sendQueue_run hcfg h hs hbefore
  have hmax : 0 < max := by
    by_contra hz
    rw [Nat.eq_zero_of_not_pos hz] at hpeek
    cases hpeek
  rw [hinv.peekBatch hcfg htcp hmax, Prod.mk.injEq, Prod.mk.injEq] at hpeek
  obtain ⟨⟨hresult, rfl⟩, rfl⟩ := hpeek
  have hne : logicalContent cfg ((sendQueueMachine cfg).run d before).2 ≠ [] := by
    intro hnil
    rw [if_pos hnil] at hresult
    exact Result.noConfusion hresult
  have hprefix := contentKeys_prefix_of_window hcfg hinv hshort hwindow
  have hwshort : (sendQueueMachine cfg).Along (ShortStep cfg)
      ((sendQueueMachine cfg).run d before).2 (window.map .push) := by
    refine hwindow.mono ?_
    rintro e (data | max | _) hstep
    · exact hstep.1
    · exact trivial
    · exact trivial
  obtain ⟨hafter, -⟩ := sendQueue_run hcfg hinv hshort hwshort
  generalize ((sendQueueMachine cfg).run d before).2 = start at *
  generalize ((sendQueueMachine cfg).run start (window.map .push)).2 = stop at *
  have hlen : 0 < ((logicalContent cfg start).take max).length := by
    rw [List.length_take]
    have := List.length_pos_iff.mpr hne
    omega
  have hstop : logicalContent cfg stop ≠ [] := by
    intro hnil
    rw [contentKeys, contentKeys, hnil, List.map_nil, List.prefix_nil, List.map_eq_nil_iff]
      at hprefix
    exact hne hprefix
  obtain ⟨hpop, -, -⟩ := hafter.pop hcfg hlen
  rw [hpop, if_neg hstop]
  refine ⟨rfl, ?_⟩
  obtain ⟨rest, hrest⟩ := hprefix
  have hle : ((logicalContent cfg start).take max).length ≤ (contentKeys cfg start).length := by
    rw [List.length_take, contentKeys, List.length_map]
    omega
  rw [List.map_take]
  change (contentKeys cfg stop).take _ = _
  rw [← hrest, List.take_append_of_le_length hle, contentKeys, ← List.map_take, List.length_take,
    ← List.take_eq_take_min]

end Steps

/-- A position packet peeked at, followed by a push, and popped. -/
theorem popped_eq_peeked_send_queue :
    (queuePop tcpSendQueueConfig
        ((sendQueueMachine tcpSendQueueConfig).run
          ((sendQueueMachine tcpSendQueueConfig).run freshSendQueue
            [.push (.ofPayload .gps .tcp [0x57, 0x45, 0x49])]).2
          ([ModuleMessage.ofPayload .cmd .tcp [0x57, 0x45, 38]].map .push)).2 1).1.1 = .success :=
  (popped_eq_peeked wellFormed_tcpSendQueueConfig queueIsTcpSendQ_tcpSendQueueConfig
    queueInv_freshSendQueue.1 (fun _ hx => absurd hx List.not_mem_nil)
    [.push (.ofPayload .gps .tcp [0x57, 0x45, 0x49])] ⟨by decide, trivial⟩
    (show queuePeekBatch _ _ 5 = ((.success, [.ofPayload .gps .tcp [0x57, 0x45, 0x49]]), _) from
      rfl) [.ofPayload .cmd .tcp [0x57, 0x45, 38]] ⟨⟨by decide, by decide⟩, trivial⟩).1

/-! ## A commit that discards rows that were not sent -/

section Discard

/-- A command response that fills a message. -/
def fullResponse : ModuleMessage :=
  .ofPayload .cmd .tcp ([0x57, 0x45, 38] ++ List.replicate 253 0)

/-- A position packet that fills a message. -/
def fullPosition : ModuleMessage :=
  .ofPayload .gps .tcp ([0x57, 0x45, 0x49] ++ List.replicate 253 0)

/-- A full ring of responses, the file on its way to `max_file_size`, and the
position packet still in front. -/
private structure Filled (k : Nat) (d : Device ModuleMessage) : Prop where
  inv : QueueInv tcpSendQueueConfig d
  kept : RingKept tcpSendQueueConfig d
  rows : ∀ x ∈ d.q.ringRows tcpSendQueueConfig, x = fullResponse
  count_eq : d.q.count = 7
  size_eq : d.q.fileSize = 259 * (k + 1)
  first : (contentKeys tcpSendQueueConfig d).head? = some (rowKey tcpSendQueueConfig fullPosition)

private theorem record_fullResponse :
    ∃ record, queueRecord tcpSendQueueConfig fullResponse = some record ∧ record.length = 259 := by
  refine ⟨(queueRecord tcpSendQueueConfig fullResponse).getD [], ?_, ?_⟩ <;> decide +kernel

private theorem Filled.head {k : Nat} {d : Device ModuleMessage} (h : Filled k d) :
    d.q.buffer d.q.head = fullResponse :=
  h.rows _ (head_mem_ringRows h.inv.ring (by have := h.count_eq; omega))

/-- Another response goes to the file as long as it fits. -/
private theorem Filled.push {k : Nat} {d : Device ModuleMessage} (h : Filled k d) (hk : k < 789) :
    Filled (k + 1) (queuePush tcpSendQueueConfig d fullResponse).2 := by
  obtain ⟨record, hrec, hlen⟩ := record_fullResponse
  have hcount := h.count_eq
  have hsize := h.size_eq
  have hmax : tcpSendQueueConfig.maxFileSize = 204800 := rfl
  have hrec' : queueRecord tcpSendQueueConfig (d.q.buffer d.q.head) = some record := by
    rw [h.head, hrec]
  have hfit : d.Fits tcpSendQueueConfig record := by
    change d.q.fileSize + record.length ≤ tcpSendQueueConfig.maxFileSize
    omega
  have hclear : ¬ PushClears tcpSendQueueConfig d := by
    rintro ⟨-, n, hn, hbig⟩
    rw [queueFileRecordSize_of_record hrec', Option.mem_some_iff] at hn
    omega
  have haccepted : AcceptedRow tcpSendQueueConfig fullResponse ∧
      ShortRow tcpSendQueueConfig fullResponse :=
    ⟨by rw [AcceptedRow, hrec]; rfl, by decide +kernel⟩
  obtain ⟨-, hinv, hkept, hkeys⟩ := fifo_push wellFormed_tcpSendQueueConfig h.inv h.kept
    haccepted hclear
  have hpush := queuePush_sound wellFormed_tcpSendQueueConfig h.inv.ring h.inv.sound fullResponse
  have hcap : tcpSendQueueConfig.capacity = 7 := rfl
  rw [if_neg (by omega), hrec'] at hpush
  have hq : (queuePush tcpSendQueueConfig d fullResponse).2.q.count = 7 ∧
      (queuePush tcpSendQueueConfig d fullResponse).2.q.fileSize = 259 * (k + 1 + 1) := by
    rw [hpush]
    simp only [Device.recorded, if_pos hfit, Device.appended, Queue.storeTail, Queue.dropHead]
    omega
  refine ⟨hinv, hkept, ?_, hq.1, hq.2, ?_⟩
  · intro x hx
    obtain hold | rfl := mem_ringRows_push wellFormed_tcpSendQueueConfig h.inv.ring h.inv.sound hx
    · exact h.rows x hold
    · rfl
  · rw [hkeys, List.head?_append, h.first]
    rfl

private theorem Filled.run {k : Nat} {d : Device ModuleMessage} (h : Filled k d) (n : Nat)
    (hn : k + n ≤ 789) :
    Filled (k + n) ((sendQueueMachine tcpSendQueueConfig).run d
      (List.replicate n (.push fullResponse))).2 := by
  induction n generalizing k d with
  | zero => exact h
  | succ n ih =>
    have hnext := ih (h.push (by omega)) (by omega)
    rwa [show k + 1 + n = k + (n + 1) by omega] at hnext

/-- Seven responses behind the position packet move it to the file. -/
private theorem filled_start :
    Filled 0 ((sendQueueMachine tcpSendQueueConfig).run freshSendQueue
      (.push fullPosition :: List.replicate 7 (.push fullResponse))).2 := by
  have hpushes : (queueMachine tcpSendQueueConfig).Along (KeptStep tcpSendQueueConfig)
      freshSendQueue (.push fullPosition :: List.replicate 7 (.push fullResponse)) := by
    decide +kernel
  obtain ⟨-, hinv, hkept, hkeys⟩ := queue_refines_fifo_from wellFormed_tcpSendQueueConfig
    queueInv_freshSendQueue.1 (fun _ hx => absurd hx List.not_mem_nil) hpushes
  refine ⟨hinv, hkept, by decide +kernel, by decide +kernel, by decide +kernel, ?_⟩
  have hfirst := congrArg List.head? hkeys
  exact hfirst.trans (by decide +kernel)

/-- When the next response does not fit, its push deletes what was peeked. -/
private theorem Filled.discards {d : Device ModuleMessage} (h : Filled 789 d) :
    (queuePeekBatch tcpSendQueueConfig d 5).1.1 = .success ∧
      (queuePop tcpSendQueueConfig
        (queuePush tcpSendQueueConfig (queuePeekBatch tcpSendQueueConfig d 5).2 fullResponse).2
        (queuePeekBatch tcpSendQueueConfig d 5).1.2.length).1.2.map (rowKey tcpSendQueueConfig) ≠
      (queuePeekBatch tcpSendQueueConfig d 5).1.2.map (rowKey tcpSendQueueConfig) := by
  obtain ⟨record, hrec, hlen⟩ := record_fullResponse
  have hcount := h.count_eq
  have hsize := h.size_eq
  have hmax : tcpSendQueueConfig.maxFileSize = 204800 := rfl
  have hcap : tcpSendQueueConfig.capacity = 7 := rfl
  have hshort : ShortRow tcpSendQueueConfig fullResponse := by decide +kernel
  have hne : logicalContent tcpSendQueueConfig d ≠ [] := by
    intro hnil
    have hfirst := h.first
    rw [contentKeys, hnil, List.map_nil, List.head?_nil] at hfirst
    exact Option.some_ne_none _ hfirst.symm
  have hpeek := h.inv.peekBatch wellFormed_tcpSendQueueConfig
    queueIsTcpSendQ_tcpSendQueueConfig (by decide : 0 < 5)
  rw [if_neg hne] at hpeek
  have hnofit : ¬ d.Fits tcpSendQueueConfig record := by
    change ¬ d.q.fileSize + record.length ≤ tcpSendQueueConfig.maxFileSize
    omega
  -- the head row is written into a file that has just been emptied
  obtain ⟨y, hy, hkey⟩ := queueRecord_next wellFormed_tcpSendQueueConfig hrec hshort
  obtain ⟨-, hunread⟩ := h.inv.recorded hy
  have hpush := queuePush_sound wellFormed_tcpSendQueueConfig h.inv.ring h.inv.sound fullResponse
  rw [if_neg (by omega), h.head, hrec] at hpush
  have hcontent : ∃ rest, logicalContent tcpSendQueueConfig
      (queuePush tcpSendQueueConfig d fullResponse).2 = y :: rest := by
    rw [hpush]
    simp only [logicalContent_withQueue (d.recorded tcpSendQueueConfig record)
      (q := ((d.recorded tcpSendQueueConfig record).q.dropHead tcpSendQueueConfig).storeTail
        tcpSendQueueConfig fullResponse) rfl]
    rw [hunread, if_neg hnofit]
    exact ⟨_, rfl⟩
  have hinv := (h.inv.push wellFormed_tcpSendQueueConfig
    (fun _ => by rw [h.head]; exact hshort) fullResponse).1
  obtain ⟨rest, hrest⟩ := hcontent
  rw [hpeek]
  refine ⟨rfl, fun heq => ?_⟩
  have hpos : 0 < ((logicalContent tcpSendQueueConfig d).take 5).length := by
    rw [List.length_take]
    have := List.length_pos_iff.mpr hne
    omega
  obtain ⟨hpop, -, -⟩ := hinv.pop wellFormed_tcpSendQueueConfig hpos
  rw [hpop, hrest] at heq
  dsimp only at heq
  obtain ⟨n, hn⟩ := Nat.exists_eq_succ_of_ne_zero (Nat.pos_iff_ne_zero.mp hpos)
  rw [hn, List.take_succ_cons, List.map_cons, List.map_take] at heq
  have hfirst := congrArg List.head? heq
  have hfront := h.first
  rw [contentKeys] at hfront
  rw [List.head?_cons, List.map_take, List.head?_take, if_neg (by omega), hfront, hkey,
    Option.some.injEq] at hfirst
  exact absurd hfirst (by decide +kernel)

/-- The file is full to `max_file_size` when the batch is peeked. The next push
deletes it, and the commit takes rows that were never sent. -/
theorem commit_discards_unsent :
    let start := ((sendQueueMachine tcpSendQueueConfig).run freshSendQueue
      ((.push fullPosition :: List.replicate 7 (.push fullResponse)) ++
        List.replicate 789 (.push fullResponse))).2
    let peek := queuePeekBatch tcpSendQueueConfig start 5
    let stop := (queuePush tcpSendQueueConfig peek.2 fullResponse).2
    peek.1.1 = .success ∧
      (queuePop tcpSendQueueConfig stop peek.1.2.length).1.2.map (rowKey tcpSendQueueConfig) ≠
        peek.1.2.map (rowKey tcpSendQueueConfig) := by
  have hrun := filled_start.run 789 (by omega)
  rw [Nat.zero_add, ← (sendQueueMachine tcpSendQueueConfig).run_append_snd] at hrun
  exact hrun.discards

end Discard

end WalnutGateway
