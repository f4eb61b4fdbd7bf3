import WalnutGateway.Queue.PeekCommit
import WalnutGateway.Queue.Producers
import WalnutGateway.Tcp.Client

/-!
# What an acknowledged send delivers

`tcp_state_handle_sending_data` counts the rows it peeked at, `ACK_RECEIVED` pops
as many. The frame has room for 512 bytes, the socket may accept fewer, and the
newest row can be taken out of the queue before anything is sent. The results
say when the rows that leave the queue are the rows the peer has.
-/

namespace WalnutGateway

/-! ## The frame -/

/-- The bytes of a row that are to be sent; a row with a null pointer has none. -/
def ModuleMessage.wire (m : ModuleMessage) : List Byte :=
  match m.payloadPtr with
  | none => []
  | some payload => memRead payload m.dataLen

/-- How many bytes rows take up in a frame. -/
def wireLength (rows : List ModuleMessage) : Nat := (rows.map ModuleMessage.wire).flatten.length

@[simp] theorem wireLength_nil : wireLength [] = 0 := rfl

theorem wireLength_cons (m : ModuleMessage) (rows : List ModuleMessage) :
    wireLength (m :: rows) = m.wire.length + wireLength rows := by
  rw [wireLength, List.map_cons, List.flatten_cons, List.length_append, wireLength]

theorem wireLength_append (rows rows' : List ModuleMessage) :
    wireLength (rows ++ rows') = wireLength rows + wireLength rows' := by
  rw [wireLength, List.map_append, List.flatten_append, List.length_append, wireLength, wireLength]

/-- The loop never writes behind the end of its buffer. -/
theorem length_combineLoop_le {maxSize : Nat} (msgs : List ModuleMessage) (processed : Nat)
    {buffer : List Byte} (h : buffer.length ≤ maxSize) :
    (combineLoop maxSize processed msgs buffer).length ≤ maxSize := by
  induction msgs generalizing processed buffer with
  | nil => exact h
  | cons m msgs ih =>
    rw [combineLoop]
    split
    · exact h
    · split
      · exact ih processed h
      · rename_i payload _
        split
        · exact ih processed h
        · split
          · exact ih processed h
          · split
            · exact h
            · have hcopied : (if m.dataLen < maxSize - buffer.length then m.dataLen
                  else maxSize - buffer.length) ≤ maxSize - buffer.length := by
                split <;> omega
              dsimp only
              generalize (if m.dataLen < maxSize - buffer.length then m.dataLen
                else maxSize - buffer.length) = copied at hcopied
              have hcopy : (buffer ++ memRead payload copied).length ≤ maxSize := by
                rw [List.length_append, length_memRead]
                omega
              split
              · exact hcopy
              · exact ih (processed + 1) hcopy

theorem length_tcpCombineMessages_le (msgs : List ModuleMessage) (maxSize : Nat) :
    (tcpCombineMessages msgs maxSize).length ≤ maxSize :=
  length_combineLoop_le msgs 0 (Nat.zero_le _)

/-- Nothing that was copied is taken back. -/
theorem length_le_combineLoop (maxSize : Nat) (msgs : List ModuleMessage) (processed : Nat)
    (buffer : List Byte) : buffer.length ≤ (combineLoop maxSize processed msgs buffer).length := by
  induction msgs generalizing processed buffer with
  | nil => exact le_rfl
  | cons m msgs ih =>
    rw [combineLoop]
    split
    · exact le_rfl
    · split
      · exact ih processed buffer
      · rename_i payload _
        split
        · exact ih processed buffer
        · split
          · exact ih processed buffer
          · split
            · exact le_rfl
            · dsimp only
              generalize (if m.dataLen < maxSize - buffer.length then m.dataLen
                else maxSize - buffer.length) = copied
              have hgrow : buffer.length ≤ (buffer ++ memRead payload copied).length := by
                rw [List.length_append]
                omega
              split
              · exact hgrow
              · exact hgrow.trans (ih (processed + 1) _)

/-- Rows that take up no room add nothing. -/
theorem wire_flatten_of_wireLength {rows : List ModuleMessage} (h : wireLength rows = 0) :
    (rows.map ModuleMessage.wire).flatten = [] := List.eq_nil_of_length_eq_zero h

/-- Rows that fit together are put one behind the other. -/
theorem combineLoop_of_fits {maxSize : Nat} (msgs : List ModuleMessage) {processed : Nat}
    {buffer : List Byte} (hn : processed + msgs.length ≤ maxMessages)
    (hfit : buffer.length + wireLength msgs ≤ maxSize) :
    combineLoop maxSize processed msgs buffer =
      buffer ++ (msgs.map ModuleMessage.wire).flatten := by
  induction msgs generalizing processed buffer with
  | nil => rw [combineLoop, List.map_nil, List.flatten_nil, List.append_nil]
  | cons m msgs ih =>
    rw [List.length_cons] at hn
    rw [wireLength_cons] at hfit
    rw [combineLoop, if_neg (by omega), List.map_cons, List.flatten_cons]
    cases hp : m.payloadPtr with
    | none =>
      have hwire : m.wire = [] := by rw [ModuleMessage.wire, hp]
      rw [hwire, List.nil_append]
      exact ih (by omega) (by omega)
    | some payload =>
      have hwire : m.wire = memRead payload m.dataLen := by rw [ModuleMessage.wire, hp]
      rw [hwire, length_memRead] at hfit
      dsimp only
      by_cases h0 : m.dataLen = 0
      · have hnil : m.wire = [] := List.eq_nil_of_length_eq_zero (by rw [hwire, length_memRead, h0])
        rw [if_pos h0, hnil, List.nil_append]
        exact ih (by omega) (by omega)
      · rw [if_neg h0, if_neg (by omega), if_neg (by omega)]
        have hcopy : (if m.dataLen < maxSize - buffer.length then m.dataLen
            else maxSize - buffer.length) = m.dataLen := by
          split <;> omega
        rw [hcopy, ← hwire]
        by_cases hfull : (buffer ++ m.wire).length ≥ maxSize
        · rw [List.length_append, hwire, length_memRead] at hfull
          have hrest : (msgs.map ModuleMessage.wire).flatten = [] :=
            wire_flatten_of_wireLength (by omega)
          rw [if_pos (by rw [List.length_append, hwire, length_memRead]; omega), hrest,
            List.append_nil]
        · rw [if_neg hfull, ih (by omega), List.append_assoc]
          rw [List.length_append, hwire, length_memRead]
          omega

/-- The frame of at most five rows that fit together. -/
theorem tcpCombineMessages_of_fits {msgs : List ModuleMessage} {maxSize : Nat}
    (hn : msgs.length ≤ maxMessages) (hfit : wireLength msgs ≤ maxSize) :
    tcpCombineMessages msgs maxSize = (msgs.map ModuleMessage.wire).flatten := by
  rw [tcpCombineMessages, combineLoop_of_fits msgs (by omega) (by simpa using hfit),
    List.nil_append]

/-! ## The live-first row -/

/-- The newest row, if it is to be taken out of the queue and put before a batch
of `used` bytes. -/
def liveFirstTaken (config : Option WewareTcpConfig) (d : Device ModuleMessage) (used : Nat) :
    List ModuleMessage :=
  let tail := d.q.buffer (d.q.lastIdx tcpSendQueueConfig)
  if (config.any fun c => c.liveFirst) ∧ queueIsFull tcpSendQueueConfig d ∧
      0 < tail.wire.length ∧ tail.wire.length ≤ maxCombinedSize - used then [tail]
  else []

section LiveFirst

variable {d : Device ModuleMessage}

/-- The newest row of a full queue comes off its end. -/
theorem queuePopTail_full (h : QueueInv tcpSendQueueConfig d)
    (hfull : queueIsFull tcpSendQueueConfig d = true) :
    queuePopTail tcpSendQueueConfig d = (.ok (d.q.buffer (d.q.lastIdx tcpSendQueueConfig)),
        { d with q := d.q.dropTail tcpSendQueueConfig }) ∧
      QueueInv tcpSendQueueConfig { d with q := d.q.dropTail tcpSendQueueConfig } ∧
      logicalContent tcpSendQueueConfig d =
        logicalContent tcpSendQueueConfig { d with q := d.q.dropTail tcpSendQueueConfig } ++
          [d.q.buffer (d.q.lastIdx tcpSendQueueConfig)] ∧
      d.q.count = 7 := by
  have hcount : d.q.count = 7 := le_antisymm h.ring.count_le (of_decide_eq_true hfull)
  have hpop : queuePopTail tcpSendQueueConfig d =
      (.ok (d.q.buffer (d.q.lastIdx tcpSendQueueConfig)),
        { d with q := d.q.dropTail tcpSendQueueConfig }) := by
    rw [queuePopTail, if_neg (by omega), if_neg (not_le_of_gt h.ring.tail_lt)]
  obtain ⟨x, d', hx, rfl, hinv, hcontent⟩ := h.popTail (by omega)
  rw [hpop, Prod.mk.injEq, Except.ok.injEq] at hx
  obtain ⟨rfl, -⟩ := hx
  exact ⟨hpop, hinv, hcontent, hcount⟩

/-- A queue that just lost its newest row takes a row back at its end. -/
theorem queuePush_restored (h : QueueInv tcpSendQueueConfig d) (hroom : d.q.count < 7)
    (row : ModuleMessage) :
    QueueInv tcpSendQueueConfig (queuePush tcpSendQueueConfig d row).2 ∧
      logicalContent tcpSendQueueConfig (queuePush tcpSendQueueConfig d row).2 =
        logicalContent tcpSendQueueConfig d ++ [row] := by
  have hlt : d.q.count < tcpSendQueueConfig.capacity := hroom
  rw [queuePush_sound wellFormed_tcpSendQueueConfig h.ring h.sound, if_pos hlt]
  refine ⟨h.withQueue (h.ring.storeTail hlt row) rfl rfl, ?_⟩
  rw [logicalContent_withQueue d (q := d.q.storeTail tcpSendQueueConfig row) rfl,
    ringRows_storeTail h.ring hlt, ← List.append_assoc, logicalContent]

/-- What the live-first step makes of the queue: a row that is taken is missing,
otherwise all rows are there, up to a heap block that was freed. -/
structure LiveFirstEffect (d d' : Device ModuleMessage) (taken : List ModuleMessage) : Prop where
  inv : QueueInv tcpSendQueueConfig d'
  front : (logicalContent tcpSendQueueConfig d').take maxMessages =
    (logicalContent tcpSendQueueConfig d).take maxMessages
  shorter : taken ≠ [] → (logicalContent tcpSendQueueConfig d').length + 1 =
    (logicalContent tcpSendQueueConfig d).length
  kept : taken = [] → (∀ x ∈ logicalContent tcpSendQueueConfig d, x.freed = x) →
    logicalContent tcpSendQueueConfig d' = logicalContent tcpSendQueueConfig d

theorem LiveFirstEffect.refl (h : QueueInv tcpSendQueueConfig d) : LiveFirstEffect d d [] where
  inv := h
  front := rfl
  shorter hne := absurd rfl hne
  kept _ _ := rfl

/-- The newest row of a full queue is not one of the first five. -/
theorem take_dropTail (h : QueueInv tcpSendQueueConfig d)
    (hfull : queueIsFull tcpSendQueueConfig d = true) (rows : List ModuleMessage) :
    (logicalContent tcpSendQueueConfig { d with q := d.q.dropTail tcpSendQueueConfig } ++
        rows).take maxMessages = (logicalContent tcpSendQueueConfig d).take maxMessages := by
  obtain ⟨-, -, hcontent, hcount⟩ := queuePopTail_full h hfull
  have hlong : maxMessages ≤ (logicalContent tcpSendQueueConfig
      { d with q := d.q.dropTail tcpSendQueueConfig }).length := by
    rw [logicalContent, List.length_append, length_ringRows]
    change 5 ≤ _ + (d.q.count - 1)
    omega
  rw [hcontent, List.take_append_of_le_length hlong, List.take_append_of_le_length hlong]

/-- The newest row was popped and pushed again, its heap block freed. -/
theorem LiveFirstEffect.restored (h : QueueInv tcpSendQueueConfig d)
    (hfull : queueIsFull tcpSendQueueConfig d = true) :
    LiveFirstEffect d (queuePush tcpSendQueueConfig
      { d with q := d.q.dropTail tcpSendQueueConfig }
      (d.q.buffer (d.q.lastIdx tcpSendQueueConfig)).freed).2 [] := by
  obtain ⟨-, hinv, hcontent, hcount⟩ := queuePopTail_full h hfull
  have hroom : (d.q.dropTail tcpSendQueueConfig).count < 7 := by
    change d.q.count - 1 < 7
    omega
  obtain ⟨hback, hbackContent⟩ := queuePush_restored hinv hroom
    (d.q.buffer (d.q.lastIdx tcpSendQueueConfig)).freed
  refine ⟨hback, ?_, fun hne => absurd rfl hne, fun _ hfreed => ?_⟩
  · rw [hbackContent, take_dropTail h hfull]
  · rw [hbackContent, hfreed _ (by rw [hcontent]; simp), ← hcontent]

/-- The newest row was popped and is in the frame only. -/
theorem LiveFirstEffect.taken (h : QueueInv tcpSendQueueConfig d)
    (hfull : queueIsFull tcpSendQueueConfig d = true) :
    LiveFirstEffect d { d with q := d.q.dropTail tcpSendQueueConfig }
      [d.q.buffer (d.q.lastIdx tcpSendQueueConfig)] := by
  obtain ⟨-, hinv, hcontent, -⟩ := queuePopTail_full h hfull
  refine ⟨hinv, ?_, fun _ => ?_, fun hnil => absurd hnil (List.cons_ne_nil _ _)⟩
  · rw [← take_dropTail h hfull [], List.append_nil]
  · rw [hcontent, List.length_append, List.length_singleton]

/-- The frame and the queue after the live-first step. -/
theorem tcpPrependLiveFirstQueueTail_sound (h : QueueInv tcpSendQueueConfig d)
    (config : Option WewareTcpConfig) {buf : List Byte} (hbuf : buf ≠ []) :
    ∃ d', tcpPrependLiveFirstQueueTail config d buf maxCombinedSize =
        (((liveFirstTaken config d buf.length).map ModuleMessage.wire).flatten ++ buf, d') ∧
      LiveFirstEffect d d' (liveFirstTaken config d buf.length) := by
  have hlen : buf.length ≠ 0 := mt List.eq_nil_of_length_eq_zero hbuf
  unfold tcpPrependLiveFirstQueueTail
  rw [if_neg (by simp only [maxCombinedSize]; omega)]
  by_cases hlive : (config.any fun c => c.liveFirst) = true
  · rw [if_neg (not_not_intro hlive)]
    by_cases hfull : queueIsFull tcpSendQueueConfig d = true
    · rw [if_neg (not_not_intro hfull), (queuePopTail_full h hfull).1]
      have hrestored := LiveFirstEffect.restored h hfull
      have htaken := LiveFirstEffect.taken h hfull
      have hcases : liveFirstTaken config d buf.length =
          if 0 < (d.q.buffer (d.q.lastIdx tcpSendQueueConfig)).wire.length ∧
              (d.q.buffer (d.q.lastIdx tcpSendQueueConfig)).wire.length ≤
                maxCombinedSize - buf.length
          then [d.q.buffer (d.q.lastIdx tcpSendQueueConfig)] else [] := by
        simp only [liveFirstTaken, hlive, hfull, true_and]
      generalize d.q.buffer (d.q.lastIdx tcpSendQueueConfig) = tail at *
      dsimp only
      cases hp : tail.payloadPtr with
      | none =>
        have hwire : tail.wire = [] := by rw [ModuleMessage.wire, hp]
        rw [hcases, if_neg (by rw [hwire, List.length_nil]; omega)]
        exact ⟨_, rfl, hrestored⟩
      | some payload =>
        have hwire : tail.wire = memRead payload tail.dataLen := by rw [ModuleMessage.wire, hp]
        have hwlen : tail.wire.length = tail.dataLen := by rw [hwire, length_memRead]
        dsimp only
        by_cases hno : tail.dataLen = 0 ∨ tail.dataLen > maxCombinedSize - buf.length
        · rw [if_pos hno, hcases, if_neg (by omega)]
          exact ⟨_, rfl, hrestored⟩
        · rw [if_neg hno, hcases, if_pos (by omega)]
          exact ⟨_, by simp [hwire], htaken⟩
    · have hnot : liveFirstTaken config d buf.length = [] := by simp [liveFirstTaken, hfull]
      rw [if_pos hfull, hnot]
      exact ⟨d, rfl, .refl h⟩
  · have hnot : liveFirstTaken config d buf.length = [] := by simp [liveFirstTaken, hlive]
    rw [if_pos hlive, hnot]
    exact ⟨d, rfl, .refl h⟩

end LiveFirst

/-! ## A send -/

namespace TcpSystem

/-- The rows a send would be made of: the first five of the queue. -/
def batch (s : TcpSystem) : List ModuleMessage :=
  (logicalContent tcpSendQueueConfig s.sendQueue).take maxMessages

/-- The live-first row that goes before the batch. -/
def liveRow (s : TcpSystem) : List ModuleMessage :=
  liveFirstTaken s.client.config s.sendQueue (tcpCombineMessages s.batch maxCombinedSize).length

/-- The rows that `ACK_RECEIVED` takes out of the queue. -/
def ackedRows (s : TcpSystem) : List ModuleMessage :=
  (tcpPopSendQueueBatchAndFree s.sendQueue s.client.tcpSendQueueBatchCount).1

end TcpSystem

/-- What a send that was accepted leaves behind. -/
structure SendAccepted (env : TcpEnv) (s s' : TcpSystem) : Prop where
  fd : s'.client.tcpFd = s.client.tcpFd
  fd_nonneg : 0 ≤ s.client.tcpFd
  sent : s'.client.tcpBytesSent = env.lwipSend
  sent_pos : 0 < env.lwipSend
  acked : s'.client.tcpBytesAcked = 0
  batchCount : s'.client.tcpSendQueueBatchCount = s.batch.length
  frame : s'.dataPacketBuffer =
    (s.liveRow.map ModuleMessage.wire).flatten ++ tcpCombineMessages s.batch maxCombinedSize
  frame_pos : 0 < (tcpCombineMessages s.batch maxCombinedSize).length
  queue : LiveFirstEffect s.sendQueue s'.sendQueue s.liveRow

section Sending

variable {s : TcpSystem} {env : TcpEnv}

theorem length_batch_le (s : TcpSystem) : s.batch.length ≤ maxMessages := List.length_take_le ..

/-- The client sees the first five rows and leaves the queue as it is. -/
theorem queuePeekBatch_batch (h : QueueInv tcpSendQueueConfig s.sendQueue) :
    queuePeekBatch tcpSendQueueConfig s.sendQueue maxMessages =
      ((if logicalContent tcpSendQueueConfig s.sendQueue = [] then .notFound else .success,
        s.batch), s.sendQueue) :=
  h.peekBatch wellFormed_tcpSendQueueConfig queueIsTcpSendQ_tcpSendQueueConfig (by decide)

/-- Sending touches neither the queue nor the frame. -/
theorem tcpSendData_frame (env : TcpEnv) (s : TcpSystem) (buffer : List Byte) :
    (tcpSendData env s buffer).2.sendQueue = s.sendQueue ∧
      (tcpSendData env s buffer).2.dataPacketBuffer = s.dataPacketBuffer := by
  unfold tcpSendData
  split
  · exact ⟨rfl, rfl⟩
  · dsimp only
    split
    · exact ⟨rfl, rfl⟩
    · split <;> exact ⟨rfl, rfl⟩

/-- Bytes are accepted only if the socket accepts them. -/
theorem tcpSendData_pos {buffer : List Byte} (h : 0 < (tcpSendData env s buffer).1) :
    0 ≤ s.client.tcpFd ∧ 0 < env.lwipSend ∧
      (tcpSendData env s buffer).2 = { s with client := { s.client with
        tcpBytesSent := env.lwipSend, tcpBytesAcked := 0 } } := by
  unfold tcpSendData at h ⊢
  split at h
  · dsimp only at h
    omega
  · rename_i hok
    rw [if_neg hok]
    dsimp only at h ⊢
    split at h
    · dsimp only at h
      omega
    · rename_i hneg
      rw [if_neg hneg]
      split at h
      · dsimp only at h
        omega
      · rename_i hzero
        rw [if_neg hzero]
        have hraw : sdkTcpSend env = env.lwipSend := by
          unfold sdkTcpSend at hneg hzero ⊢
          split
          · rename_i hlt
            rw [if_pos hlt] at hneg hzero
            split at hneg
            · rename_i hagain
              rw [if_pos hagain] at hzero
              exact absurd rfl hzero
            · exact absurd hlt hneg
          · rfl
        rw [hraw] at h ⊢
        exact ⟨by omega, h, rfl⟩

/-- The handler, with its peek carried out. -/
theorem tcpStateHandleSendingData_eq (h : QueueInv tcpSendQueueConfig s.sendQueue) :
    tcpStateHandleSendingData env s =
      if ¬ s.validateSocketForSend env then (.error, s) else
      if logicalContent tcpSendQueueConfig s.sendQueue = [] then (.busy, s) else
      if (tcpCombineMessages s.batch maxCombinedSize).length = 0 then
        (.busy, { s with
          sendQueue := (tcpPopSendQueueBatchAndFree s.sendQueue s.batch.length).2 })
      else
        let f := tcpPrependLiveFirstQueueTail s.client.config s.sendQueue
          (tcpCombineMessages s.batch maxCombinedSize) maxCombinedSize
        let r := tcpSendData env { s with dataPacketBuffer := f.1, sendQueue := f.2 } f.1
        if r.1 > 0 then
          (.success,
            { r.2 with client := { r.2.client with tcpSendQueueBatchCount := s.batch.length } })
        else if r.1 = 0 then (.busy, r.2)
        else (.error, r.2) := by
  unfold tcpStateHandleSendingData
  rw [queuePeekBatch_batch h]
  dsimp only
  by_cases hnil : logicalContent tcpSendQueueConfig s.sendQueue = []
  · have hnone : Result.notFound ≠ Result.success ∨ s.batch.length = 0 := Or.inl (by decide)
    rw [if_pos hnil, if_pos hnone, if_pos hnil]
  · have hpos : s.batch.length ≠ 0 := by
      have := List.length_pos_iff.mpr hnil
      rw [TcpSystem.batch, List.length_take]
      simp only [maxMessages]
      omega
    have hsome : ¬ (Result.success ≠ Result.success ∨ s.batch.length = 0) :=
      fun hc => hc.elim (fun hr => hr rfl) hpos
    rw [if_neg hnil, if_neg hsome, if_neg hnil]

/-- All that `tcp_state_handle_sending_data` can do to the queue. -/
theorem sendQueue_tcpStateHandleSendingData (h : QueueInv tcpSendQueueConfig s.sendQueue) :
    (tcpStateHandleSendingData env s).2.sendQueue =
      if ¬ s.validateSocketForSend env then s.sendQueue else
      if logicalContent tcpSendQueueConfig s.sendQueue = [] then s.sendQueue else
      if (tcpCombineMessages s.batch maxCombinedSize).length = 0 then
        (tcpPopSendQueueBatchAndFree s.sendQueue s.batch.length).2
      else (tcpPrependLiveFirstQueueTail s.client.config s.sendQueue
        (tcpCombineMessages s.batch maxCombinedSize) maxCombinedSize).2 := by
  rw [tcpStateHandleSendingData_eq h]
  split
  · rfl
  · split
    · rfl
    · split
      · rfl
      · dsimp only
        split
        · exact (tcpSendData_frame ..).1
        · split <;> exact (tcpSendData_frame ..).1

/-- An accepted send. -/
theorem sendAccepted (h : QueueInv tcpSendQueueConfig s.sendQueue)
    (hsent : (tcpStateHandleSendingData env s).1 = .success) :
    SendAccepted env s (tcpStateHandleSendingData env s).2 := by
  rw [tcpStateHandleSendingData_eq h] at hsent ⊢
  split at hsent
  · contradiction
  · rename_i hvalid
    rw [if_neg hvalid]
    split at hsent
    · contradiction
    · rename_i hnil
      rw [if_neg hnil]
      split at hsent
      · contradiction
      · rename_i hframe
        rw [if_neg hframe]
        have hne : tcpCombineMessages s.batch maxCombinedSize ≠ [] := by
          intro hempty
          exact hframe (by rw [hempty]; rfl)
        obtain ⟨d', hprepend, heffect⟩ :=
          tcpPrependLiveFirstQueueTail_sound h s.client.config hne
        rw [hprepend] at hsent ⊢
        dsimp only at hsent ⊢
        split at hsent
        · rename_i hpos
          rw [if_pos hpos]
          obtain ⟨hfd, hsend, heq⟩ := tcpSendData_pos hpos
          rw [heq]
          exact
            { fd := rfl
              fd_nonneg := hfd
              sent := rfl
              sent_pos := hsend
              acked := rfl
              batchCount := rfl
              frame := rfl
              frame_pos := by omega
              queue := heffect }
        · split at hsent <;> contradiction

/-- The rows an acknowledgement takes are the first of the queue, and the rest stays. -/
theorem ackedRows_eq (h : QueueInv tcpSendQueueConfig s.sendQueue)
    (hn : s.client.tcpSendQueueBatchCount ≤ maxMessages) :
    s.ackedRows = (logicalContent tcpSendQueueConfig s.sendQueue).take
        s.client.tcpSendQueueBatchCount ∧
      logicalContent tcpSendQueueConfig (tcpStateHandleAckReceived s).2.sendQueue =
        (logicalContent tcpSendQueueConfig s.sendQueue).drop s.client.tcpSendQueueBatchCount := by
  have hqueue : (tcpStateHandleAckReceived s).2.sendQueue =
      (queuePersistClearSnapshotAfterConsume tcpSendQueueConfig
        (tcpPopSendQueueBatchAndFree s.sendQueue s.client.tcpSendQueueBatchCount).2).2 := rfl
  rw [hqueue, TcpSystem.ackedRows, tcpPopSendQueueBatchAndFree]
  by_cases h0 : s.client.tcpSendQueueBatchCount = 0
  · rw [if_pos h0, h0, List.take_zero, List.drop_zero]
    exact ⟨rfl, (sameQueue_clearSnapshotAfterConsume h.sound).logicalContent⟩
  · rw [if_neg h0, if_neg (by omega)]
    obtain ⟨hpop, hinv, hdrop⟩ := h.pop wellFormed_tcpSendQueueConfig (Nat.pos_of_ne_zero h0)
    dsimp only
    exact ⟨by rw [hpop],
      (sameQueue_clearSnapshotAfterConsume hinv.sound).logicalContent.trans hdrop⟩

/-- The rows popped after a send are the batch. -/
theorem SendAccepted.ackedRows {s' : TcpSystem} (h : SendAccepted env s s') :
    s'.ackedRows = s.batch := by
  have hn := length_batch_le s
  obtain ⟨hrows, -⟩ := ackedRows_eq h.queue.inv (by rw [h.batchCount]; exact hn)
  have hfront := h.queue.front
  have hlen : s.batch.length = min maxMessages
      (logicalContent tcpSendQueueConfig s.sendQueue).length := List.length_take ..
  rw [hrows, h.batchCount, TcpSystem.batch, ← hfront, List.length_take, ← List.take_eq_take_min]

/-- With the live-first row in front the frame still fits its buffer. -/
theorem wireLength_liveRow_add_le (s : TcpSystem) :
    wireLength s.liveRow + (tcpCombineMessages s.batch maxCombinedSize).length ≤
      maxCombinedSize := by
  have hle := length_tcpCombineMessages_le s.batch maxCombinedSize
  unfold TcpSystem.liveRow liveFirstTaken
  dsimp only
  split
  · rename_i hfire
    rw [wireLength_cons, wireLength_nil]
    omega
  · rw [wireLength_nil]
    omega

theorem SendAccepted.length_frame {s' : TcpSystem} (h : SendAccepted env s s') :
    s'.dataPacketBuffer.length =
      wireLength s.liveRow + (tcpCombineMessages s.batch maxCombinedSize).length := by
  rw [h.frame, List.length_append, wireLength]

/-- A batch that fits is in the frame from its first to its last byte. -/
theorem SendAccepted.frame_of_fits {s' : TcpSystem} (h : SendAccepted env s s')
    (hfit : wireLength s.batch ≤ maxCombinedSize) :
    s'.dataPacketBuffer = ((s.liveRow ++ s.batch).map ModuleMessage.wire).flatten := by
  rw [h.frame, tcpCombineMessages_of_fits (length_batch_le s) hfit, List.map_append,
    List.flatten_append]

/-- What is popped and what is left make up the queue. -/
theorem SendAccepted.ackedRows_append {s' : TcpSystem} (h : SendAccepted env s s') :
    s'.ackedRows ++ logicalContent tcpSendQueueConfig (tcpStateHandleAckReceived s').2.sendQueue =
      logicalContent tcpSendQueueConfig s'.sendQueue := by
  obtain ⟨hrows, hrest⟩ := ackedRows_eq h.queue.inv (by rw [h.batchCount]; exact length_batch_le s)
  rw [hrows, hrest, List.take_append_drop]

/-- The last acknowledgement of a send moves the client to `ACK_RECEIVED`. -/
theorem SendAccepted.acknowledged {s' : TcpSystem} (h : SendAccepted env s s') :
    tcpSocketEventCallback (s'.setState .waitAckData).client.tcpFd .sendacked env.lwipSend.toNat
        (s'.setState .waitAckData) =
      { s' with client := { s'.client with
        state := .ackReceived, tcpBytesAcked := env.lwipSend } } := by
  have hfd : ¬ (s'.client.tcpFd ≠ s'.client.tcpFd ∨ s'.client.tcpFd < 0) := by
    have := h.fd
    have := h.fd_nonneg
    omega
  have hpos := h.sent_pos
  have hacked : (0 : Int) + env.lwipSend.toNat = env.lwipSend := by omega
  simp only [tcpSocketEventCallback, TcpSystem.setState, if_neg hfd, reduceCtorEq, if_false,
    h.sent, h.acked, hacked, gt_iff_lt, hpos, if_true, ge_iff_le, le_refl, or_true, and_self]

/-- The rows counted by a send, and popped when it is acknowledged, are whole in
its frame exactly if the peeked rows together have at most 512 bytes. -/
theorem counted_rows_carried_iff (h : QueueInv tcpSendQueueConfig s.sendQueue) (env : TcpEnv)
    (hsent : (tcpStateHandleSendingData env s).1 = .success) :
    let s' := (tcpStateHandleSendingData env s).2
    s'.ackedRows.length = s'.client.tcpSendQueueBatchCount ∧
      s'.ackedRows ++
          logicalContent tcpSendQueueConfig (tcpStateHandleAckReceived s').2.sendQueue =
        logicalContent tcpSendQueueConfig s'.sendQueue ∧
      (Carries s'.dataPacketBuffer (s'.ackedRows.map ModuleMessage.wire) ↔
        wireLength s.batch ≤ maxCombinedSize) := by
  have hs := sendAccepted h hsent
  dsimp only
  rw [hs.ackedRows, hs.batchCount]
  refine ⟨rfl, ?_, ?_, ?_⟩
  · rw [← hs.ackedRows]
    exact hs.ackedRows_append
  · intro hcarries
    have hlen := hcarries.length_le
    rw [hs.length_frame] at hlen
    exact hlen.trans (wireLength_liveRow_add_le s)
  · intro hfit
    rw [hs.frame_of_fits hfit, List.map_append, List.flatten_append]
    have hrows := carries_flatten_append (s.batch.map ModuleMessage.wire) []
    rw [List.append_nil] at hrows
    exact hrows.append_left _

/-- When the peer has acknowledged the `m` bytes the socket accepted, the popped
rows and the live-first row are among these bytes exactly if they have no more
than `m` bytes together. -/
theorem acknowledged_rows_carried_iff (h : QueueInv tcpSendQueueConfig s.sendQueue) (env : TcpEnv)
    (hsent : (tcpStateHandleSendingData env s).1 = .success)
    (hle : env.lwipSend.toNat ≤ (tcpStateHandleSendingData env s).2.dataPacketBuffer.length) :
    let s' := (tcpStateHandleSendingData env s).2.setState .waitAckData
    let acked := tcpSocketEventCallback s'.client.tcpFd .sendacked env.lwipSend.toNat s'
    acked.client.state = .ackReceived ∧
      acked.ackedRows ++
          logicalContent tcpSendQueueConfig (tcpStateHandleAckReceived acked).2.sendQueue =
        logicalContent tcpSendQueueConfig s'.sendQueue ∧
      (Carries (s'.dataPacketBuffer.take env.lwipSend.toNat)
          ((s.liveRow ++ acked.ackedRows).map ModuleMessage.wire) ↔
        wireLength (s.liveRow ++ s.batch) ≤ env.lwipSend.toNat) := by
  have hs := sendAccepted h hsent
  generalize (tcpStateHandleSendingData env s).2 = s' at hs hle ⊢
  have hrows : ({ s' with client := { s'.client with
      state := .ackReceived, tcpBytesAcked := env.lwipSend } } : TcpSystem).ackedRows = s.batch :=
    hs.ackedRows
  dsimp only
  rw [hs.acknowledged, hrows]
  refine ⟨rfl, ?_, ?_, ?_⟩
  · rw [← hs.ackedRows]
    exact hs.ackedRows_append
  · intro hcarries
    have hlen := hcarries.length_le
    rw [List.length_take] at hlen
    exact hlen.trans (Nat.min_le_left _ _)
  · intro hfit
    have hframe := hs.length_frame
    have hmax := wireLength_liveRow_add_le s
    have hbatch : wireLength s.batch ≤ maxCombinedSize := by
      rw [wireLength_append] at hfit
      omega
    have hwhole := hs.frame_of_fits hbatch
    change Carries (s'.dataPacketBuffer.take env.lwipSend.toNat) _
    rw [hwhole, List.take_of_length_le hfit]
    have hall := carries_flatten_append ((s.liveRow ++ s.batch).map ModuleMessage.wire) []
    rwa [List.append_nil] at hall

end Sending

/-! ### Runs on the real configuration -/

/-- A client about to send, with these rows in the queue of a fresh device. -/
def sendingSystem (liveFirst : Bool) (rows : List ModuleMessage) : TcpSystem where
  client :=
    { state := .sendingData
      tcpFd := 3
      lastConnectedState := true
      sessionUp := true
      config := some ⟨CArray.ofList 64 [], 9616, 30000, 10000, false, liveFirst⟩
      tcpBytesSent := -1
      tcpBytesAcked := 0
      tcpSendQueueBatchCount := 0
      recvPending := false
      stateEntryTick := 0
      sessionDownSince := 0
      reconnectDelayCycles := 0 }
  lastState := .sendingData
  loginPacketBuffer := []
  dataPacketBuffer := []
  sendQueue := ((sendQueueMachine tcpSendQueueConfig).run freshSendQueue (rows.map .push)).2
  outputs := []

/-- A network in order whose socket answers a send with `m`, and `err` as the
errno of a failing one. -/
def socketEnv (m err : Int) : TcpEnv where
  ticks := 0
  networkConnected := true
  socketCreate := 3
  addressFound := true
  connect := 0
  sockErrno := 0
  lastErrno := err
  loginPacket := []
  lastValidPosition := []
  lwipSend := m
  recv := 0

/-- A position packet as the GPS module frames it, zero between its markers. -/
def positionRow : ModuleMessage :=
  .ofPayload .gps .tcp ([0x57, 0x45, 0x49] ++ List.replicate 50 0 ++ [0x77, 0x65])

/-- Short rows leave the queue in order. -/
theorem queueInv_sendingSystem (liveFirst : Bool) (rows : List ModuleMessage)
    (h : (sendQueueMachine tcpSendQueueConfig).Along (ShortStep tcpSendQueueConfig) freshSendQueue
      (rows.map .push)) : QueueInv tcpSendQueueConfig (sendingSystem liveFirst rows).sendQueue :=
  (sendQueue_run wellFormed_tcpSendQueueConfig queueInv_freshSendQueue.1
    (fun _ hx => absurd hx List.not_mem_nil) h).1

/-- Two position packets in one frame of 110 bytes. -/
theorem counted_rows_carried_positions :
    Carries (tcpStateHandleSendingData (socketEnv 110 0)
        (sendingSystem false [positionRow, positionRow])).2.dataPacketBuffer
      ((tcpStateHandleSendingData (socketEnv 110 0)
        (sendingSystem false [positionRow, positionRow])).2.ackedRows.map ModuleMessage.wire) :=
  (counted_rows_carried_iff
    (queueInv_sendingSystem false [positionRow, positionRow] (by decide +kernel))
    (socketEnv 110 0) (by decide +kernel)).2.2.mpr (by decide +kernel)

/-- Three replies of 256 bytes: the frame has room for two, all three are counted,
and the acknowledgement empties the queue. -/
theorem counted_row_not_carried :
    let s' := (tcpStateHandleSendingData (socketEnv 512 0)
      (sendingSystem false [fullResponse, fullResponse, fullResponse])).2
    s'.client.tcpSendQueueBatchCount = 3 ∧
      logicalContent tcpSendQueueConfig (tcpStateHandleAckReceived s').2.sendQueue = [] ∧
      ¬ Carries s'.dataPacketBuffer (s'.ackedRows.map ModuleMessage.wire) :=
  ⟨by decide +kernel, by decide +kernel, fun h => absurd h.length_le (by decide +kernel)⟩

/-- A position packet that the socket takes whole. -/
theorem acknowledged_rows_carried_position :
    let s' := (tcpStateHandleSendingData (socketEnv 55 0)
      (sendingSystem false [positionRow])).2.setState .waitAckData
    let acked := tcpSocketEventCallback s'.client.tcpFd .sendacked
      (socketEnv 55 0).lwipSend.toNat s'
    acked.client.state = .ackReceived :=
  (acknowledged_rows_carried_iff
    (queueInv_sendingSystem false [positionRow] (by decide +kernel))
    (socketEnv 55 0) (by decide +kernel) (by decide +kernel)).1

/-- The socket takes 10 of 55 bytes, the peer acknowledges 10, and the row is gone. -/
theorem short_send_commits_row :
    let s' := (tcpStateHandleSendingData (socketEnv 10 0)
      (sendingSystem false [positionRow])).2.setState .waitAckData
    let acked := tcpSocketEventCallback s'.client.tcpFd .sendacked 10 s'
    acked.client.state = .ackReceived ∧
      logicalContent tcpSendQueueConfig (tcpStateHandleAckReceived acked).2.sendQueue = [] ∧
      ¬ Carries (s'.dataPacketBuffer.take 10) (acked.ackedRows.map ModuleMessage.wire) :=
  ⟨by decide +kernel, by decide +kernel, fun h => absurd h.length_le (by decide +kernel)⟩

/-! ## The live-first row after a send that fails -/

/-- A row as the producers make them: inline, and not empty. -/
structure Sendable (m : ModuleMessage) : Prop where
  inline : m.Inline
  pos : 0 < m.dataLen

theorem ProducedRow.sendable {m : ModuleMessage} (h : ProducedRow m) : Sendable m :=
  ⟨h.paddedInline.inline, h.paddedInline.pos⟩

/-- Freeing does nothing to an inline row. -/
theorem Sendable.freed {m : ModuleMessage} (h : Sendable m) : m.freed = m := by
  rw [ModuleMessage.freed, if_neg (by rw [h.inline.static]; exact Bool.false_ne_true)]

/-- A batch that starts with such a row gives a frame. -/
theorem length_tcpCombineMessages_pos {m : ModuleMessage} (h : Sendable m)
    (msgs : List ModuleMessage) : 0 < (tcpCombineMessages (m :: msgs) maxCombinedSize).length := by
  have hfit : m.dataLen ≤ 256 := h.inline.fits
  have hpos := h.pos
  have hcopied : (if m.dataLen < maxCombinedSize - ([] : List Byte).length then m.dataLen
      else maxCombinedSize - ([] : List Byte).length) = m.dataLen := by
    rw [if_pos]
    simp only [maxCombinedSize, List.length_nil]
    omega
  rw [tcpCombineMessages, combineLoop, if_neg (by decide),
    ModuleMessage.payloadPtr_of_static h.inline.static]
  dsimp only
  rw [if_neg (by omega), if_neg (by simp only [maxCombinedSize]; omega),
    if_neg (by simp [maxCombinedSize]), hcopied, List.nil_append]
  have hlen : (memRead m.message.toList m.dataLen).length = m.dataLen := length_memRead ..
  split
  · omega
  · have := length_le_combineLoop maxCombinedSize msgs (0 + 1) (memRead m.message.toList m.dataLen)
    omega

section Frame

variable {s : TcpSystem} {env : TcpEnv}

theorem sendQueue_handleState (r : Result × TcpSystem) (a b c : TcpState) :
    (handleState r a b c).sendQueue = r.2.sendQueue := by
  unfold handleState
  split <;> rfl

theorem sendQueue_closeSocket (s : TcpSystem) : s.closeSocket.sendQueue = s.sendQueue := by
  unfold TcpSystem.closeSocket
  split <;> rfl

/-- Timeouts and reading from the socket leave the queue alone. -/
theorem sendQueue_tcpCyclePrelude (env : TcpEnv) (s : TcpSystem) :
    (tcpCyclePrelude env s).sendQueue = s.sendQueue := by
  have hstate (s : TcpSystem) : (tcpCheckStateTimeout env s).sendQueue = s.sendQueue := by
    simp only [tcpCheckStateTimeout]
    split
    · split
      · rfl
      · split <;> rfl
    · split
      · rfl
      · split <;> rfl
  have hoverall (s : TcpSystem) : (tcpCheckOverallTimeout env s).sendQueue = s.sendQueue := by
    unfold tcpCheckOverallTimeout
    split
    · rfl
    · split <;> rfl
  unfold tcpCyclePrelude
  dsimp only
  split <;> split <;> simp only [hoverall, hstate]

/-- No handler but the two that work on the queue touches it. -/
theorem sendQueue_tcpDispatch (h : s.client.state ≠ .ackReceived)
    (h' : s.client.state ≠ .sendingData) : (tcpDispatch env s).sendQueue = s.sendQueue := by
  have hsend (t : TcpSystem) (buffer : List Byte) :
      (tcpSendData env t buffer).2.sendQueue = t.sendQueue := (tcpSendData_frame env t buffer).1
  have hwait : (tcpStateHandleWaitAck env s).2.sendQueue = s.sendQueue := by
    unfold tcpStateHandleWaitAck
    repeat' split
    all_goals rfl
  unfold tcpDispatch
  cases hstate : s.client.state with
  | init => rfl
  | waitNetwork => exact sendQueue_handleState ..
  | socketCreating =>
    rw [sendQueue_handleState]
    simp only [tcpStateHandleSocketCreating]
    split <;> rfl
  | socketCreated =>
    rw [sendQueue_handleState]
    unfold tcpStateHandleSocketCreated
    repeat' split
    all_goals rfl
  | connecting => exact sendQueue_handleState ..
  | connected =>
    rw [sendQueue_handleState]
    unfold tcpStateHandleConnected
    split <;> rfl
  | sendingLogin =>
    rw [sendQueue_handleState]
    simp only [tcpStateHandleSendingLogin]
    split
    · rfl
    · split
      · rfl
      · exact hsend _ _
  | waitAckLogin => exact (sendQueue_handleState ..).trans hwait
  | ackReceived => exact absurd hstate h
  | sendingData => exact absurd hstate h'
  | waitAckData => exact (sendQueue_handleState ..).trans hwait
  | receiving => exact sendQueue_handleState ..
  | closed =>
    rw [sendQueue_handleState]
    simp only [tcpStateHandleClosed, sendQueue_closeSocket]
    split <;> rfl
  | reconnectDelay =>
    rw [sendQueue_handleState]
    simp only [tcpStateHandleReconnectDelay]
    split <;> rfl
  | error =>
    rw [sendQueue_handleState]
    exact sendQueue_closeSocket s

/-- Socket events leave the queue alone. -/
theorem sendQueue_tcpSocketEventCallback (fd : Int) (evt : NetconnEvent) (len : Nat)
    (s : TcpSystem) : (tcpSocketEventCallback fd evt len s).sendQueue = s.sendQueue := by
  unfold tcpSocketEventCallback
  split
  · rfl
  · split
    · rfl
    · cases evt <;> dsimp only
      case sendacked =>
        split
        · split <;> rfl
        · rfl
      all_goals first | rfl | (split <;> rfl)

end Frame

/-- A step that neither commits a batch nor starts a new send. -/
def BeforeAck (s : TcpSystem) : TcpInput → Prop
  | .cycle env => (tcpCyclePrelude env s).client.state ≠ .ackReceived ∧
      (tcpCyclePrelude env s).client.state ≠ .sendingData
  | _ => True

instance (s : TcpSystem) : ∀ i, Decidable (BeforeAck s i)
  | .cycle _ => inferInstanceAs (Decidable (_ ∧ _))
  | .event .. => isTrue trivial
  | .resetConnection => isTrue trivial

/-- Closing, timing out, reconnecting and waiting keep every row. -/
theorem sendQueue_run_beforeAck {s : TcpSystem} {later : List TcpInput}
    (h : tcpMachine.Along BeforeAck s later) :
    (tcpMachine.run s later).2.sendQueue = s.sendQueue := by
  refine tcpMachine.invariant (I := fun t => t.sendQueue = s.sendQueue) ?_ rfl h
  intro t i ht hi
  cases i with
  | cycle env =>
    refine ((sendQueue_tcpDispatch hi.1 hi.2).trans (sendQueue_tcpCyclePrelude env t)).trans ht
  | event fd evt len => exact (sendQueue_tcpSocketEventCallback fd evt len t).trans ht
  | resetConnection => exact ht

/-- However a send ends, short of an acknowledgement, the queue holds what it held
before exactly if the live-first step did not take its newest row. -/
theorem live_first_keeps_content_iff {s : TcpSystem}
    (h : QueueInv tcpSendQueueConfig s.sendQueue)
    (hrows : ∀ x ∈ logicalContent tcpSendQueueConfig s.sendQueue, Sendable x) (env : TcpEnv)
    (later : List TcpInput)
    (hlater : tcpMachine.Along BeforeAck
      (handleState (tcpStateHandleSendingData env s) .waitAckData .error .sendingData) later) :
    logicalContent tcpSendQueueConfig (tcpMachine.run
        (handleState (tcpStateHandleSendingData env s) .waitAckData .error .sendingData)
        later).2.sendQueue = logicalContent tcpSendQueueConfig s.sendQueue ↔
      ¬ (s.validateSocketForSend env = true ∧ s.liveRow ≠ []) := by
  rw [sendQueue_run_beforeAck hlater, sendQueue_handleState,
    sendQueue_tcpStateHandleSendingData h]
  by_cases hvalid : s.validateSocketForSend env = true
  · rw [if_neg (not_not_intro hvalid)]
    cases hcontent : logicalContent tcpSendQueueConfig s.sendQueue with
    | nil =>
      have hcount : ¬ queueIsFull tcpSendQueueConfig s.sendQueue = true := by
        intro hfull
        have hlen := congrArg List.length hcontent
        rw [logicalContent, List.length_append, length_ringRows, List.length_nil] at hlen
        have := (queuePopTail_full h hfull).2.2.2
        omega
      have hnone : s.liveRow = [] := by simp [TcpSystem.liveRow, liveFirstTaken, hcount]
      rw [if_pos rfl, hcontent, hnone]
      exact iff_of_true rfl fun hc => hc.2 rfl
    | cons m msgs =>
      have hbatch : s.batch = m :: msgs.take 4 := by
        rw [TcpSystem.batch, hcontent]
        rfl
      have hpos := length_tcpCombineMessages_pos (hrows m (by rw [hcontent]; simp)) (msgs.take 4)
      rw [← hbatch] at hpos
      have hne : tcpCombineMessages s.batch maxCombinedSize ≠ [] := List.length_pos_iff.mp hpos
      rw [if_neg (List.cons_ne_nil _ _), if_neg (by omega)]
      obtain ⟨d', hprepend, heffect⟩ := tcpPrependLiveFirstQueueTail_sound h s.client.config hne
      change LiveFirstEffect s.sendQueue d' s.liveRow at heffect
      rw [hprepend, ← hcontent]
      dsimp only
      by_cases htaken : s.liveRow = []
      · exact iff_of_true (heffect.kept htaken fun x hx => (hrows x hx).freed)
          fun hc => hc.2 htaken
      · have hshort := heffect.shorter htaken
        refine iff_of_false (fun heq => ?_) fun hc => hc ⟨hvalid, htaken⟩
        rw [heq] at hshort
        omega
  · rw [if_pos hvalid]
    exact iff_of_true rfl fun hc => hvalid hc.1

/-- A queue that is not full keeps its row when the socket has no room. -/
theorem live_first_keeps_content_position :
    logicalContent tcpSendQueueConfig (tcpMachine.run
        (handleState (tcpStateHandleSendingData (socketEnv 0 0) (sendingSystem true [positionRow]))
          .waitAckData .error .sendingData)
        [.event 3 .closeNormal 0, .cycle (socketEnv 0 0)]).2.sendQueue =
      logicalContent tcpSendQueueConfig (sendingSystem true [positionRow]).sendQueue :=
  (live_first_keeps_content_iff
    (queueInv_sendingSystem true [positionRow] (by decide +kernel))
    (by
      intro x hx
      have hcontent : logicalContent tcpSendQueueConfig
          (sendingSystem true [positionRow]).sendQueue = [positionRow] := by decide +kernel
      rw [hcontent, List.mem_singleton] at hx
      subst hx
      exact ⟨ModuleMessage.inline_ofPayload _ _ (by decide), by decide⟩)
    (socketEnv 0 0) [.event 3 .closeNormal 0, .cycle (socketEnv 0 0)] (by decide +kernel)).mpr
    (by decide +kernel)

/-- A text reply as it is framed for the TCP queue. -/
def replyRow : ModuleMessage := .ofPayload .cmd .tcp [0x57, 0x45, 38, 1, 0, 0x4F, 0x77, 0x65]

/-- Six position packets and a reply fill the ring, the send fails with
`ECONNRESET`, and after the cycles that close the connection the reply is gone. -/
theorem failed_send_loses_newest :
    let s := sendingSystem true (List.replicate 6 positionRow ++ [replyRow])
    let s' := handleState (tcpStateHandleSendingData (socketEnv (-1) 104) s)
      .waitAckData .error .sendingData
    let later := (tcpMachine.run s'
      [.cycle (socketEnv (-1) 104), .cycle (socketEnv (-1) 104)]).2
    s'.client.state = .error ∧ later.client.state = .reconnectDelay ∧
      replyRow ∈ logicalContent tcpSendQueueConfig s.sendQueue ∧
      replyRow ∉ logicalContent tcpSendQueueConfig later.sendQueue := by
  decide +kernel

end WalnutGateway
