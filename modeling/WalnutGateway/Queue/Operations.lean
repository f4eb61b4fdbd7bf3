import WalnutGateway.Core.Ring
import WalnutGateway.Queue.Overflow

/-!
# Queue operations

`queue_push`, `queue_pop`, `queue_pop_tail` and `queue_peek_batch` with the
configuration and the device they run on. A full push moves the head row to the
overflow file; a pop empties that file before it touches the ring. The bounds
of `head` and `tail` that the source checks a second time under the lock are
checked once: nothing moves them in between.
-/

namespace WalnutGateway

variable {α : Type}

/-! ## The ring -/

/-- Store a row at the tail. -/
def Queue.storeTail (cfg : QueueConfig α) (q : Queue α) (data : α) : Queue α :=
  { q with
    buffer := Function.update q.buffer q.tail data
    tail := (q.tail + 1) % cfg.capacity
    count := q.count + 1 }

/-- Step over the head row. -/
def Queue.dropHead (cfg : QueueConfig α) (q : Queue α) : Queue α :=
  { q with head := (q.head + 1) % cfg.capacity, count := q.count - 1 }

/-- The slot before the tail. -/
def Queue.lastIdx (cfg : QueueConfig α) (q : Queue α) : Nat :=
  (q.tail + cfg.capacity - 1) % cfg.capacity

/-- Step back over the tail row. -/
def Queue.dropTail (cfg : QueueConfig α) (q : Queue α) : Queue α :=
  { q with tail := q.lastIdx cfg, count := q.count - 1 }

/-- One of the indices is outside the buffer. -/
def Queue.badIndices (cfg : QueueConfig α) (q : Queue α) : Bool :=
  q.head ≥ cfg.capacity ∨ q.tail ≥ cfg.capacity

/-! ## The operations -/

/-- `queue_push`. -/
def queuePush (cfg : QueueConfig α) (d : Device α) (data : α) : Result × Device α :=
  if d.q.badIndices cfg then (.error, d) else
  if d.q.count ≥ cfg.capacity then
    if ¬ queueHasFile cfg then (.busy, d) else
    let a := queueFileAppend cfg d (d.q.buffer d.q.head)
    if a.1.isError then a
    else (.success, { a.2 with q := (a.2.q.dropHead cfg).storeTail cfg data })
  else (.success, { d with q := d.q.storeTail cfg data })

/-- One turn of the loop of `queue_pop`. -/
def queuePopOne (cfg : QueueConfig α) (d : Device α) : Except Result α × Device α :=
  if queueHasFile cfg ∧ d.q.fileReadOffset < d.q.fileSize then queueFileRead cfg d
  else if d.q.count > 0 then
    if d.q.head ≥ cfg.capacity then (.error .error, d)
    else (.ok (d.q.buffer d.q.head), { d with q := d.q.dropHead cfg })
  else (.error .notFound, d)

/-- The loop of `queue_pop`, for `max - cnt` more rows. -/
def queuePopLoop (cfg : QueueConfig α) : Nat → Device α → List α × Device α
  | 0, d => ([], d)
  | n + 1, d =>
    match queuePopOne cfg d with
    | (.error _, d) => ([], d)
    | (.ok x, d) =>
      let r := queuePopLoop cfg n d
      (x :: r.1, r.2)

/-- `queue_pop`: the result and the rows copied to `out`. -/
def queuePop (cfg : QueueConfig α) (d : Device α) (max : Nat) :
    (Result × List α) × Device α :=
  if max = 0 then ((.invalidParam, []), d) else
  if d.q.badIndices cfg then ((.error, []), d) else
  let r := queuePopLoop cfg max d
  if r.1.length = 0 then ((.notFound, r.1), r.2) else ((.success, r.1), r.2)

/-- `queue_pop_tail`: the row behind which the tail now stands. -/
def queuePopTail (cfg : QueueConfig α) (d : Device α) : Except Result α × Device α :=
  if d.q.count = 0 then (.error .notFound, d) else
  if d.q.tail ≥ cfg.capacity then (.error .error, d) else
  (.ok (d.q.buffer (d.q.lastIdx cfg)), { d with q := d.q.dropTail cfg })

/-- The loop of `queue_peek_batch` from element `cnt` on, for `n` more. -/
def queuePeekBatchLoop (cfg : QueueConfig α) (fileSlots : Nat) :
    Nat → Nat → Device α → List α × Device α
  | 0, _, d => ([], d)
  | n + 1, cnt, d =>
    if cnt < fileSlots then
      match queueFilePeekElement cfg d cnt with
      | (.error _, d) => ([], d)
      | (.ok x, d) =>
        let r := queuePeekBatchLoop cfg fileSlots n (cnt + 1) d
        (x :: r.1, r.2)
    else if cnt - fileSlots ≥ d.q.count then ([], d)
    else
      let r := queuePeekBatchLoop cfg fileSlots n (cnt + 1) d
      (d.q.buffer ((d.q.head + (cnt - fileSlots)) % cfg.capacity) :: r.1, r.2)

/-- `file_slots` of `queue_peek_batch`. -/
def queueFileSlots (cfg : QueueConfig α) (d : Device α) : Nat × Device α :=
  if queueHasFile cfg ∧ d.q.fileReadOffset < d.q.fileSize then
    if queueIsTcpSendQ cfg then queueTcpFileCountRecords cfg d
    else if cfg.elementSize > 0 then
      ((d.q.fileSize - d.q.fileReadOffset) / cfg.elementSize, d)
    else (0, d)
  else (0, d)

/-- `queue_peek_batch`: the result and the rows copied to `out`. -/
def queuePeekBatch (cfg : QueueConfig α) (d : Device α) (maxElements : Nat) :
    (Result × List α) × Device α :=
  if maxElements = 0 then ((.invalidParam, []), d) else
  if d.q.badIndices cfg then ((.error, []), d) else
  let slots := queueFileSlots cfg d
  let totalLogical := slots.1 + slots.2.q.count
  if totalLogical = 0 then ((.notFound, []), slots.2) else
  let r := queuePeekBatchLoop cfg slots.1 (min maxElements totalLogical) 0 slots.2
  if r.1.length = 0 then ((.notFound, r.1), r.2) else ((.success, r.1), r.2)

/-- `queue_is_full`. -/
def queueIsFull (cfg : QueueConfig α) (d : Device α) : Bool := d.q.count ≥ cfg.capacity

/-- `queue_is_empty`: looks at the ring only. -/
def queueIsEmpty (d : Device α) : Bool := d.q.count = 0

/-! ## Ring rows -/

/-- The rows in the ring, oldest first. -/
def Queue.ringRows (cfg : QueueConfig α) (q : Queue α) : List α :=
  ringWindow q.buffer cfg.capacity q.head q.count

/-- Head, tail and count are ones that a snapshot may hold. -/
structure Queue.InRange (cfg : QueueConfig α) (q : Queue α) : Prop where
  head_lt : q.head < cfg.capacity
  tail_lt : q.tail < cfg.capacity
  count_le : q.count ≤ cfg.capacity

/-- Head, tail and count describe one window of the buffer. -/
structure Queue.RingOk (cfg : QueueConfig α) (q : Queue α) : Prop where
  head_lt : q.head < cfg.capacity
  tail_eq : q.tail = (q.head + q.count) % cfg.capacity
  count_le : q.count ≤ cfg.capacity

namespace Queue.RingOk

variable {cfg : QueueConfig α} {q : Queue α}

theorem capacity_pos (h : q.RingOk cfg) : 0 < cfg.capacity := Nat.zero_lt_of_lt h.head_lt

theorem tail_lt (h : q.RingOk cfg) : q.tail < cfg.capacity := by
  rw [h.tail_eq]
  exact Nat.mod_lt _ h.capacity_pos

theorem inRange (h : q.RingOk cfg) : q.InRange cfg := ⟨h.head_lt, h.tail_lt, h.count_le⟩

theorem not_badIndices (h : q.RingOk cfg) : q.badIndices cfg = false := by
  simp [Queue.badIndices, h.head_lt, h.tail_lt]

/-- Storing at the tail of a ring with room. -/
theorem storeTail (h : q.RingOk cfg) (hc : q.count < cfg.capacity) (data : α) :
    (q.storeTail cfg data).RingOk cfg where
  head_lt := h.head_lt
  tail_eq := by
    change (q.tail + 1) % cfg.capacity = (q.head + (q.count + 1)) % cfg.capacity
    rw [h.tail_eq, Nat.mod_add_mod, Nat.add_assoc]
  count_le := hc

/-- Stepping over the head of a ring that is not empty. -/
theorem dropHead (h : q.RingOk cfg) (hc : 0 < q.count) : (q.dropHead cfg).RingOk cfg where
  head_lt := Nat.mod_lt _ h.capacity_pos
  tail_eq := by
    change q.tail = ((q.head + 1) % cfg.capacity + (q.count - 1)) % cfg.capacity
    rw [h.tail_eq, Nat.mod_add_mod, show q.head + 1 + (q.count - 1) = q.head + q.count by omega]
  count_le := (Nat.sub_le _ _).trans h.count_le

/-- Stepping back over the tail row. -/
theorem dropTail (h : q.RingOk cfg) (hc : 0 < q.count) : (q.dropTail cfg).RingOk cfg where
  head_lt := h.head_lt
  tail_eq := by
    change (q.tail + cfg.capacity - 1) % cfg.capacity = (q.head + (q.count - 1)) % cfg.capacity
    rw [h.tail_eq]
    exact ring_pred h.capacity_pos hc
  count_le := (Nat.sub_le _ _).trans h.count_le

end Queue.RingOk

section Rows

variable {cfg : QueueConfig α} {q : Queue α}

@[simp] theorem length_ringRows (cfg : QueueConfig α) (q : Queue α) :
    (q.ringRows cfg).length = q.count := length_ringWindow ..

/-- A row stored at the tail is the newest. -/
theorem ringRows_storeTail (h : q.RingOk cfg) (hc : q.count < cfg.capacity) (data : α) :
    (q.storeTail cfg data).ringRows cfg = q.ringRows cfg ++ [data] := by
  simp only [Queue.ringRows, Queue.storeTail, h.tail_eq]
  exact ringWindow_push data hc

/-- The head row is the oldest. -/
theorem ringRows_dropHead (h : q.RingOk cfg) (hc : 0 < q.count) :
    q.ringRows cfg = q.buffer q.head :: (q.dropHead cfg).ringRows cfg := by
  have hs := ringWindow_succ q.buffer h.head_lt (q.count - 1)
  rwa [Nat.sub_add_cancel hc] at hs

/-- The row before the tail is the newest. -/
theorem ringRows_dropTail (h : q.RingOk cfg) (hc : 0 < q.count) :
    q.ringRows cfg = (q.dropTail cfg).ringRows cfg ++ [q.buffer (q.lastIdx cfg)] := by
  have hs := ringWindow_snoc q.buffer cfg.capacity q.head (q.count - 1)
  have hlast : q.lastIdx cfg = (q.head + (q.count - 1)) % cfg.capacity := by
    rw [Queue.lastIdx, h.tail_eq]
    exact ring_pred h.capacity_pos hc
  rwa [Nat.sub_add_cancel hc, ← hlast] at hs

/-- Only the oldest row of a full ring makes room for a new one. -/
theorem ringRows_storeTail_dropHead (h : q.RingOk cfg) (hc : 0 < q.count) (data : α) :
    ((q.dropHead cfg).storeTail cfg data).RingOk cfg ∧
      q.buffer q.head :: ((q.dropHead cfg).storeTail cfg data).ringRows cfg =
        q.ringRows cfg ++ [data] := by
  have hle : (q.dropHead cfg).count < cfg.capacity := by
    change q.count - 1 < cfg.capacity
    have := h.count_le
    omega
  refine ⟨(h.dropHead hc).storeTail hle data, ?_⟩
  rw [ringRows_storeTail (h.dropHead hc) hle, ringRows_dropHead h hc, List.cons_append]

/-- Slot `i` of the window is row `i`. -/
theorem getElem_ringRows {i : Nat} (hi : i < (q.ringRows cfg).length) :
    (q.ringRows cfg)[i] = q.buffer ((q.head + i) % cfg.capacity) := by
  simp [Queue.ringRows, ringWindow]

end Rows

/-! ## What a push can do -/

/-- A push stores at once, or moves the head row first and gives up if that fails. -/
theorem queuePush_cases {cfg : QueueConfig α} {d : Device α} (h : d.q.RingOk cfg)
    (hfile : queueHasFile cfg = true) (data : α) :
    (d.q.count < cfg.capacity ∧
      queuePush cfg d data = (.success, { d with q := d.q.storeTail cfg data })) ∨
    (d.q.count = cfg.capacity ∧ ∃ r d', queueFileAppend cfg d (d.q.buffer d.q.head) = (r, d') ∧
      ((r ≠ .success ∧ queuePush cfg d data = (r, d')) ∨
        (r = .success ∧ queuePush cfg d data =
          (.success, { d' with q := (d'.q.dropHead cfg).storeTail cfg data })))) := by
  simp only [queuePush, h.not_badIndices, hfile, not_true_eq_false, if_false, Bool.false_eq_true,
    Result.isError, decide_eq_true_eq]
  by_cases hfull : d.q.count ≥ cfg.capacity
  · cases ha : queueFileAppend cfg d (d.q.buffer d.q.head) with
    | mk r d' =>
      refine Or.inr ⟨le_antisymm h.count_le hfull, r, d', rfl, ?_⟩
      rw [if_pos hfull]
      by_cases hr : r = .success
      · exact Or.inr ⟨hr, by rw [if_neg (not_not_intro hr)]⟩
      · exact Or.inl ⟨hr, by rw [if_pos hr]⟩
  · exact Or.inl ⟨by omega, by rw [if_neg hfull]⟩

end WalnutGateway
