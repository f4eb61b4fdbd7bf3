import WalnutGateway.Queue.Fifo

/-!
# A queue without an overflow file

`queue_push` refuses a row when the ring is full and there is no file to move the head row to.
Such a queue is a list of at most as many rows as its capacity.
-/

namespace WalnutGateway

variable {α : Type}

/-- A push on a list of at most `capacity` rows. -/
def boundedPush (capacity : Nat) (rows : List α) (data : α) : Result × List α :=
  if capacity ≤ rows.length then (.busy, rows) else (.success, rows ++ [data])

/-- A pop of at most `max` rows of a list. -/
def boundedPop (rows : List α) (max : Nat) : (Result × List α) × List α :=
  ((if max = 0 then .invalidParam else if rows.isEmpty then .notFound else .success,
    rows.take max), rows.drop max)

/-- The bounded list under a sequence of calls. -/
def boundedMachine (α : Type) (capacity : Nat) : Machine (List α) (QueueOp α) (QueueReply α) where
  step rows
    | .push data => (.pushed (boundedPush capacity rows data).1, (boundedPush capacity rows data).2)
    | .pop max =>
      (.popped (boundedPop rows max).1.1 (boundedPop rows max).1.2, (boundedPop rows max).2)

variable {cfg : QueueConfig α} {d : Device α}

theorem queuePush_bounded (hfile : queueHasFile cfg = false) (h : d.q.RingOk cfg) (data : α) :
    (queuePush cfg d data).1 = (boundedPush cfg.capacity (d.q.ringRows cfg) data).1 ∧
      (queuePush cfg d data).2.q.RingOk cfg ∧
      (queuePush cfg d data).2.q.ringRows cfg =
        (boundedPush cfg.capacity (d.q.ringRows cfg) data).2 := by
  unfold queuePush boundedPush
  rw [h.not_badIndices, if_neg Bool.false_ne_true, length_ringRows]
  split
  · rw [if_pos (by rw [hfile]; exact Bool.false_ne_true)]
    exact ⟨rfl, h, rfl⟩
  · rename_i hroom
    have hlt := not_le.mp hroom
    exact ⟨rfl, h.storeTail hlt data, ringRows_storeTail h hlt data⟩

theorem queuePopOne_bounded (hfile : queueHasFile cfg = false) (h : d.q.RingOk cfg) :
    (d.q.ringRows cfg = [] ∧ queuePopOne cfg d = (.error .notFound, d)) ∨
      ∃ x d', queuePopOne cfg d = (.ok x, d') ∧ d'.q.RingOk cfg ∧
        d.q.ringRows cfg = x :: d'.q.ringRows cfg := by
  unfold queuePopOne
  rw [hfile, if_neg fun hfalse => Bool.false_ne_true hfalse.1]
  split
  · rename_i hpos
    rw [if_neg (not_le.mpr h.head_lt)]
    exact Or.inr ⟨_, _, rfl, h.dropHead hpos, ringRows_dropHead h hpos⟩
  · rename_i hzero
    refine Or.inl ⟨List.eq_nil_of_length_eq_zero ?_, rfl⟩
    rw [length_ringRows]
    omega

theorem queuePopLoop_bounded (hfile : queueHasFile cfg = false) (n : Nat) {d : Device α}
    (h : d.q.RingOk cfg) :
    (queuePopLoop cfg n d).1 = (d.q.ringRows cfg).take n ∧
      (queuePopLoop cfg n d).2.q.RingOk cfg ∧
      (queuePopLoop cfg n d).2.q.ringRows cfg = (d.q.ringRows cfg).drop n := by
  induction n generalizing d with
  | zero => exact ⟨rfl, h, rfl⟩
  | succ n ih =>
    unfold queuePopLoop
    rcases queuePopOne_bounded hfile h with ⟨hempty, hpop⟩ | ⟨x, d', hpop, hring, hrows⟩
    · rw [hpop, hempty]
      exact ⟨rfl, h, rfl⟩
    · obtain ⟨htake, hring', hdrop⟩ := ih hring
      rw [hpop, hrows]
      refine ⟨?_, hring', hdrop⟩
      rw [List.take_succ_cons, ← htake]

theorem queuePop_bounded (hfile : queueHasFile cfg = false) (h : d.q.RingOk cfg) (max : Nat) :
    (queuePop cfg d max).1 = (boundedPop (d.q.ringRows cfg) max).1 ∧
      (queuePop cfg d max).2.q.RingOk cfg ∧
      (queuePop cfg d max).2.q.ringRows cfg = (boundedPop (d.q.ringRows cfg) max).2 := by
  unfold queuePop boundedPop
  split
  · rename_i hzero
    subst hzero
    exact ⟨rfl, h, rfl⟩
  · rename_i hmax
    obtain ⟨htake, hring, hdrop⟩ := queuePopLoop_bounded hfile max h
    rw [h.not_badIndices, if_neg Bool.false_ne_true]
    dsimp only
    rw [htake]
    cases hrows : d.q.ringRows cfg with
    | nil =>
      rw [hrows] at hdrop
      rw [List.take_nil, if_pos (show ([] : List α).length = 0 from rfl)]
      exact ⟨rfl, hring, hdrop⟩
    | cons x rows =>
      rw [hrows] at hdrop
      obtain ⟨n, rfl⟩ := Nat.exists_eq_succ_of_ne_zero hmax
      exact ⟨rfl, hring, hdrop⟩

/-- A queue without an overflow file answers every sequence of calls as the bounded list of its
rows does. -/
theorem queue_refines_bounded (hfile : queueHasFile cfg = false) (h : d.q.RingOk cfg)
    (ops : List (QueueOp α)) :
    ((queueMachine cfg).run d ops).1 =
        ((boundedMachine α cfg.capacity).run (d.q.ringRows cfg) ops).1 ∧
      ((queueMachine cfg).run d ops).2.q.RingOk cfg ∧
      ((queueMachine cfg).run d ops).2.q.ringRows cfg =
        ((boundedMachine α cfg.capacity).run (d.q.ringRows cfg) ops).2 := by
  have hrefines := (queueMachine cfg).refines (boundedMachine α cfg.capacity)
    (P := fun _ _ => True) (R := fun d rows => d.q.RingOk cfg ∧ d.q.ringRows cfg = rows) id id
    (by
      rintro d rows op ⟨hring, rfl⟩ -
      cases op with
      | push data =>
        obtain ⟨hreply, hring', hrows⟩ := queuePush_bounded hfile hring data
        exact ⟨congrArg QueueReply.pushed hreply, hring', hrows⟩
      | pop max =>
        obtain ⟨hreply, hring', hrows⟩ := queuePop_bounded hfile hring max
        refine ⟨?_, hring', hrows⟩
        change QueueReply.popped (queuePop cfg d max).1.1 (queuePop cfg d max).1.2 = _
        rw [hreply]
        rfl)
    ⟨h, rfl⟩ (Machine.Along.trivial _ _ ops)
  rw [List.map_id, List.map_id] at hrefines
  exact hrefines

end WalnutGateway
