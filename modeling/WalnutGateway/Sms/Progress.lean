import WalnutGateway.Sms.Delivery

/-!
# Progress of the SMS task

When the kernel posts nothing more, the task comes to the end of both queues, whatever it finds
on the way: every step takes something out of a queue, or gets nearer to one that does.
-/

namespace WalnutGateway

/-- How far the task is from a step that takes something: from the loop over the ring, or where
the ring is empty from a step that takes from the kernel's queue. -/
def SmsNext.rank (ringEmpty : Bool) : SmsNext → Nat
  | .setUp => if ringEmpty then 3 else 4 * smsPurgeMaxIndex + 4
  | .sweep index _ _ total => if ringEmpty then 3 else 4 * (total - index) + 4
  | .urc => if ringEmpty then 4 else 0
  | .read _ => if ringEmpty then 2 else 5
  | .discard _ => if ringEmpty then 2 else 4
  | .delete _ => if ringEmpty then 5 else 1
  | .send => if ringEmpty then 3 else 4 * smsPurgeMaxIndex + 8

/-- The same of a place. -/
def SmsPlace.rank (ringEmpty : Bool) : SmsPlace → Nat
  | .configure => if ringEmpty then 2 else 4 * smsPurgeMaxIndex + 7
  | .flush next => if ringEmpty then 1 else next.rank false + 2
  | .drain 0 next => next.rank ringEmpty + 1
  | .drain (_ + 1) next => if ringEmpty then 0 else next.rank false + 1
  | .after next => next.rank ringEmpty
  | .purge index _ _ total => if ringEmpty then 2 else 4 * (total + 1 - index) + 3
  | .wait _ => if ringEmpty then 0 else 4
  | .message => if ringEmpty then 3 else 4 * smsPurgeMaxIndex + 11

namespace SmsTask

/-- A message of the kernel's queue may still go through the ring. -/
def work (t : SmsTask) : Nat := 2 * t.tempMsgQueue.length + t.urcQ.length

/-- Both queues are empty. -/
def Idle (t : SmsTask) : Prop := t.tempMsgQueue = [] ∧ t.urcQ = []

/-- The step takes something out of a queue, or gets nearer to one that does. -/
def Nearer (next t : SmsTask) : Prop :=
  next.work < t.work ∨ (next.tempMsgQueue = t.tempMsgQueue ∧ next.urcQ = t.urcQ ∧
    next.place.rank t.urcQ.isEmpty < t.place.rank t.urcQ.isEmpty)

theorem nearer_wellFounded : WellFounded Nearer := by
  have hlex : WellFounded (Prod.Lex (fun m n : Nat => m < n) fun m n : Nat => m < n) :=
    WellFounded.prod_lex Nat.lt_wfRel.wf Nat.lt_wfRel.wf
  apply Subrelation.wf _ (InvImage.wf (fun t => (t.work, t.place.rank t.urcQ.isEmpty)) hlex)
  rintro next t (hwork | ⟨hqueue, hurc, hrank⟩)
  · exact Prod.Lex.left _ _ hwork
  · have hsame : next.work = t.work := by rw [work, work, hqueue, hurc]
    change Prod.Lex _ _ (next.work, next.place.rank next.urcQ.isEmpty) _
    rw [hsame, hurc]
    exact Prod.Lex.right _ hrank

/-- A step that only moves on. -/
theorem nearer_of_place {t : SmsTask} {place : SmsPlace}
    (h : place.rank t.urcQ.isEmpty < t.place.rank t.urcQ.isEmpty) :
    Nearer { t with place := place } t := Or.inr ⟨rfl, rfl, h⟩

theorem nearer_of_rank {t : SmsTask} {place before : SmsPlace} (hplace : t.place = before)
    (hempty : place.rank true < before.rank true) (hring : place.rank false < before.rank false) :
    Nearer { t with place := place } t := by
  apply nearer_of_place
  rw [hplace]
  cases t.urcQ.isEmpty with
  | true => exact hempty
  | false => exact hring

theorem parkIncoming_work (msg : SmsMessage) (t : SmsTask) :
    (parkIncoming msg t).work ≤ t.work + 1 := by
  unfold parkIncoming boundedPush
  split
  · exact Nat.le_succ _
  · split
    · exact Nat.le_succ _
    · unfold work
      dsimp only
      rw [List.length_append, List.length_singleton]
      omega

/-- A message is taken from the kernel's queue. -/
theorem nearer_of_taken {t next : SmsTask} {msg : SmsMessage} {rest : List SmsMessage}
    (place : SmsPlace) (hqueue : t.tempMsgQueue = msg :: rest)
    (hwork : next.work ≤ ({ t with tempMsgQueue := rest, place := place } : SmsTask).work + 1) :
    Nearer next t := by
  refine Or.inl (Nat.lt_of_le_of_lt hwork ?_)
  unfold work
  rw [hqueue, List.length_cons]
  change 2 * rest.length + t.urcQ.length + 1 < _
  omega

theorem nearer_waitResult {t : SmsTask} (hbusy : ¬ t.Idle) {index : Int}
    (hplace : t.place = .wait index) : Nearer (t.waitResult index).2 t := by
  unfold waitResult
  cases hqueue : t.tempMsgQueue with
  | nil =>
    have hring : t.urcQ.isEmpty = false := by
      rw [List.isEmpty_eq_false_iff]
      exact fun hempty => hbusy ⟨hqueue, hempty⟩
    refine Or.inr ⟨hqueue.symm, rfl, ?_⟩
    rw [hplace, hring]
    exact (show (3 : Nat) < 4 by decide)
  | cons msg rest =>
    dsimp only
    split
    · unfold readResult
      split
      · exact nearer_of_taken t.place hqueue (Nat.le_succ _)
      · split
        · exact nearer_of_taken t.place hqueue (Nat.le_succ _)
        · exact nearer_of_taken t.place hqueue (Nat.le_succ _)
    · exact nearer_of_taken t.place hqueue (parkIncoming_work _ _)

theorem nearer_drain {t : SmsTask} (hbusy : ¬ t.Idle) {msgcount : Nat} {next : SmsNext}
    (hplace : t.place = .drain msgcount next) : Nearer (t.drain msgcount next) t := by
  unfold drain
  cases msgcount with
  | zero =>
    apply nearer_of_place
    rw [hplace]
    exact Nat.lt_succ_self _
  | succ n =>
    cases hqueue : t.tempMsgQueue with
    | nil =>
      have hring : t.urcQ.isEmpty = false := by
        rw [List.isEmpty_eq_false_iff]
        exact fun hempty => hbusy ⟨hqueue, hempty⟩
      refine Or.inr ⟨hqueue.symm, rfl, ?_⟩
      rw [hplace, hring]
      exact Nat.lt_succ_self _
    | cons msg rest => exact nearer_of_taken _ hqueue (parkIncoming_work _ _)

theorem nearer_flush {t : SmsTask} (hbusy : ¬ t.Idle) {env : SmsTaskEnv}
    (hpolled : env.polled = true) {next : SmsNext} (hplace : t.place = .flush next) :
    Nearer (t.smsSendTask env).2 t := by
  unfold smsSendTask
  rw [hplace]
  dsimp only
  cases hqueue : t.tempMsgQueue with
  | nil =>
    have hring : t.urcQ.isEmpty = false := by
      rw [List.isEmpty_eq_false_iff]
      exact fun hempty => hbusy ⟨hqueue, hempty⟩
    rw [if_neg fun hboth => hboth.2 rfl]
    refine Or.inr ⟨hqueue.symm, rfl, ?_⟩
    rw [hplace, hring]
    exact Nat.lt_add_of_pos_right Nat.two_pos
  | cons msg rest =>
    rw [if_pos ⟨hpolled, List.cons_ne_nil _ _⟩]
    refine Or.inr ⟨hqueue.symm, rfl, ?_⟩
    rw [hplace]
    cases t.urcQ.isEmpty with
    | true => exact Nat.one_pos
    | false => exact Nat.lt_succ_self _

theorem nearer_popUrc {t : SmsTask} (hplace : t.place = .after .urc) : Nearer t.popUrc.2 t := by
  unfold popUrc
  cases hurc : t.urcQ with
  | nil =>
    refine Or.inr ⟨rfl, hurc.symm, ?_⟩
    rw [hplace, hurc]
    exact (show (3 : Nat) < 4 by decide)
  | cons urc rest =>
    have hless : 2 * t.tempMsgQueue.length + rest.length < t.work := by
      unfold work
      rw [hurc, List.length_cons]
      omega
    dsimp only
    split
    · unfold processUrc
      split
      · exact Or.inl hless
      · split
        · exact Or.inl hless
        · exact Or.inl hless
    · exact Or.inl hless

theorem nearer_goOn (t : SmsTask) (env : SmsTaskEnv) {next : SmsNext}
    (hplace : t.place = .after next) : Nearer (t.goOn env next).2 t := by
  unfold goOn
  cases next with
  | urc => exact nearer_popUrc hplace
  | setUp =>
    have hflush : Nearer { t with place := .flush .urc } t :=
      nearer_of_rank hplace (by decide) (by decide)
    dsimp only
    split
    · exact hflush
    · rename_i used total hstore
      unfold purgeStore
      split
      · exact hflush
      · split
        · exact nearer_of_rank hplace (Nat.lt_succ_self 2) (Nat.lt_succ_self _)
        · refine nearer_of_rank hplace (show (2 : Nat) < 3 by decide) ?_
          change 4 * (total + 1 - 1) + 3 < 4 * smsPurgeMaxIndex + 4
          omega
  | sweep index deleted used total =>
    refine nearer_of_rank hplace (show (2 : Nat) < 3 by decide) ?_
    change 4 * (total + 1 - (index + 1)) + 3 < 4 * (total - index) + 4
    omega
  | read index =>
    dsimp only
    split
    · exact nearer_of_rank hplace Nat.two_pos (Nat.lt_succ_self 4)
    · exact nearer_of_rank hplace Nat.one_lt_two (show (3 : Nat) < 5 by decide)
  | discard index => exact nearer_of_rank hplace Nat.one_lt_two (Nat.lt_succ_self 3)
  | delete index => exact nearer_of_rank hplace (Nat.lt_succ_self 4) Nat.one_pos
  | send => exact nearer_of_rank hplace (by decide) (by decide)

/-- Every step is nearer to the end of the queues. -/
theorem nearer_smsSendTask (t : SmsTask) {env : SmsTaskEnv} (hpolled : env.polled = true) :
    t.Idle ∨ Nearer (t.smsSendTask env).2 t := by
  by_cases hidle : t.Idle
  · exact Or.inl hidle
  · right
    cases hplace : t.place with
    | flush next => exact nearer_flush hidle hpolled hplace
    | drain msgcount next =>
      unfold smsSendTask
      rw [hplace]
      exact nearer_drain hidle hplace
    | after next =>
      unfold smsSendTask
      rw [hplace]
      exact t.nearer_goOn env hplace
    | wait index =>
      unfold smsSendTask
      rw [hplace]
      exact nearer_waitResult hidle hplace
    | configure =>
      unfold smsSendTask
      rw [hplace]
      dsimp only
      split
      · exact nearer_of_rank hplace (by decide) (by decide)
      · exact nearer_of_rank hplace (by decide) (by decide)
    | purge index deleted used total =>
      unfold smsSendTask
      rw [hplace]
      dsimp only
      split
      · rename_i hloop
        refine nearer_of_rank hplace Nat.one_lt_two ?_
        change 4 * (total - index) + 4 + 2 < 4 * (total + 1 - index) + 3
        omega
      · exact nearer_of_rank hplace Nat.one_lt_two (Nat.lt_add_left _ (Nat.lt_succ_self 2))
    | message =>
      unfold smsSendTask
      rw [hplace]
      dsimp only
      split
      · exact nearer_of_rank hplace (by decide) (by decide)
      · exact nearer_of_rank hplace (by decide) (by decide)

end SmsTask

namespace SmsInbound

/-- Both queues are found empty some time after the kernel's last post. -/
theorem eventually_idle (r : SmsInbound) {envs : Nat → SmsTaskEnv}
    (hpolled : ∀ n, (envs n).polled = true) :
    ∃ n, (machine.run r ((List.range n).map fun k => .task (envs k))).2.task.Idle := by
  have hwf : WellFounded fun next r : SmsInbound => SmsTask.Nearer next.task r.task :=
    InvImage.wf SmsInbound.task SmsTask.nearer_wellFounded
  apply machine.eventually hwf (G := fun r => r.task.Idle)
    (P := fun e => ∃ env : SmsTaskEnv, env.polled = true ∧ e = .task env)
  · rintro r e ⟨env, henv, rfl⟩
    have hnear := r.task.nearer_smsSendTask henv
    rw [← record_task r] at hnear
    exact hnear
  · exact fun n => ⟨envs n, hpolled n, rfl⟩

/-- The task posts nothing. -/
theorem run_task_arrived (r : SmsInbound) (envs : Nat → SmsTaskEnv) (ns : List Nat) :
    (machine.run r (ns.map fun k => .task (envs k))).2.arrived = r.arrived := by
  induction ns generalizing r with
  | nil => rfl
  | cons n ns ih =>
    change (machine.run (r.record (r.task.smsSendTask (envs n))) _).2.arrived = _
    rw [ih, record_arrived]

/-! ## Main result -/

/-- In every run exactly where the ring has room, each notification with an index is handed over
once and in order or still waits; in every run in which no result of an earlier read comes
before the own, a read parses its own; and after the last post of the kernel the task comes to
where everything has been handed over. -/
theorem inbound_delivered (es : List SmsInboundEvent) :
    (machine.Along (fun r e => (machine.step r e).2.Delivered) boot es ↔
      machine.Along Room boot es) ∧
    (machine.Along Timely boot es → (machine.run boot es).2.Own) ∧
    ∀ envs : Nat → SmsTaskEnv, (∀ n, (envs n).polled = true) →
      ∃ n, machine.Along Room boot (es ++ (List.range n).map fun k => .task (envs k)) →
        indexed (machine.run boot (es ++ (List.range n).map fun k => .task (envs k))).2.processed =
          indexed ((machine.run boot es).2.arrived.map SmsMessage.queued) := by
  refine ⟨delivered_iff es, fun htimely => ?_, fun envs hpolled => ?_⟩
  · exact (machine.invariant (fun _ _ h => h.step) reading_boot htimely).own
  · obtain ⟨n, hidle⟩ := eventually_idle (machine.run boot es).2 hpolled
    refine ⟨n, fun hroom => ?_⟩
    have hkept := (machine.invariant (fun _ _ h => h.step) kept_boot hroom).delivered
    rw [machine.run_append_snd] at hkept ⊢
    unfold Delivered at hkept
    rw [hidle.1, hidle.2, run_task_arrived] at hkept
    change indexed (_ ++ []) = _ at hkept
    rw [List.append_nil] at hkept
    exact hkept

/-- The task goes on, with nothing to configure or to send. -/
def tasks (n : Nat) : List SmsInboundEvent :=
  List.replicate n (.task ⟨false, none, true, true, false⟩)

/-- Six notifications come between two flushes. -/
def burst : List SmsInboundEvent :=
  (List.range 6).map (fun k => .incoming 0 (k + 1) none) ++ tasks 8

/-- Two notifications without a text; the result of the first read comes when the time for it
has run out, while the second is waited for. -/
def lateResult : List SmsInboundEvent :=
  .incoming 0 1 none :: tasks 12 ++
    .incoming 0 2 none :: tasks 7 ++ .readResult 0 0 1 (some (asciiBytes "+CMGR: ")) :: tasks 1

/-- The sixth is dropped; and the text of the first message is parsed for the second. -/
theorem burst_lost_and_late_parsed :
    (¬ ∀ es, machine.Along (fun r e => (machine.step r e).2.Delivered) boot es) ∧
      (¬ ∀ es, (machine.run boot es).2.Own) ∧
      (machine.run boot lateResult).2.parsed = [(1, some 0)] := by
  refine ⟨fun hall => ?_, fun hall => ?_, ?_⟩
  · exact absurd (hall burst) (by decide +kernel)
  · exact absurd (hall lateResult) (by decide +kernel)
  · decide +kernel

end SmsInbound

end WalnutGateway
