import WalnutGateway.Sms.Inbound

/-!
# Delivery of inbound SMS

No notification is lost while the ring has room for each that is parked: then those handed over,
those in the ring and those in the kernel's queue are all that arrived, in their order. A read
parses its own result as long as no result of an earlier read comes before it.
-/

namespace WalnutGateway

namespace SmsTask

/-- The notification that the next step parks. -/
def parks (t : SmsTask) : Option SmsMessage :=
  match t.place, t.tempMsgQueue with
  | .drain (_ + 1) _, msg :: _ => if msg.type = .incoming then some msg else none
  | .wait _, msg :: _ => if msg.type = .incoming then some msg else none
  | _, _ => none

/-- The task waits for the result of a read. -/
def waits (t : SmsTask) : Bool :=
  match t.place with
  | .wait _ => true
  | _ => false

/-- The task requests a read next. -/
def reads (t : SmsTask) : Bool :=
  match t.place with
  | .after (.read _) => true
  | _ => false

end SmsTask

/-- What a step of the task does to the queues. -/
inductive SmsStep (env : SmsTaskEnv) (t : SmsTask) : SmsOutput × SmsTask → Prop
  | moves {next} (hparks : t.parks = none) (hqueue : next.tempMsgQueue = t.tempMsgQueue)
    (hurc : next.urcQ = t.urcQ) (hwaits : next.waits = false) : SmsStep env t (.none, next)
  | requests {next} (hparks : t.parks = none) (hreads : t.reads = true)
    (haccepted : env.accepted = true) (hqueue : next.tempMsgQueue = t.tempMsgQueue)
    (hurc : next.urcQ = t.urcQ) : SmsStep env t (.requested, next)
  | parks {msg rest next} (hparks : t.parks = some msg) (hqueue : t.tempMsgQueue = msg :: rest)
    (htype : msg.type = .incoming) (hrest : next.tempMsgQueue = rest)
    (hurc : next.urcQ = (boundedPush smsUrcQCapacity t.urcQ msg.queued).2)
    (hwaits : next.waits = t.waits) : SmsStep env t (.none, next)
  | frees {msg rest next} (hparks : t.parks = none) (hqueue : t.tempMsgQueue = msg :: rest)
    (htype : msg.type ≠ .incoming) (hrest : next.tempMsgQueue = rest) (hurc : next.urcQ = t.urcQ)
    (hwaits : next.waits = true → t.waits = true ∧ msg.type ≠ .readResult) :
    SmsStep env t (.none, next)
  | parses {msg rest next} (hparks : t.parks = none) (hwaits : t.waits = true)
    (hqueue : t.tempMsgQueue = msg :: rest) (hparses : msg.parses = true)
    (hrest : next.tempMsgQueue = rest) (hurc : next.urcQ = t.urcQ)
    (hdone : next.waits = false) : SmsStep env t (.parsed msg, next)
  | pops {urc rest next} (hparks : t.parks = none) (hurc : t.urcQ = urc :: rest)
    (htype : urc.hdr.type = .incoming) (hqueue : next.tempMsgQueue = t.tempMsgQueue)
    (hrest : next.urcQ = rest) (hwaits : next.waits = false) : SmsStep env t (.processed urc, next)
  | skips {urc rest next} (hparks : t.parks = none) (hurc : t.urcQ = urc :: rest)
    (htype : urc.hdr.type ≠ .incoming) (hqueue : next.tempMsgQueue = t.tempMsgQueue)
    (hrest : next.urcQ = rest) (hwaits : next.waits = false) : SmsStep env t (.none, next)

namespace SmsTask

theorem step_parkIncoming {t : SmsTask} (env : SmsTaskEnv) {msg : SmsMessage}
    {rest : List SmsMessage} (place : SmsPlace) (hqueue : t.tempMsgQueue = msg :: rest)
    (hparks : t.parks = if msg.type = .incoming then some msg else none)
    (hread : place = t.place → msg.type ≠ .readResult)
    (hwaits : ({ t with place := place } : SmsTask).waits = t.waits)
    (hsame : t.waits = true → place = t.place) :
    SmsStep env t (.none, parkIncoming msg { t with tempMsgQueue := rest, place := place }) := by
  unfold parkIncoming
  split
  · rename_i htype
    rw [if_neg htype] at hparks
    refine .frees hparks hqueue htype rfl rfl fun hnext => ?_
    have hbefore : t.waits = true := hwaits.symm.trans hnext
    exact ⟨hbefore, hread (hsame hbefore)⟩
  · rename_i htype
    have hincoming := not_not.mp htype
    rw [if_pos hincoming] at hparks
    exact .parks hparks hqueue hincoming rfl rfl hwaits

theorem step_drain (t : SmsTask) (env : SmsTaskEnv) {msgcount : Nat} {next : SmsNext}
    (hplace : t.place = .drain msgcount next) : SmsStep env t (.none, t.drain msgcount next) := by
  have hwaits : t.waits = false := by
    unfold waits
    rw [hplace]
  unfold drain
  cases msgcount with
  | zero =>
    refine .moves ?_ rfl rfl rfl
    unfold parks
    rw [hplace]
  | succ n =>
    cases hqueue : t.tempMsgQueue with
    | nil =>
      refine .moves ?_ hqueue.symm rfl rfl
      unfold parks
      rw [hplace, hqueue]
    | cons msg rest =>
      apply step_parkIncoming env _ hqueue
      · unfold parks
        rw [hplace, hqueue]
      · intro heq
        rw [hplace] at heq
        cases heq
      · exact hwaits.symm
      · intro htrue
        rw [hwaits] at htrue
        contradiction

theorem step_waitResult (t : SmsTask) (env : SmsTaskEnv) {index : Int}
    (hplace : t.place = .wait index) : SmsStep env t (t.waitResult index) := by
  have hwaits : t.waits = true := by
    unfold waits
    rw [hplace]
  unfold waitResult
  cases hqueue : t.tempMsgQueue with
  | nil =>
    refine .moves ?_ hqueue.symm rfl rfl
    unfold parks
    rw [hplace, hqueue]
  | cons msg rest =>
    dsimp only
    have hparks : t.parks = if msg.type = .incoming then some msg else none := by
      unfold parks
      rw [hplace, hqueue]
    split
    · rename_i htype
      have hnot : msg.type ≠ .incoming := by
        rw [htype]
        exact nofun
      rw [if_neg hnot] at hparks
      unfold readResult
      cases htext : msg.text with
      | none => exact .frees hparks hqueue hnot rfl rfl nofun
      | some text =>
        dsimp only
        split
        · rename_i hcmgr
          refine .parses hparks hwaits hqueue ?_ rfl rfl rfl
          unfold SmsMessage.parses
          rw [htype, htext]
          exact hcmgr
        · exact .frees hparks hqueue hnot rfl rfl nofun
    · rename_i htype
      exact step_parkIncoming env t.place hqueue hparks (fun _ => htype) rfl fun _ => rfl

theorem step_goOn (t : SmsTask) (env : SmsTaskEnv) {next : SmsNext}
    (hplace : t.place = .after next) : SmsStep env t (t.goOn env next) := by
  have hparks : t.parks = none := by
    unfold parks
    rw [hplace]
  unfold goOn
  cases next with
  | setUp =>
    dsimp only
    split
    · exact .moves hparks rfl rfl rfl
    · unfold purgeStore
      split
      · exact .moves hparks rfl rfl rfl
      · split
        · exact .moves hparks rfl rfl rfl
        · exact .moves hparks rfl rfl rfl
  | urc =>
    dsimp only
    unfold popUrc
    cases hurc : t.urcQ with
    | nil => exact .moves hparks rfl hurc.symm rfl
    | cons urc rest =>
      have hwaits : t.waits = false := by
        unfold waits
        rw [hplace]
      dsimp only
      split
      · rename_i htype
        unfold processUrc
        split
        · exact .pops hparks hurc htype rfl rfl hwaits
        · split
          · exact .pops hparks hurc htype rfl rfl rfl
          · exact .pops hparks hurc htype rfl rfl rfl
      · rename_i htype
        exact .skips hparks hurc htype rfl rfl hwaits
  | read index =>
    dsimp only
    split
    · rename_i haccepted
      refine .requests hparks ?_ haccepted rfl rfl
      unfold reads
      rw [hplace]
    · exact .moves hparks rfl rfl rfl
  | _ => exact .moves hparks rfl rfl rfl

theorem step_smsSendTask (t : SmsTask) (env : SmsTaskEnv) : SmsStep env t (t.smsSendTask env) := by
  have hparks : (∀ msgcount next, t.place ≠ .drain msgcount next) →
      (∀ index, t.place ≠ .wait index) → t.parks = none := by
    intro hdrain hwait
    unfold parks
    split
    · rename_i hplace _
      exact absurd hplace (hdrain _ _)
    · rename_i hplace _
      exact absurd hplace (hwait _)
    · rfl
  unfold smsSendTask
  cases hplace : t.place with
  | drain msgcount next => exact t.step_drain env hplace
  | wait index => exact t.step_waitResult env hplace
  | after next => exact t.step_goOn env hplace
  | configure =>
    have hnone := hparks (by rw [hplace]; exact nofun) (by rw [hplace]; exact nofun)
    exact .moves hnone rfl rfl rfl
  | flush next =>
    have hnone := hparks (by rw [hplace]; exact nofun) (by rw [hplace]; exact nofun)
    dsimp only
    split
    · exact .moves hnone rfl rfl rfl
    · exact .moves hnone rfl rfl rfl
  | purge index deleted used total =>
    have hnone := hparks (by rw [hplace]; exact nofun) (by rw [hplace]; exact nofun)
    dsimp only
    split
    · exact .moves hnone rfl rfl rfl
    · exact .moves hnone rfl rfl rfl
  | message =>
    have hnone := hparks (by rw [hplace]; exact nofun) (by rw [hplace]; exact nofun)
    dsimp only
    split
    · exact .moves hnone rfl rfl rfl
    · exact .moves hnone rfl rfl rfl

end SmsTask

/-- Only a result is parsed. -/
theorem SmsMessage.ne_incoming_of_parses {msg : SmsMessage} (h : msg.parses = true) :
    msg.type ≠ .incoming := by
  intro htype
  unfold SmsMessage.parses at h
  rw [htype] at h
  contradiction

namespace SmsInbound

/-! ## What is promised -/

/-- The notifications with an index, of those that `sms_process_urc` may get. -/
def indexed (urcs : List SmsUrcQueued) : List SmsUrcQueued :=
  urcs.filter fun urc => 0 < urc.hdr.index

/-- The notifications in the kernel's queue. -/
def waiting (queue : List SmsMessage) : List SmsUrcQueued :=
  (queue.filter fun msg => msg.type = .incoming).map SmsMessage.queued

/-- Every notification with an index was handed over once, in the order of arrival, or waits in
the ring or in the kernel's queue. -/
def Delivered (r : SmsInbound) : Prop :=
  indexed (r.processed ++ (r.task.urcQ ++ waiting r.task.tempMsgQueue)) =
    indexed (r.arrived.map SmsMessage.queued)

instance (r : SmsInbound) : Decidable r.Delivered := inferInstanceAs (Decidable (_ = _))

/-- Every text that was parsed is that of the read's own request. -/
def Own (r : SmsInbound) : Prop := ∀ p ∈ r.parsed, p.2 = some p.1

instance (r : SmsInbound) : Decidable r.Own := inferInstanceAs (Decidable (∀ _ ∈ _, _))

/-- The ring has room for a notification with an index that the step parks. -/
def Room (r : SmsInbound) : SmsInboundEvent → Prop
  | .task _ => ∀ msg ∈ r.task.parks, 0 < msg.index → r.task.urcQ.length < smsUrcQCapacity
  | _ => True

/-- The result of the current request is in the queue. -/
def HasOwn (r : SmsInbound) : Prop :=
  ∃ msg ∈ r.task.tempMsgQueue, msg.type = .readResult ∧ msg.answers = some r.current

/-- No result of an earlier read comes before the own: at a request there is none in the queue,
and while the task waits the kernel posts none before the own. -/
def Timely (r : SmsInbound) : SmsInboundEvent → Prop
  | .task env => r.task.reads = true → env.accepted = true →
    ∀ msg ∈ r.task.tempMsgQueue, msg.parses = false
  | .readResult request _ _ text => r.task.waits = true → request ∈ r.unanswered →
    text.any hasCmgr = true → request = r.current ∨ r.HasOwn
  | _ => True

@[simp] theorem record_task (r : SmsInbound) (output : SmsOutput × SmsTask) :
    (r.record output).task = output.2 := by
  obtain ⟨output, task⟩ := output
  cases output with
  | none => rfl
  | processed urc => rfl
  | requested => rfl
  | parsed msg => rfl

@[simp] theorem record_arrived (r : SmsInbound) (output : SmsOutput × SmsTask) :
    (r.record output).arrived = r.arrived := by
  obtain ⟨output, task⟩ := output
  cases output with
  | none => rfl
  | processed urc => rfl
  | requested => rfl
  | parsed msg => rfl

/-! ## Delivery -/

theorem indexed_append (as bs : List SmsUrcQueued) :
    indexed (as ++ bs) = indexed as ++ indexed bs := List.filter_append ..

theorem waiting_append (as bs : List SmsMessage) :
    waiting (as ++ bs) = waiting as ++ waiting bs := by
  unfold waiting
  rw [List.filter_append, List.map_append]

theorem waiting_incoming {msg : SmsMessage} (h : msg.type = .incoming) (rest : List SmsMessage) :
    waiting (msg :: rest) = msg.queued :: waiting rest := by
  unfold waiting
  rw [List.filter_cons_of_pos (by simpa using h), List.map_cons]

theorem waiting_other {msg : SmsMessage} (h : msg.type ≠ .incoming) (rest : List SmsMessage) :
    waiting (msg :: rest) = waiting rest := by
  unfold waiting
  rw [List.filter_cons_of_neg (by simpa using h)]

/-- The ring holds notifications only, and none is lost. -/
structure Kept (r : SmsInbound) : Prop where
  incoming : ∀ urc ∈ r.task.urcQ, urc.hdr.type = .incoming
  delivered : r.Delivered

theorem Kept.post {r : SmsInbound} (h : r.Kept) (msg : SmsMessage) : (r.post msg).Kept := by
  unfold SmsInbound.post
  split
  · exact h
  · refine ⟨h.incoming, ?_⟩
    have hdelivered := h.delivered
    unfold Delivered at hdelivered ⊢
    dsimp only
    rw [waiting_append, ← List.append_assoc, ← List.append_assoc, indexed_append, List.append_assoc,
      hdelivered]
    split
    · rename_i htype
      rw [waiting_incoming htype, List.map_append, indexed_append]
      rfl
    · rename_i htype
      rw [waiting_other htype]
      exact List.append_nil _

/-- A push of a notification loses it exactly if it has an index and the ring is full. -/
theorem indexed_boundedPush (urcQ : List SmsUrcQueued) (msg : SmsMessage) :
    indexed (boundedPush smsUrcQCapacity urcQ msg.queued).2 = indexed (urcQ ++ [msg.queued]) ↔
      (0 < msg.index → urcQ.length < smsUrcQCapacity) := by
  unfold boundedPush
  rw [indexed_append]
  split
  · rename_i hfull
    constructor
    · intro heq hindex
      have hone : indexed [msg.queued] = [msg.queued] :=
        List.filter_cons_of_pos (decide_eq_true hindex)
      have hlength := congrArg List.length heq
      rw [hone, List.length_append, List.length_singleton] at hlength
      exact absurd hlength (Nat.ne_of_lt (Nat.lt_succ_self _))
    · intro hroom
      have hzero : indexed [msg.queued] = [] := by
        refine List.filter_cons_of_neg fun hindex => ?_
        exact absurd (hroom (of_decide_eq_true hindex)) (not_lt.mpr hfull)
      rw [hzero, List.append_nil]
  · rename_i hroom
    rw [indexed_append]
    exact iff_of_true rfl fun _ => not_le.mp hroom

/-- A step of the task keeps what it has exactly where there is room. -/
theorem Kept.task {r : SmsInbound} (h : r.Kept) {env : SmsTaskEnv} {output : SmsOutput × SmsTask}
    (hstep : SmsStep env r.task output) : (r.record output).Delivered ↔ r.Room (.task env) := by
  have hdelivered := h.delivered
  have hnone : r.task.parks = none → r.Room (.task env) := by
    intro hparks msg hmsg
    rw [hparks] at hmsg
    contradiction
  unfold Delivered at hdelivered
  cases hstep with
  | moves hparks hqueue hurc =>
    refine iff_of_true ?_ (hnone hparks)
    unfold Delivered record
    rw [hqueue, hurc]
    exact hdelivered
  | requests hparks hreads haccepted hqueue hurc =>
    refine iff_of_true ?_ (hnone hparks)
    unfold Delivered record
    rw [hqueue, hurc]
    exact hdelivered
  | @parks msg rest next hparks hqueue htype hrest hurc =>
    rw [hqueue, waiting_incoming htype, List.append_cons, ← List.append_assoc] at hdelivered
    have hroom : r.Room (.task env) ↔ (0 < msg.index → r.task.urcQ.length < smsUrcQCapacity) := by
      unfold Room
      rw [hparks]
      constructor
      · exact fun hall => hall msg rfl
      · rintro hone _ ⟨⟩
        exact hone
    rw [hroom, ← indexed_boundedPush]
    unfold Delivered record
    rw [hrest, hurc, ← hdelivered]
    simp only [indexed_append, List.append_assoc]
    rw [List.append_cancel_left_eq]
    constructor
    · intro heq
      rw [← List.append_assoc] at heq
      exact List.append_cancel_right heq
    · intro heq
      rw [heq, List.append_assoc]
  | frees hparks hqueue htype hrest hurc =>
    refine iff_of_true ?_ (hnone hparks)
    rw [hqueue, waiting_other htype] at hdelivered
    unfold Delivered record
    rw [hrest, hurc]
    exact hdelivered
  | parses hparks hwaits hqueue hparses hrest hurc =>
    refine iff_of_true ?_ (hnone hparks)
    have htype : _ ≠ SmsEventType.incoming := SmsMessage.ne_incoming_of_parses hparses
    rw [hqueue, waiting_other htype] at hdelivered
    unfold Delivered record
    rw [hrest, hurc]
    exact hdelivered
  | pops hparks hurc htype hqueue hrest =>
    refine iff_of_true ?_ (hnone hparks)
    rw [hurc] at hdelivered
    unfold Delivered record
    rw [hrest, hqueue, List.append_assoc]
    exact hdelivered
  | skips hparks hurc htype =>
    refine absurd (h.incoming _ ?_) htype
    rw [hurc]
    exact List.mem_cons_self

theorem boundedPush_incoming {urcQ : List SmsUrcQueued}
    (h : ∀ urc ∈ urcQ, urc.hdr.type = .incoming) {msg : SmsMessage} (htype : msg.type = .incoming) :
    ∀ urc ∈ (boundedPush smsUrcQCapacity urcQ msg.queued).2, urc.hdr.type = .incoming := by
  unfold boundedPush
  split
  · exact h
  · intro urc hurc
    rcases List.mem_append.mp hurc with hurc | hurc
    · exact h urc hurc
    · rw [List.mem_singleton.mp hurc]
      exact htype

theorem Kept.incoming_task {r : SmsInbound} (h : r.Kept) {env : SmsTaskEnv}
    {output : SmsOutput × SmsTask} (hstep : SmsStep env r.task output) :
    ∀ urc ∈ (r.record output).task.urcQ, urc.hdr.type = .incoming := by
  have hincoming := h.incoming
  unfold record
  cases hstep with
  | moves _ _ hurc =>
    rw [hurc]
    exact hincoming
  | requests _ _ _ _ hurc =>
    rw [hurc]
    exact hincoming
  | parks _ _ htype _ hurc =>
    rw [hurc]
    exact boundedPush_incoming hincoming htype
  | frees _ _ _ _ hurc =>
    rw [hurc]
    exact hincoming
  | parses _ _ _ _ _ hurc =>
    rw [hurc]
    exact hincoming
  | pops _ hurc _ _ hrest =>
    rw [hrest]
    rw [hurc] at hincoming
    exact fun urc hmem => hincoming urc (List.mem_cons_of_mem _ hmem)
  | skips _ hurc _ _ hrest =>
    rw [hrest]
    rw [hurc] at hincoming
    exact fun urc hmem => hincoming urc (List.mem_cons_of_mem _ hmem)

theorem Kept.answered {r : SmsInbound} (h : r.Kept) (request : Nat) :
    ({ r with unanswered := r.unanswered.erase request } : SmsInbound).Kept :=
  ⟨h.incoming, h.delivered⟩

/-- A step keeps the promise exactly where there is room. -/
theorem Kept.delivered_iff {r : SmsInbound} (h : r.Kept) (e : SmsInboundEvent) :
    (machine.step r e).2.Delivered ↔ r.Room e := by
  cases e with
  | task env => exact h.task (r.task.step_smsSendTask env)
  | incoming status index text => exact iff_of_true (h.post _).delivered trivial
  | deleteResult status index => exact iff_of_true (h.post _).delivered trivial
  | readResult request status index text =>
    refine iff_of_true ?_ trivial
    change (if request ∈ r.unanswered then _ else r).Delivered
    split
    · exact ((h.answered request).post _).delivered
    · exact h.delivered

theorem Kept.step {r : SmsInbound} (h : r.Kept) {e : SmsInboundEvent} (hroom : r.Room e) :
    (machine.step r e).2.Kept := by
  refine ⟨?_, (h.delivered_iff e).mpr hroom⟩
  cases e with
  | task env => exact h.incoming_task (r.task.step_smsSendTask env)
  | incoming status index text => exact (h.post _).incoming
  | deleteResult status index => exact (h.post _).incoming
  | readResult request status index text =>
    change ∀ urc ∈ (if request ∈ r.unanswered then _ else r).task.urcQ, _
    split
    · exact ((h.answered request).post _).incoming
    · exact h.incoming

theorem kept_boot : boot.Kept := ⟨(fun _ hmem => nomatch hmem), rfl⟩

theorem delivered_iff (es : List SmsInboundEvent) :
    machine.Along (fun r e => (machine.step r e).2.Delivered) boot es ↔
      machine.Along Room boot es :=
  machine.along_congr (fun _ _ h hroom => h.step hroom) (fun _ e h => h.delivered_iff e) kept_boot

/-! ## Reads -/

/-- No other result is parsed before the own one. -/
def Guarded (current : Nat) : List SmsMessage → Prop
  | [] => True
  | msg :: rest => (msg.parses = true → msg.answers = some current) ∧
    (¬ (msg.type = .readResult ∧ msg.answers = some current) → Guarded current rest)

theorem guarded_of_parses {current : Nat} {queue : List SmsMessage}
    (h : ∀ msg ∈ queue, msg.parses = false) : Guarded current queue := by
  induction queue with
  | nil => trivial
  | cons msg rest ih =>
    refine ⟨fun hparses => ?_, fun _ => ih fun other hmem => h other (List.mem_cons_of_mem _ hmem)⟩
    rw [h msg List.mem_cons_self] at hparses
    contradiction

theorem Guarded.tail {current : Nat} {msg : SmsMessage} {rest : List SmsMessage}
    (h : Guarded current (msg :: rest)) (htype : msg.type ≠ .readResult) : Guarded current rest :=
  h.2 fun hown => htype hown.1

theorem Guarded.concat {current : Nat} {queue : List SmsMessage} (h : Guarded current queue)
    {msg : SmsMessage} (hmsg : msg.parses = true → msg.answers = some current ∨
      ∃ own ∈ queue, own.type = .readResult ∧ own.answers = some current) :
    Guarded current (queue ++ [msg]) := by
  induction queue with
  | nil =>
    refine ⟨fun hparses => ?_, fun _ => trivial⟩
    rcases hmsg hparses with hown | ⟨own, hmem, -⟩
    · exact hown
    · contradiction
  | cons first rest ih =>
    refine ⟨h.1, fun hnot => ih (h.2 hnot) fun hparses => ?_⟩
    rcases hmsg hparses with hown | ⟨own, hmem, hown⟩
    · exact Or.inl hown
    · rcases List.mem_cons.mp hmem with rfl | hmem
      · exact absurd hown hnot
      · exact Or.inr ⟨own, hmem, hown⟩

/-- While the task waits, its own result is the first that it can parse. -/
structure Reading (r : SmsInbound) : Prop where
  guarded : r.task.waits = true → Guarded r.current r.task.tempMsgQueue
  own : r.Own

theorem Reading.post {r : SmsInbound} (h : r.Reading) {msg : SmsMessage}
    (hmsg : r.task.waits = true → msg.parses = true →
      msg.answers = some r.current ∨ r.HasOwn) : (r.post msg).Reading := by
  unfold SmsInbound.post
  split
  · exact h
  · exact ⟨fun hwaits => (h.guarded hwaits).concat (hmsg hwaits), h.own⟩

theorem Reading.task {r : SmsInbound} (h : r.Reading) {env : SmsTaskEnv}
    (htimely : r.Timely (.task env)) {output : SmsOutput × SmsTask}
    (hstep : SmsStep env r.task output) : (r.record output).Reading := by
  cases hstep with
  | moves _ _ _ hwaits =>
    refine ⟨fun hnext => ?_, h.own⟩
    rw [record_task, hwaits] at hnext
    contradiction
  | requests _ hreads haccepted hqueue =>
    refine ⟨fun _ => ?_, h.own⟩
    change Guarded r.requests _
    apply guarded_of_parses
    rw [record_task, hqueue]
    exact htimely hreads haccepted
  | parks _ hqueue htype hrest _ hwaits =>
    refine ⟨fun hnext => ?_, h.own⟩
    have hguarded := h.guarded (hwaits.symm.trans hnext)
    rw [hqueue] at hguarded
    change Guarded r.current _
    rw [record_task, hrest]
    apply hguarded.tail
    rw [htype]
    exact nofun
  | frees _ hqueue _ hrest _ hwaits =>
    refine ⟨fun hnext => ?_, h.own⟩
    obtain ⟨hbefore, htype⟩ := hwaits hnext
    have hguarded := h.guarded hbefore
    rw [hqueue] at hguarded
    change Guarded r.current _
    rw [record_task, hrest]
    exact hguarded.tail htype
  | parses _ hwaits hqueue hparses _ _ hdone =>
    refine ⟨fun hnext => ?_, fun p hp => ?_⟩
    · rw [record_task, hdone] at hnext
      contradiction
    · rcases List.mem_append.mp hp with hp | hp
      · exact h.own p hp
      · rw [List.mem_singleton.mp hp]
        have hguarded := h.guarded hwaits
        rw [hqueue] at hguarded
        exact hguarded.1 hparses
  | pops _ _ _ _ _ hwaits =>
    refine ⟨fun hnext => ?_, h.own⟩
    rw [record_task, hwaits] at hnext
    contradiction
  | skips _ _ _ _ _ hwaits =>
    refine ⟨fun hnext => ?_, h.own⟩
    rw [record_task, hwaits] at hnext
    contradiction

theorem Reading.step {r : SmsInbound} (h : r.Reading) {e : SmsInboundEvent} (htimely : r.Timely e) :
    (machine.step r e).2.Reading := by
  cases e with
  | task env => exact h.task htimely (r.task.step_smsSendTask env)
  | incoming status index text => exact h.post fun _ hparses => nomatch hparses
  | deleteResult status index => exact h.post fun _ hparses => nomatch hparses
  | readResult request status index text =>
    change (if request ∈ r.unanswered then _ else r).Reading
    split
    · rename_i hmem
      have hanswered : ({ r with unanswered := r.unanswered.erase request } : SmsInbound).Reading :=
        ⟨h.guarded, h.own⟩
      apply hanswered.post
      intro hwaits hparses
      have hcmgr : text.any hasCmgr = true := by
        cases htext : text with
        | none =>
          rw [htext] at hparses
          contradiction
        | some bytes =>
          rw [htext] at hparses
          exact hparses
      rcases htimely hwaits hmem hcmgr with rfl | hown
      · exact Or.inl rfl
      · exact Or.inr hown
    · exact h

theorem reading_boot : boot.Reading := ⟨nofun, (fun _ hp => nomatch hp)⟩

end SmsInbound

end WalnutGateway
