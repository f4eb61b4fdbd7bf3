import WalnutGateway.Ota.Https

/-!
# The event of an action

A call takes the first event of its session for that of its own action. The event of an action
that was given up is still to come, and the next call takes it.
-/

namespace WalnutGateway

/-- What a step is to the events. -/
inductive HttpsStepKind
  /-- The kernel accepts the action. -/
  | accepted
  /-- The call takes an event from the queue. -/
  | taken (ev : HttpsEvent)
  | other
  deriving DecidableEq

/-- The kind of a step. -/
def httpsStepKind (h : Https) (i : HttpsInput) : HttpsStepKind :=
  match i with
  | .task env =>
    match h.pc, h.queue with
    | .action, _ => if env.accepted then .accepted else .other
    | .recv _ _, ev :: _ => .taken ev
    | _, _ => .other
  | _ => .other

/-- The adapter with the events of the run. -/
structure HttpsRun where
  https : Https
  /-- The action of the call. -/
  current : Nat
  /-- How many events in the queue are older than that action. -/
  stale : Nat
  /-- The call has taken the event of its own action, with success and a 2xx code. -/
  own : Bool

/-- The adapter, step by step, with its events. -/
def httpsRunMachine : Machine HttpsRun HttpsInput HttpsOutput where
  step r i :=
    let next := httpsMachine.step r.https i
    (next.1,
      match httpsStepKind r.https i with
      | .accepted => ⟨next.2, r.https.nextAction, r.https.queue.length, false⟩
      | .taken ev =>
        ⟨next.2, r.current, r.stale - 1,
          r.own || (ev.ends && ev.good && (ev.action = some r.current))⟩
      | .other => { r with https := next.2 })

/-! ## What a step does -/

/-- How far a call is. -/
inductive HttpsPhase
  | resting
  | configuring
  | waiting
  | reading
  deriving DecidableEq

/-- The phase of a place. -/
def HttpsPc.phase : HttpsPc → HttpsPhase
  | .idle | .init => .resting
  | .configureSsl | .setParams | .setHeader | .setContentType | .setData | .action => .configuring
  | .wait _ | .recv _ _ => .waiting
  | .read | .finish => .reading

/-- The call returns 1. -/
def HttpsOutput.isDone : HttpsOutput → Bool
  | .done _ _ => true
  | _ => false

/-- What a step of a kind does to the call and the queue. -/
inductive HttpsStep (h : Https) : HttpsStepKind → HttpsOutput × Https → Prop
  | accepted {output next} (hpc : h.pc = .action) (hphase : next.pc.phase = .waiting)
    (hqueue : next.queue = h.queue) (hflight : next.inFlight = some h.nextAction)
    (hnumber : next.nextAction = h.nextAction + 1) (hdone : output.isDone = false) :
    HttpsStep h .accepted (output, next)
  | reads {ev queue output} (hphase : h.pc.phase = .waiting) (hqueue : h.queue = ev :: queue)
    (hends : ev.ends = true) (hgood : ev.good = true) (hdone : output.isDone = false) :
    HttpsStep h (.taken ev) (output, { h with queue := queue, pc := .read })
  | drops {ev queue output next} (hphase : h.pc.phase = .waiting) (hqueue : h.queue = ev :: queue)
    (hbad : ev.ends = true → ev.good = false)
    (hpc : next.pc.phase = .resting ∨ next.pc.phase = .waiting) (hrest : next.queue = queue)
    (hflight : next.inFlight = h.inFlight) (hnumber : next.nextAction = h.nextAction)
    (hdone : output.isDone = false) : HttpsStep h (.taken ev) (output, next)
  | moves {output next} (hpc : next.pc.phase = h.pc.phase ∨ next.pc.phase = .resting ∨
      (next.pc.phase = .configuring ∧ h.inFlight = none))
    (hqueue : next.queue = h.queue) (hflight : next.inFlight = h.inFlight)
    (hnumber : next.nextAction = h.nextAction)
    (hdone : output.isDone = true → h.pc.phase = .reading) : HttpsStep h .other (output, next)
  | completes {n ev output} (hflight : h.inFlight = some n) (haction : ev.action = some n)
    (hdone : output.isDone = false) :
    HttpsStep h .other (output, { h with inFlight := none, queue := h.queue ++ [ev] })
  | posts {ev output} (hends : ev.ends = false) (haction : ev.action = none)
    (hdone : output.isDone = false) :
    HttpsStep h .other (output, { h with queue := h.queue ++ [ev] })

theorem HttpsStep.of_requestAbort (h : Https) : HttpsStep h .other h.requestAbort :=
  .moves (Or.inr (Or.inl rfl)) rfl rfl rfl (fun hdone => nomatch hdone)

theorem HttpsStep.of_mustAccept (h : Https) (env : HttpsEnv) {next : HttpsPc}
    (hphase : next.phase = h.pc.phase) : HttpsStep h .other (h.mustAccept env next) := by
  unfold Https.mustAccept
  split
  · exact .moves (Or.inl hphase) rfl rfl rfl (fun hdone => nomatch hdone)
  · exact .of_requestAbort h

theorem httpsStep_recv (h : Https) (env : HttpsEnv) {waitedMs : UInt32} {since : Nat}
    (hpc : h.pc = .recv waitedMs since) :
    HttpsStep h (httpsStepKind h (.task env)) (h.recv waitedMs since) := by
  have hphase : h.pc.phase = .waiting := by rw [hpc]; rfl
  unfold Https.recv httpsStepKind
  rw [hpc]
  cases hqueue : h.queue with
  | nil =>
    dsimp only
    split
    · exact .of_requestAbort h
    · exact .moves (Or.inl rfl) rfl rfl rfl (fun hdone => nomatch hdone)
  | cons ev queue =>
    dsimp only
    split
    · rename_i hends
      split
      · rename_i hgood
        exact .reads hphase hqueue hends hgood rfl
      · rename_i hbad
        exact .drops hphase hqueue (fun _ => by simpa using hbad) (Or.inl rfl) rfl rfl rfl rfl
    · rename_i hends
      exact .drops hphase hqueue (fun heq => absurd heq hends) (Or.inr rfl) rfl rfl rfl rfl

theorem httpsStepKind_of_ne {h : Https} (env : HttpsEnv) (haction : h.pc ≠ .action)
    (hrecv : ∀ waitedMs since, h.pc ≠ .recv waitedMs since) :
    httpsStepKind h (.task env) = .other := by
  unfold httpsStepKind
  cases hpc : h.pc with
  | action => exact absurd hpc haction
  | recv waitedMs since => exact absurd hpc (hrecv waitedMs since)
  | _ => rfl

/-- A step outside the action and the queue. -/
theorem httpsStep_quiet (h : Https) (env : HttpsEnv) (haction : h.pc ≠ .action)
    (hrecv : ∀ waitedMs since, h.pc ≠ .recv waitedMs since) :
    HttpsStep h .other (h.requestImpl env) := by
  unfold Https.requestImpl
  cases hpc : h.pc with
  | action => exact absurd hpc haction
  | recv waitedMs since => exact absurd hpc (hrecv waitedMs since)
  | idle => exact .moves (Or.inl rfl) rfl rfl rfl (fun hdone => nomatch hdone)
  | init =>
    dsimp only
    unfold Https.clientInitAsync
    split
    · exact .moves (Or.inr (Or.inl rfl)) rfl rfl rfl (fun hdone => nomatch hdone)
    · dsimp only
      split
      · rename_i hready
        simp only [decide_eq_true_eq] at hready
        exact .moves (Or.inr (Or.inr ⟨rfl, hready.2⟩)) rfl rfl rfl (fun hdone => nomatch hdone)
      · exact .moves (Or.inr (Or.inl rfl)) rfl rfl rfl (fun hdone => nomatch hdone)
  | configureSsl => exact .of_mustAccept h env (by rw [hpc]; rfl)
  | setParams => exact .of_mustAccept h env (by rw [hpc]; rfl)
  | setHeader =>
    apply HttpsStep.of_mustAccept h env
    rw [hpc]
    split
    · rfl
    · rfl
  | setContentType =>
    exact .moves (Or.inl (by rw [hpc]; rfl)) rfl rfl rfl (fun hdone => nomatch hdone)
  | setData => exact .of_mustAccept h env (by rw [hpc]; rfl)
  | wait waitedMs =>
    dsimp only
    split
    · exact .moves (Or.inl (by rw [hpc]; rfl)) rfl rfl rfl (fun hdone => nomatch hdone)
    · exact .of_requestAbort h
  | read =>
    dsimp only
    unfold Https.read
    have hphase : h.pc.phase = .reading := by rw [hpc]; rfl
    split
    · split
      · exact .moves (Or.inr (Or.inl rfl)) rfl rfl rfl (fun hdone => nomatch hdone)
      · dsimp only
        split
        · exact .moves (Or.inl hphase.symm) rfl rfl rfl (fun hdone => nomatch hdone)
        · exact .moves (Or.inl rfl) rfl rfl rfl (fun hdone => nomatch hdone)
    · exact .moves (Or.inl hphase.symm) rfl rfl rfl (fun hdone => nomatch hdone)
  | finish => exact .moves (Or.inr (Or.inl rfl)) rfl rfl rfl (fun _ => by rw [hpc]; rfl)

theorem httpsStep_requestImpl (h : Https) (env : HttpsEnv) :
    HttpsStep h (httpsStepKind h (.task env)) (h.requestImpl env) := by
  by_cases haction : h.pc = .action
  · unfold Https.requestImpl httpsStepKind
    rw [haction]
    dsimp only
    unfold Https.action
    split
    · exact .accepted haction rfl rfl rfl rfl rfl
    · exact .moves (Or.inr (Or.inl rfl)) rfl rfl rfl (fun hdone => nomatch hdone)
  · by_cases hrecv : ∃ waitedMs since, h.pc = .recv waitedMs since
    · obtain ⟨waitedMs, since, hpc⟩ := hrecv
      unfold Https.requestImpl
      rw [hpc]
      exact httpsStep_recv h env hpc
    · have hother : ∀ waitedMs since, h.pc ≠ .recv waitedMs since :=
        fun waitedMs since hpc => hrecv ⟨waitedMs, since, hpc⟩
      rw [httpsStepKind_of_ne env haction hother]
      exact httpsStep_quiet h env haction hother

theorem httpsStep (h : Https) (i : HttpsInput) :
    HttpsStep h (httpsStepKind h i) (httpsMachine.step h i) := by
  cases i with
  | task env => exact httpsStep_requestImpl h env
  | call request =>
    change HttpsStep h .other (if h.pc = .idle then h.start request else (.none, h))
    split
    · unfold Https.start
      split
      · exact .moves (Or.inl rfl) rfl rfl rfl (fun hdone => nomatch hdone)
      · split
        · exact .moves (Or.inl rfl) rfl rfl rfl (fun hdone => nomatch hdone)
        · split
          · exact .moves (Or.inl rfl) rfl rfl rfl (fun hdone => nomatch hdone)
          · exact .moves (Or.inr (Or.inl rfl)) rfl rfl rfl (fun hdone => nomatch hdone)
    · exact .moves (Or.inl rfl) rfl rfl rfl (fun hdone => nomatch hdone)
  | complete success httpCode =>
    change HttpsStep h .other (.none, h.complete success httpCode)
    unfold Https.complete
    split
    · rename_i n hflight
      exact .completes hflight rfl rfl
    · exact .moves (Or.inl rfl) rfl rfl rfl (fun hdone => nomatch hdone)
  | post type sslIndex success httpCode =>
    change HttpsStep h .other (.none, h.post _)
    unfold Https.post
    split
    · exact .moves (Or.inl rfl) rfl rfl rfl (fun hdone => nomatch hdone)
    · rename_i hends
      exact .posts (by simpa using hends) rfl rfl
  | wait ms => exact .moves (Or.inl rfl) rfl rfl rfl (fun hdone => nomatch hdone)

/-! ## Whose event a call takes -/

namespace HttpsRun

/-- Before the first call. -/
def boot : HttpsRun := ⟨.boot, 0, 0, false⟩

/-- The queue is made of events that are older than the action of the call, and of events that
came after it. -/
def Splits (current stale : Nat) (queue : List HttpsEvent) : Prop :=
  ∃ old new, queue = old ++ new ∧ old.length = stale ∧
    (∀ ev ∈ old, ev.action ≠ some current) ∧
    ∀ ev ∈ new, ev.ends = true → ev.action = some current

/-- What a call knows of its event. -/
structure Sound (r : HttpsRun) : Prop where
  flight : ∀ n, r.https.inFlight = some n → n < r.https.nextAction
  posted : ∀ ev ∈ r.https.queue, ∀ n, ev.action = some n → n < r.https.nextAction
  configuring : r.https.pc.phase = .configuring → r.https.inFlight = none
  running : r.https.pc.phase = .waiting → ∀ n, r.https.inFlight = some n → n = r.current
  waiting : r.https.pc.phase = .waiting →
    Splits r.current r.stale r.https.queue ∧ r.own = false
  reading : r.https.pc.phase = .reading → r.own = true

/-- The call reads the body, and returns 1, only when it has taken the event of its own action,
with success and a 2xx code. -/
def Answered (r : HttpsRun) (i : HttpsInput) : Prop :=
  ((httpsRunMachine.step r i).2.https.pc = .read → (httpsRunMachine.step r i).2.own = true) ∧
    ((httpsRunMachine.step r i).1.isDone = true → r.own = true)

/-- When the call takes an event that it goes on with, no event that is older than its action
is left in the queue. -/
def Fresh (r : HttpsRun) (i : HttpsInput) : Prop :=
  match httpsStepKind r.https i with
  | .taken ev => ev.ends = true → ev.good = true → r.stale = 0
  | _ => True

variable {r : HttpsRun}

theorem Splits.of_cons {current stale : Nat} {ev : HttpsEvent} {queue : List HttpsEvent}
    (h : Splits current stale (ev :: queue)) :
    (stale = 0 → ev.ends = true → ev.action = some current) ∧
    (stale ≠ 0 → ev.action ≠ some current) ∧ Splits current (stale - 1) queue := by
  obtain ⟨old, new, hsplit, hlength, hold, hnew⟩ := h
  cases old with
  | nil =>
    rw [List.nil_append] at hsplit
    subst hsplit
    have hstale : stale = 0 := hlength.symm
    refine ⟨fun _ => hnew ev List.mem_cons_self, fun hne => absurd hstale hne, [], queue, rfl, ?_,
      ?_, fun ev hmem => hnew ev (List.mem_cons_of_mem _ hmem)⟩
    · rw [hstale]
      rfl
    · exact fun _ hmem => nomatch hmem
  | cons first old =>
    rw [List.cons_append, List.cons.injEq] at hsplit
    obtain ⟨rfl, rfl⟩ := hsplit
    rw [List.length_cons] at hlength
    refine ⟨fun hzero => ?_, fun _ => hold ev List.mem_cons_self, old, new, rfl, ?_,
      fun ev hmem => hold ev (List.mem_cons_of_mem _ hmem), hnew⟩
    · omega
    · omega

/-- An event that is posted comes after the action, and is its own if it ends the wait. -/
theorem Splits.concat {current stale : Nat} {queue : List HttpsEvent}
    (h : Splits current stale queue) {ev : HttpsEvent}
    (hev : ev.ends = true → ev.action = some current) :
    Splits current stale (queue ++ [ev]) := by
  obtain ⟨old, new, rfl, hlength, hold, hnew⟩ := h
  refine ⟨old, new ++ [ev], List.append_assoc .., hlength, hold, ?_⟩
  intro ev' hmem
  rcases List.mem_append.mp hmem with hmem | hmem
  · exact hnew ev' hmem
  · cases List.mem_singleton.mp hmem
    exact hev

/-- An event that the call goes on with is its own if and only if none is older. -/
theorem Sound.own_iff (h : r.Sound) {ev : HttpsEvent} {queue : List HttpsEvent}
    (hphase : r.https.pc.phase = .waiting) (hqueue : r.https.queue = ev :: queue)
    (hends : ev.ends = true) (hgood : ev.good = true) :
    (r.own || (ev.ends && ev.good && (ev.action = some r.current))) = true ↔ r.stale = 0 := by
  obtain ⟨hsplits, hown⟩ := h.waiting hphase
  rw [hqueue] at hsplits
  obtain ⟨hfirst, hstale, -⟩ := hsplits.of_cons
  rw [hown, hends, hgood, Bool.false_or, Bool.true_and, Bool.true_and, decide_eq_true_iff]
  constructor
  · intro haction
    by_contra hne
    exact hstale hne haction
  · exact fun hzero => hfirst hzero hends

theorem Sound.step (h : r.Sound) {i : HttpsInput} (hfresh : r.Fresh i) :
    (httpsRunMachine.step r i).2.Sound := by
  have hstep := httpsStep r.https i
  unfold Fresh at hfresh
  simp only [httpsRunMachine]
  generalize httpsMachine.step r.https i = next at hstep
  generalize httpsStepKind r.https i = kind at hstep hfresh
  cases hstep with
  | @accepted output next hpc hphase hqueue hflight hnumber hdone =>
    refine ⟨?_, ?_, ?_, ?_, ?_, ?_⟩
    · intro n hn
      dsimp only at hn ⊢
      rw [hflight] at hn
      cases hn
      rw [hnumber]
      exact Nat.lt_succ_self _
    · intro ev hmem n hn
      dsimp only at hmem ⊢
      rw [hqueue] at hmem
      rw [hnumber]
      exact (h.posted ev hmem n hn).trans (Nat.lt_succ_self _)
    · intro hconfiguring
      rw [hphase] at hconfiguring
      contradiction
    · intro _ n hn
      dsimp only at hn ⊢
      rw [hflight] at hn
      exact (Option.some.inj hn).symm
    · refine fun _ => ⟨⟨r.https.queue, [], ?_, rfl, ?_, ?_⟩, rfl⟩
      · rw [List.append_nil]
        exact hqueue
      · intro ev hmem haction
        exact (h.posted ev hmem _ haction).ne rfl
      · exact fun _ hmem => nomatch hmem
    · intro hreading
      rw [hphase] at hreading
      contradiction
  | @reads ev queue output hphase hqueue hends hgood hdone =>
    refine ⟨h.flight, ?_, (fun heq => nomatch heq), (fun heq => nomatch heq),
      (fun heq => nomatch heq), ?_⟩
    · intro ev' hmem
      exact h.posted ev' (hqueue ▸ List.mem_cons_of_mem _ hmem)
    · exact fun _ => (h.own_iff hphase hqueue hends hgood).mpr (hfresh hends hgood)
  | @drops ev queue output next hphase hqueue hbad hpc hrest hflight hnumber hdone =>
    obtain ⟨hsplits, hown⟩ := h.waiting hphase
    rw [hqueue] at hsplits
    have hnot : (ev.ends && ev.good && decide (ev.action = some r.current)) = false := by
      cases hends : ev.ends with
      | false => rfl
      | true => rw [hbad hends]; rfl
    refine ⟨?_, ?_, ?_, ?_, ?_, ?_⟩
    · intro n hn
      rw [hnumber]
      exact h.flight n (hflight.symm.trans hn)
    · intro ev' hmem
      dsimp only at hmem
      rw [hrest] at hmem
      rw [hnumber]
      exact h.posted ev' (hqueue ▸ List.mem_cons_of_mem _ hmem)
    · intro hconfiguring
      rcases hpc with hpc | hpc
      · rw [hpc] at hconfiguring
        contradiction
      · rw [hpc] at hconfiguring
        contradiction
    · exact fun _ n hn => h.running hphase n (hflight.symm.trans hn)
    · intro _
      dsimp only
      rw [hown, hnot, hrest]
      exact ⟨hsplits.of_cons.2.2, rfl⟩
    · intro hreading
      rcases hpc with hpc | hpc
      · rw [hpc] at hreading
        contradiction
      · rw [hpc] at hreading
        contradiction
  | @moves output next hpc hqueue hflight hnumber hdone =>
    have hkept : next.pc.phase = .waiting ∨ next.pc.phase = .reading →
        r.https.pc.phase = next.pc.phase := by
      rintro (hphase | hphase)
      all_goals
        rcases hpc with hpc | hpc | ⟨hpc, -⟩
        · exact hpc.symm
        · rw [hpc] at hphase
          contradiction
        · rw [hpc] at hphase
          contradiction
    refine ⟨?_, ?_, ?_, ?_, ?_, ?_⟩
    · intro n hn
      rw [hnumber]
      exact h.flight n (hflight.symm.trans hn)
    · intro ev hmem
      dsimp only at hmem
      rw [hqueue] at hmem
      rw [hnumber]
      exact h.posted ev hmem
    · intro hconfiguring
      dsimp only at hconfiguring ⊢
      rw [hflight]
      rcases hpc with hpc | hpc | ⟨-, hnone⟩
      · exact h.configuring (hpc.symm.trans hconfiguring)
      · rw [hpc] at hconfiguring
        contradiction
      · exact hnone
    · intro hphase n hn
      exact h.running ((hkept (Or.inl hphase)).trans hphase) n (hflight.symm.trans hn)
    · intro hphase
      dsimp only
      rw [hqueue]
      exact h.waiting ((hkept (Or.inl hphase)).trans hphase)
    · exact fun hphase => h.reading ((hkept (Or.inr hphase)).trans hphase)
  | @completes n ev output hflight haction hdone =>
    refine ⟨(fun _ heq => nomatch heq), ?_, fun _ => rfl, (fun _ _ heq => nomatch heq), ?_,
      h.reading⟩
    · intro ev' hmem m hm
      rcases List.mem_append.mp hmem with hmem | hmem
      · exact h.posted ev' hmem m hm
      · cases List.mem_singleton.mp hmem
        cases haction.symm.trans hm
        exact h.flight n hflight
    · intro hphase
      obtain ⟨hsplits, hown⟩ := h.waiting hphase
      refine ⟨hsplits.concat fun _ => ?_, hown⟩
      rw [haction, h.running hphase n hflight]
  | @posts ev output hends haction hdone =>
    refine ⟨h.flight, ?_, h.configuring, h.running, ?_, h.reading⟩
    · intro ev' hmem m hm
      rcases List.mem_append.mp hmem with hmem | hmem
      · exact h.posted ev' hmem m hm
      · cases List.mem_singleton.mp hmem
        rw [haction] at hm
        contradiction
    · intro hphase
      obtain ⟨hsplits, hown⟩ := h.waiting hphase
      refine ⟨hsplits.concat fun heq => ?_, hown⟩
      rw [hends] at heq
      contradiction

theorem Sound.answered_iff (h : r.Sound) (i : HttpsInput) : r.Answered i ↔ r.Fresh i := by
  have hstep := httpsStep r.https i
  unfold Answered Fresh
  simp only [httpsRunMachine]
  generalize httpsMachine.step r.https i = next at hstep
  generalize httpsStepKind r.https i = kind at hstep
  cases hstep with
  | @accepted output next hpc hphase hqueue hflight hnumber hdone =>
    refine iff_of_true ⟨fun hread => ?_, fun heq => ?_⟩ True.intro
    · dsimp only at hread
      rw [hread] at hphase
      contradiction
    · exact absurd heq (by simp [hdone])
  | @reads ev queue output hphase hqueue hends hgood hdone =>
    dsimp only
    rw [← h.own_iff hphase hqueue hends hgood]
    constructor
    · exact fun hanswered _ _ => hanswered.1 rfl
    · exact fun hfresh => ⟨fun _ => hfresh hends hgood, fun heq => absurd heq (by simp [hdone])⟩
  | @drops ev queue output next hphase hqueue hbad hpc hrest hflight hnumber hdone =>
    refine iff_of_true ⟨fun hread => ?_, fun heq => absurd heq (by simp [hdone])⟩ ?_
    · dsimp only at hread
      rcases hpc with hpc | hpc
      · rw [hread] at hpc
        contradiction
      · rw [hread] at hpc
        contradiction
    · intro hends hgood
      rw [hbad hends] at hgood
      contradiction
  | @moves output next hpc hqueue hflight hnumber hdone =>
    refine iff_of_true ⟨fun hread => ?_, fun heq => h.reading (hdone heq)⟩ True.intro
    dsimp only at hread ⊢
    rw [hread] at hpc
    rcases hpc with hpc | hpc | ⟨hpc, -⟩
    · exact h.reading hpc.symm
    · contradiction
    · contradiction
  | @completes n ev output hflight haction hdone =>
    refine iff_of_true ⟨fun hread => ?_, fun heq => absurd heq (by simp [hdone])⟩ True.intro
    exact h.reading (by rw [show r.https.pc = .read from hread]; rfl)
  | @posts ev output hends haction hdone =>
    refine iff_of_true ⟨fun hread => ?_, fun heq => absurd heq (by simp [hdone])⟩ True.intro
    exact h.reading (by rw [show r.https.pc = .read from hread]; rfl)

theorem sound_boot : boot.Sound where
  flight := fun _ h => nomatch h
  posted := fun _ h => nomatch h
  configuring := fun h => nomatch h
  running := fun h => nomatch h
  waiting := fun h => nomatch h
  reading := fun h => nomatch h

/-- In a run every response belongs to its request if and only if each call that goes on with
an event finds none in the queue that is older than its own action. -/
theorem https_answered_iff (is : List HttpsInput) :
    httpsRunMachine.Along Answered boot is ↔ httpsRunMachine.Along Fresh boot is := by
  apply httpsRunMachine.along_congr (I := Sound)
  · exact fun r i h hfresh => h.step hfresh
  · exact fun r i h => h.answered_iff i
  · exact sound_boot

instance (r : HttpsRun) (i : HttpsInput) : Decidable (r.Answered i) :=
  inferInstanceAs (Decidable ((_ → _) ∧ (_ → _)))

/-- The kernel accepts what it is asked, and the body is empty. -/
def willing : HttpsEnv := ⟨true, true, some []⟩

/-- A GET up to the wait for its event. -/
def getUpToWait : List HttpsInput :=
  .call ⟨sdkHttpsMethodGet, some (asciiBytes "http://a"), none, none, 16⟩ ::
    List.replicate 6 (.task willing)

/-- A request that is done after its call has given up: the next call takes its event, although
its own request ends with status 404. -/
theorem late_event_taken : ¬ ∀ is, httpsRunMachine.Along Answered boot is := by
  intro h
  have hrun := h (getUpToWait ++ [.wait 60000, .task willing, .complete true 200] ++
    getUpToWait ++ [.complete true 404, .task willing, .task willing, .task willing])
  revert hrun
  decide +kernel

end HttpsRun

end WalnutGateway
