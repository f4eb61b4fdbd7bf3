import WalnutGateway.Network.RadioRestart

/-!
# SIM detection

`sim.c`: a task samples the presence of the SIM through the modem, debounces it and tells
the other modules when it changes. It does not sample while the network task is in
`RESTART_CFUN`, as the modem answers `ABSENT` with the radio off; but the state may change
between the look at it and the sample, and the radio may be off outside that state.
-/

namespace WalnutGateway

/-- `SIM_DETECT_DEBOUNCE_MATCHES`. -/
def simDetectDebounceMatches : Nat := 3

/-- `wm_SdkSimStatus`. -/
inductive SimStatus
  | present
  | absent
  | ready
  | error
  deriving DecidableEq, Repr

/-- Where the detect task is in its pass. -/
inductive SimPc
  | check
  | sample
  | update (inserted : Bool)
  deriving DecidableEq, Repr

/-- `sim_runtime_t`, and the task's place. -/
structure SimDetect where
  simAvailable : Bool
  lastNotifiedState : Bool
  debounceInserted : Bool
  debounceMatches : Nat
  pc : SimPc
  deriving DecidableEq, Repr

/-- What the SIM module broadcasts. -/
inductive SimBroadcast
  | available
  | unavailable
  deriving DecidableEq, Repr

/-- `EVENT_SIM_AVAILABLE` or `EVENT_SIM_UNAVAILABLE`. -/
def simBroadcast (simAvailable : Bool) : SimBroadcast :=
  if simAvailable then .available else .unavailable

theorem simBroadcast_inj {a b : Bool} (h : simBroadcast a = simBroadcast b) : a = b := by
  revert h
  cases a <;> cases b <;> simp [simBroadcast]

/-- `g_sim` before anything is sampled. -/
def SimDetect.init : SimDetect := ⟨false, false, false, 0, .check⟩

/-- `sim_notify_sim_status_change`. -/
def simNotifySimStatusChange (simAvailable : Bool) (d : SimDetect) :
    List SimBroadcast × SimDetect :=
  if d.lastNotifiedState = simAvailable then ([], d)
  else ([simBroadcast simAvailable], { d with lastNotifiedState := simAvailable })

/-- `weware_sim_set_sim_available`. -/
def wewareSimSetSimAvailable (simAvailable : Bool) (d : SimDetect) :
    List SimBroadcast × SimDetect :=
  if d.simAvailable = simAvailable then ([], d)
  else simNotifySimStatusChange simAvailable { d with simAvailable := simAvailable }

/-- `sim_sample_presence`, of the answer that `weware_sim_query_modem_status` passes on. -/
def simSamplePresence (answer : ModemResult × SimStatus) : Option Bool :=
  if answer.1 ≠ .success then none
  else some (answer.2 = .present ∨ answer.2 = .ready)

/-- The debounce of `sim_detect_task_entry`. -/
def simDebounce (inserted : Bool) (d : SimDetect) : SimDetect :=
  if inserted = d.debounceInserted then
    if d.debounceMatches < simDetectDebounceMatches then
      { d with debounceMatches := d.debounceMatches + 1 }
    else d
  else { d with debounceInserted := inserted, debounceMatches := 1 }

/-- The next step of `sim_detect_task_entry`, with the network state that it may look at and
the modem's answer. -/
def simDetectTaskEntry (state : NetworkState) (answer : ModemResult × SimStatus)
    (d : SimDetect) : List SimBroadcast × SimDetect :=
  match d.pc with
  | .check => if state = .restartCfun then ([], d) else ([], { d with pc := .sample })
  | .sample =>
    match simSamplePresence answer with
    | none => ([], { d with pc := .check })
    | some inserted => ([], { d with pc := .update inserted })
  | .update inserted =>
    let debounced := { simDebounce inserted d with pc := .check }
    if debounced.debounceMatches ≥ simDetectDebounceMatches then
      wewareSimSetSimAvailable debounced.debounceInserted debounced
    else ([], debounced)

/-! ## The two tasks -/

/-- A sample that the modem answered, and whether the radio was on. -/
structure SimSample where
  inserted : Bool
  radio : Bool
  deriving DecidableEq

/-- The SIM module and the network module, with what has been sampled, the latest first, and
what has been broadcast, the latest last. -/
structure SimRun where
  network : Network
  /-- What the last `set_cfun` that succeeded asked for; on before the first. -/
  radio : Bool
  sim : SimDetect
  samples : List SimSample
  broadcasts : List SimBroadcast

/-- What happens to the two modules. -/
inductive SimEvent
  /-- Time passes. -/
  | wait (ms : Nat)
  /-- A URC for the network task. -/
  | urc (event : UrcEvent)
  /-- The next step of the network task; the SIM status is the SIM module's. -/
  | networkTask (env : ModemEnv)
  /-- The next step of the detect task. -/
  | simTask (answer : ModemResult × SimStatus)
  deriving DecidableEq

namespace SimRun

/-- The modules when their tasks start. -/
def start (time : Nat) : SimRun := ⟨.start time, true, .init, [], []⟩

/-- A step of the network module. -/
def networkStep (e : NetworkEvent) (r : SimRun) : SimRun :=
  let next := networkMachine.step r.network e
  { r with network := next.2, radio := radioAfter r.radio next.1 }

/-- What the step samples, if anything. -/
def sampled (answer : ModemResult × SimStatus) (r : SimRun) : Option SimSample :=
  if r.sim.pc = .sample then
    (simSamplePresence answer).map fun inserted => ⟨inserted, r.radio⟩
  else none

/-- A step of the detect task. -/
def simStep (answer : ModemResult × SimStatus) (r : SimRun) : SimRun :=
  let next := simDetectTaskEntry r.network.state answer r.sim
  { r with
    sim := next.2
    samples := (r.sampled answer).toList ++ r.samples
    broadcasts := r.broadcasts ++ next.1 }

end SimRun

/-- The two modules, step by step; the network module listens to what is broadcast. -/
def simMachine : Machine SimRun SimEvent (List SimBroadcast) where
  step r e :=
    match e with
    | .wait ms => ([], r.networkStep (.wait ms))
    | .urc event => ([], r.networkStep (.urc event))
    | .networkTask env =>
      ([], r.networkStep (.task { env with simStatus := r.sim.simAvailable }))
    | .simTask answer =>
      let told := (simDetectTaskEntry r.network.state answer r.sim).1
      (told, if .available ∈ told then (r.simStep answer).networkStep .simAvailable
        else r.simStep answer)

namespace SimRun

/-- What is broadcast follows as many equal samples as the debounce wants. -/
def Debounced (r : SimRun) (e : SimEvent) : Prop :=
  ∀ inserted, simBroadcast inserted ∈ (simMachine.step r e).1 →
    (r.samples.take simDetectDebounceMatches).map SimSample.inserted =
      List.replicate simDetectDebounceMatches inserted

/-- The broadcasts take turns, the first being `EVENT_SIM_AVAILABLE`, and the status is the
last of them. -/
structure Told (r : SimRun) : Prop where
  turns : ∃ n : Nat, r.broadcasts =
    (List.replicate n [SimBroadcast.available, .unavailable]).flatten ++
      if r.sim.simAvailable then [.available] else []
  last : r.sim.simAvailable = true ↔ r.broadcasts.getLast? = some .available

/-- The samples of the step. -/
def samplesOf (r : SimRun) (e : SimEvent) : Option SimSample :=
  match e with
  | .simTask answer => r.sampled answer
  | _ => none

/-- The card is present: only with the radio off does the modem answer otherwise. -/
def CardPresent (r : SimRun) (e : SimEvent) : Prop :=
  ∀ x ∈ r.samplesOf e, x.inserted = false → x.radio = false

/-- The latest samples are not all taken with the radio off. -/
def RadioSeen (r : SimRun) (e : SimEvent) : Prop :=
  ∀ x ∈ r.samplesOf e,
    ((x :: r.samples).take simDetectDebounceMatches).map SimSample.radio ≠
      List.replicate simDetectDebounceMatches false

/-- The step does not tell that the SIM was removed. -/
def NoRemoval (r : SimRun) (e : SimEvent) : Prop := .unavailable ∉ (simMachine.step r e).1

instance (r : SimRun) (e : SimEvent) : Decidable (r.CardPresent e) :=
  inferInstanceAs (Decidable (∀ x ∈ r.samplesOf e, _))

instance (r : SimRun) (e : SimEvent) : Decidable (r.RadioSeen e) :=
  inferInstanceAs (Decidable (∀ x ∈ r.samplesOf e, _))

instance (r : SimRun) (e : SimEvent) : Decidable (r.NoRemoval e) :=
  inferInstanceAs (Decidable (_ ∉ _))

end SimRun

/-! ## What the detect task does -/

section Detect

variable {d : SimDetect} {inserted : Bool}

theorem simDebounce_frame (inserted : Bool) (d : SimDetect) : ∃ count, simDebounce inserted d =
    { d with debounceInserted := inserted, debounceMatches := count } := by
  unfold simDebounce
  split
  · rename_i hsame
    rw [hsame]
    split
    · exact ⟨_, rfl⟩
    · exact ⟨_, rfl⟩
  · exact ⟨_, rfl⟩

/-- The debounce counts equal samples that are the latest. -/
def SimDetect.Counted (d : SimDetect) (seen : List Bool) : Prop :=
  List.replicate d.debounceMatches d.debounceInserted <+: seen

theorem SimDetect.Counted.debounce {seen : List Bool} (h : d.Counted seen) (inserted : Bool) :
    (simDebounce inserted d).Counted (inserted :: seen) := by
  unfold simDebounce
  split
  · rename_i hsame
    have hnext :
        List.replicate (d.debounceMatches + 1) d.debounceInserted <+: inserted :: seen := by
      rw [List.replicate_succ, hsame, List.cons_prefix_cons]
      exact ⟨rfl, h⟩
    split
    · exact hnext
    · rw [List.replicate_succ'] at hnext
      exact (List.prefix_append _ _).trans hnext
  · rw [SimDetect.Counted, List.replicate_one, List.cons_prefix_cons]
    exact ⟨rfl, List.nil_prefix⟩

/-- Once enough are counted, the latest samples are all equal. -/
theorem SimDetect.Counted.take {seen : List Bool} (h : d.Counted seen)
    (hcount : simDetectDebounceMatches ≤ d.debounceMatches) :
    seen.take simDetectDebounceMatches =
      List.replicate simDetectDebounceMatches d.debounceInserted := by
  obtain ⟨rest, rfl⟩ := h
  rw [List.take_append_of_le_length (by simpa using hcount), List.take_replicate,
    Nat.min_eq_left hcount]

/-- What a step of the detect task does. -/
inductive DetectStep (answer : ModemResult × SimStatus) (d : SimDetect) :
    List SimBroadcast × SimDetect → Prop
  | idle {pc : SimPc} (hpc : d.pc = .check ∨ d.pc = .sample ∧ simSamplePresence answer = none)
    (hnext : pc = .check ∨ pc = .sample) : DetectStep answer d ([], { d with pc := pc })
  | sampled {inserted : Bool} (hpc : d.pc = .sample)
    (hanswer : simSamplePresence answer = some inserted) :
    DetectStep answer d ([], { d with pc := .update inserted })
  | counted {inserted : Bool} (hpc : d.pc = .update inserted) :
    DetectStep answer d ([], { simDebounce inserted d with pc := .check })
  | told {inserted : Bool} (hpc : d.pc = .update inserted)
    (hcount : simDetectDebounceMatches ≤ (simDebounce inserted d).debounceMatches)
    (hbefore : d.simAvailable = !inserted) :
    DetectStep answer d ([simBroadcast inserted],
      { simDebounce inserted d with
        pc := .check, simAvailable := inserted, lastNotifiedState := inserted })

/-- The status is told when it changes. -/
theorem wewareSimSetSimAvailable_cases (hnotified : d.lastNotifiedState = d.simAvailable)
    (inserted : Bool) : wewareSimSetSimAvailable inserted d = ([], d) ∨
      d.simAvailable = !inserted ∧ wewareSimSetSimAvailable inserted d =
        ([simBroadcast inserted],
          { d with simAvailable := inserted, lastNotifiedState := inserted }) := by
  unfold wewareSimSetSimAvailable simNotifySimStatusChange
  split
  · exact Or.inl rfl
  · rename_i hother
    refine Or.inr ⟨Bool.eq_not_of_ne hother, ?_⟩
    rw [if_neg (by rw [hnotified]; exact hother)]

theorem detectStep (hnotified : d.lastNotifiedState = d.simAvailable) (state : NetworkState)
    (answer : ModemResult × SimStatus) :
    DetectStep answer d (simDetectTaskEntry state answer d) := by
  unfold simDetectTaskEntry
  cases hpc : d.pc with
  | check =>
    dsimp only
    split
    · have hidle : DetectStep answer d ([], { d with pc := d.pc }) :=
        .idle (Or.inl hpc) (Or.inl hpc)
      exact hidle
    · exact .idle (Or.inl hpc) (Or.inr rfl)
  | sample =>
    dsimp only
    cases hanswer : simSamplePresence answer with
    | none => exact .idle (Or.inr ⟨hpc, hanswer⟩) (Or.inl rfl)
    | some inserted => exact .sampled hpc hanswer
  | update inserted =>
    obtain ⟨count, hframe⟩ := simDebounce_frame inserted d
    dsimp only
    split
    · rename_i hcount
      rcases wewareSimSetSimAvailable_cases (d := { simDebounce inserted d with pc := .check })
        (by rw [hframe]; exact hnotified) (simDebounce inserted d).debounceInserted with
        hsame | ⟨hbefore, htold⟩
      · rw [hsame]
        exact .counted hpc
      · rw [htold]
        rw [hframe] at hbefore
        have hstep : DetectStep answer d _ := .told hpc hcount hbefore
        rw [hframe] at hstep ⊢
        exact hstep
    · exact .counted hpc

end Detect

/-! ## Whole runs -/

/-- The samples that the debounce has counted. -/
def SimPc.counted (pc : SimPc) (seen : List Bool) : List Bool :=
  match pc with
  | .update _ => seen.tail
  | _ => seen

/-- All is counted but a sample that waits for the debounce. -/
theorem SimPc.counted_of {pc : SimPc} {seen : List Bool} (h : pc = .check ∨ pc = .sample) :
    pc.counted seen = seen := by
  rcases h with rfl | rfl
  · rfl
  · rfl

namespace SimRun

variable {r : SimRun}

/-- What was sampled, the latest first. -/
def seen (r : SimRun) : List Bool := r.samples.map SimSample.inserted

/-- The debounce counts what was sampled, and has told what it counted. -/
structure Counting (r : SimRun) : Prop where
  counted : r.sim.Counted (r.sim.pc.counted r.seen)
  pending : ∀ inserted, r.sim.pc = .update inserted → r.seen.head? = some inserted
  notified : r.sim.lastNotifiedState = r.sim.simAvailable
  turns : Bracketed (fun _ : Unit => SimBroadcast.available) (fun _ => .unavailable)
    (if r.sim.simAvailable then some () else none) r.broadcasts

theorem counting_start (time : Nat) : (start time).Counting where
  counted := List.nil_prefix
  pending := by simp [start, SimDetect.init]
  notified := rfl
  turns := .nil

/-- What waits for the debounce is the latest sample. -/
theorem Counting.seen_eq (h : r.Counting) {inserted : Bool} (hpc : r.sim.pc = .update inserted) :
    r.seen = inserted :: r.sim.pc.counted r.seen := by
  have hhead := h.pending inserted hpc
  rw [hpc]
  cases hseen : r.seen with
  | nil =>
    rw [hseen] at hhead
    contradiction
  | cons first rest =>
    rw [hseen] at hhead
    cases hhead
    rfl

/-- With the latest sample the debounce still counts what is latest. -/
theorem Counting.debounced (h : r.Counting) {inserted : Bool}
    (hpc : r.sim.pc = .update inserted) : (simDebounce inserted r.sim).Counted r.seen := by
  rw [h.seen_eq hpc]
  exact h.counted.debounce inserted

/-- A change of the status takes its turn. -/
theorem Counting.turn (h : r.Counting) {inserted : Bool}
    (hbefore : r.sim.simAvailable = !inserted) :
    Bracketed (fun _ : Unit => SimBroadcast.available) (fun _ => .unavailable)
      (if inserted then some () else none) (r.broadcasts ++ [simBroadcast inserted]) := by
  have hturns := h.turns
  rw [hbefore] at hturns
  cases inserted with
  | true => exact hturns.opened ()
  | false => exact Bracketed.closed hturns

theorem seen_simStep (answer : ModemResult × SimStatus) (r : SimRun) :
    (r.simStep answer).seen = ((r.sampled answer).map SimSample.inserted).toList ++ r.seen := by
  unfold simStep seen
  cases r.sampled answer with
  | none => rfl
  | some x => rfl

theorem sampled_of_ne {answer : ModemResult × SimStatus}
    (h : r.sim.pc = .sample → simSamplePresence answer = none) : r.sampled answer = none := by
  unfold sampled
  split
  · rename_i hpc
    rw [h hpc]
    rfl
  · rfl

theorem Counting.simStep (h : r.Counting) (answer : ModemResult × SimStatus) :
    (r.simStep answer).Counting := by
  have hstep := detectStep h.notified r.network.state answer
  have hseen := seen_simStep answer r
  have hsim : (r.simStep answer).sim = (simDetectTaskEntry r.network.state answer r.sim).2 := rfl
  have hbroadcasts : (r.simStep answer).broadcasts =
    r.broadcasts ++ (simDetectTaskEntry r.network.state answer r.sim).1 := rfl
  generalize simDetectTaskEntry r.network.state answer r.sim = next at hstep hsim hbroadcasts
  cases hstep with
  | @idle pc hpc hnext =>
    have hsampled : r.sampled answer = none := by
      apply sampled_of_ne
      intro hsample
      rcases hpc with hcheck | ⟨-, hanswer⟩
      · rw [hcheck] at hsample
        contradiction
      · exact hanswer
    have hcounted := h.counted
    rw [SimPc.counted_of (hpc.imp_right And.left)] at hcounted
    rw [hsampled] at hseen
    refine ⟨?_, ?_, ?_, ?_⟩
    · rw [hsim, hseen, SimPc.counted_of hnext]
      exact hcounted
    · rw [hsim]
      rcases hnext with rfl | rfl
      · simp
      · simp
    · rw [hsim]
      exact h.notified
    · rw [hsim, hbroadcasts, List.append_nil]
      exact h.turns
  | @sampled inserted hpc hanswer =>
    have hsampled : r.sampled answer = some ⟨inserted, r.radio⟩ := by
      rw [sampled, if_pos hpc, hanswer]
      rfl
    have hcounted := h.counted
    rw [hpc] at hcounted
    rw [hsampled] at hseen
    refine ⟨?_, ?_, ?_, ?_⟩
    · rw [hsim, hseen]
      exact hcounted
    · rw [hsim, hseen]
      intro other hother
      cases hother
      rfl
    · rw [hsim]
      exact h.notified
    · rw [hsim, hbroadcasts, List.append_nil]
      exact h.turns
  | @counted inserted hpc =>
    rw [sampled_of_ne (by simp [hpc])] at hseen
    obtain ⟨count, hframe⟩ := simDebounce_frame inserted r.sim
    refine ⟨?_, ?_, ?_, ?_⟩
    · rw [hsim, hseen]
      exact h.debounced hpc
    · simp [hsim]
    · rw [hsim, hframe]
      exact h.notified
    · rw [hsim, hbroadcasts, hframe, List.append_nil]
      exact h.turns
  | @told inserted hpc hcount hbefore =>
    rw [sampled_of_ne (by simp [hpc])] at hseen
    refine ⟨?_, ?_, ?_, ?_⟩
    · rw [hsim, hseen]
      exact h.debounced hpc
    · simp [hsim]
    · rw [hsim]
    · rw [hsim, hbroadcasts]
      exact h.turn hbefore

/-- The network module leaves the SIM module alone. -/
theorem step_frame (r : SimRun) (e : SimEvent) : ∃ network radio,
    (simMachine.step r e).2 = { r with network := network, radio := radio } ∨
    ∃ answer, e = .simTask answer ∧
      (simMachine.step r e).2 = { r.simStep answer with network := network, radio := radio } := by
  cases e with
  | wait ms => exact ⟨_, _, Or.inl rfl⟩
  | urc event => exact ⟨_, _, Or.inl rfl⟩
  | networkTask env => exact ⟨_, _, Or.inl rfl⟩
  | simTask answer =>
    simp only [simMachine]
    split
    · exact ⟨_, _, Or.inr ⟨answer, rfl, rfl⟩⟩
    · exact ⟨_, _, Or.inr ⟨answer, rfl, rfl⟩⟩

theorem Counting.step (h : r.Counting) (e : SimEvent) : (simMachine.step r e).2.Counting := by
  obtain ⟨network, radio, hnext | ⟨answer, -, hnext⟩⟩ := step_frame r e
  · rw [hnext]
    exact ⟨h.counted, h.pending, h.notified, h.turns⟩
  · have hsim := h.simStep answer
    rw [hnext]
    exact ⟨hsim.counted, hsim.pending, hsim.notified, hsim.turns⟩

theorem Counting.told (h : r.Counting) : r.Told where
  turns := by
    obtain ⟨units, heq⟩ := Bracketed.eq_flatMap h.turns
    refine ⟨units.length, heq.trans ?_⟩
    have hunits : units = List.replicate units.length () := List.eq_replicate_length.mpr (by simp)
    congr 1
    · conv_lhs => rw [hunits]
      rw [List.flatMap_replicate]
    · split
      · rfl
      · rfl
  last := by
    have hturns := h.turns
    cases hstatus : r.sim.simAvailable with
    | true =>
      rw [hstatus] at hturns
      generalize r.broadcasts = told at hturns
      cases hturns with
      | opened hbefore _ => simp
    | false =>
      rw [hstatus] at hturns
      generalize r.broadcasts = told at hturns
      cases hturns with
      | nil => simp
      | closed hbefore => simp

/-- What is told, and what the latest samples were. -/
theorem Counting.debounced_step (h : r.Counting) (e : SimEvent) : r.Debounced e := by
  intro inserted htold
  cases e with
  | simTask answer =>
    have hstep := detectStep h.notified r.network.state answer
    change simBroadcast inserted ∈ (simDetectTaskEntry r.network.state answer r.sim).1 at htold
    generalize simDetectTaskEntry r.network.state answer r.sim = next at hstep htold
    cases hstep with
    | idle hpc hnext => contradiction
    | sampled hpc hanswer => contradiction
    | counted hpc => contradiction
    | @told latest hpc hcount hbefore =>
      obtain ⟨count, hframe⟩ := simDebounce_frame latest r.sim
      have hlatest := (h.debounced hpc).take hcount
      have hsame : inserted = latest := simBroadcast_inj (List.mem_singleton.mp htold)
      rw [List.map_take, hsame]
      rw [hframe] at hlatest
      exact hlatest
  | _ => contradiction

/-- Only with the radio off was anything else sampled than the card, and the latest samples
were not all taken so. -/
structure CardSeen (r : SimRun) : Prop where
  card : ∀ x ∈ r.samples, x.inserted = false → x.radio = false
  radio : (r.samples.take simDetectDebounceMatches).map SimSample.radio ≠
    List.replicate simDetectDebounceMatches false

theorem cardSeen_start (time : Nat) : (start time).CardSeen where
  card := by simp [start]
  radio := by simp [start, simDetectDebounceMatches]

theorem samples_step (r : SimRun) (e : SimEvent) :
    (simMachine.step r e).2.samples = (r.samplesOf e).toList ++ r.samples := by
  cases e with
  | simTask answer =>
    simp only [simMachine]
    split
    · rfl
    · rfl
  | _ => rfl

theorem CardSeen.step (h : r.CardSeen) {e : SimEvent} (hcard : r.CardPresent e)
    (hradio : r.RadioSeen e) : (simMachine.step r e).2.CardSeen := by
  have hsamples := samples_step r e
  cases hsample : r.samplesOf e with
  | none =>
    rw [hsample] at hsamples
    refine ⟨fun x hx => ?_, ?_⟩
    · rw [hsamples] at hx
      exact h.card x hx
    · rw [hsamples]
      exact h.radio
  | some latest =>
    rw [hsample] at hsamples
    refine ⟨fun x hx => ?_, ?_⟩
    · rw [hsamples] at hx
      rcases List.mem_cons.mp hx with rfl | hx
      · exact hcard x hsample
      · exact h.card x hx
    · rw [hsamples]
      exact hradio latest hsample

/-- Enough equal samples without the card would all be taken with the radio off. -/
theorem CardSeen.noRemoval (h : r.CardSeen) {e : SimEvent} (hdebounced : r.Debounced e) :
    r.NoRemoval e := by
  intro htold
  have habsent := hdebounced false htold
  apply h.radio
  rw [List.eq_replicate_iff] at habsent ⊢
  refine ⟨by simpa using habsent.1, ?_⟩
  intro b hb
  obtain ⟨x, hx, rfl⟩ := List.mem_map.mp hb
  exact h.card x (List.mem_of_mem_take hx)
    (habsent.2 _ (List.mem_map_of_mem hx))

/-- The broadcasts take turns and follow equal samples, and the status is the last of them;
with the card present, none tells of a removal while enough samples see the radio on. -/
theorem sim_detection (time : Nat) (es : List SimEvent) :
    (simMachine.run (start time) es).2.Told ∧
    simMachine.Along Debounced (start time) es ∧
    (simMachine.Along CardPresent (start time) es → simMachine.Along RadioSeen (start time) es →
      simMachine.Along NoRemoval (start time) es) := by
  refine ⟨?_, ?_, fun hcard hradio => ?_⟩
  · have hcounting : (simMachine.run (start time) es).2.Counting :=
      Machine.invariant simMachine (I := Counting) (fun _ e h _ => Counting.step h e)
        (counting_start time) (Machine.Along.trivial _ _ _)
    exact hcounting.told
  · exact Machine.Along.mono_of_invariant (fun _ e h _ => Counting.step h e)
      (fun _ e h _ => Counting.debounced_step h e) (counting_start time)
      (Machine.Along.trivial _ _ _)
  · exact Machine.Along.mono_of_invariant (I := fun r => r.Counting ∧ r.CardSeen)
      (fun _ e h hstep => ⟨h.1.step e, h.2.step hstep.1 hstep.2⟩)
      (fun _ e h _ => h.2.noRemoval (h.1.debounced_step e))
      ⟨counting_start time, cardSeen_start time⟩ (hcard.and hradio)

/-- Passes of the detect task with the same answer; a pass that does not sample has one
step only. -/
def simPasses (status : SimStatus) (count : Nat) : List SimEvent :=
  List.replicate (3 * count) (.simTask (.success, status))

/-- A pass of the network task. -/
def networkPass (env : ModemEnv) : List SimEvent := List.replicate 5 (.networkTask env)

/-- The card is found, and looked for again in the restart that this asks for and after it. -/
def cardFound : List SimEvent :=
  simPasses .ready 3 ++ networkPass allUp ++ simPasses .absent 3 ++
    .wait 2000 :: networkPass allUp ++ simPasses .absent 3 ++
    .wait 3000 :: networkPass allUp ++ simPasses .ready 3

/-- It is told once, and not told to be removed. -/
theorem sim_detection_run :
    (simMachine.run (start 0) cardFound).2.broadcasts = [.available] ∧
    (simMachine.run (start 0) cardFound).2.Told ∧
    simMachine.Along NoRemoval (start 0) cardFound := by
  obtain ⟨htold, -, hremoval⟩ := sim_detection 0 cardFound
  exact ⟨by decide +kernel, htold, hremoval (by decide +kernel) (by decide +kernel)⟩

/-- The timeout of the restart leaves the radio off, and the card is sampled after that. -/
def radioLeftOff : List SimEvent :=
  simPasses .ready 3 ++ networkPass allUp ++
    (List.replicate 12 (.wait 5000 :: networkPass RestartRun.cfunRefused)).flatten ++
    simPasses .absent 3

/-- The card is told to be removed while it is there. -/
theorem removal_faked :
    ¬ ∀ (time : Nat) (es : List SimEvent),
      simMachine.Along CardPresent (start time) es →
      simMachine.Along NoRemoval (start time) es := by
  intro h
  have hremoval := h 0 radioLeftOff (by decide +kernel)
  revert hremoval
  decide +kernel

end SimRun

end WalnutGateway
