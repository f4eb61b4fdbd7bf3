import Mathlib.Data.List.Basic
import WalnutGateway.Common.Types

/-!
# Starting the modules

All modules are started in rounds, those that failed once more in the next round, until none fails
or the rounds are used up. What the modules are asked for can be told from their answers alone.
-/

namespace WalnutGateway

/-- `MODULE_INIT_RETRY_COUNT`. -/
def moduleInitRetryCount : Nat := 6

/-- `MODULE_INIT_RETRY_INTERVAL_MS`. -/
def moduleInitRetryIntervalMs : Nat := 10000

/-- A module, as far as it matters for its start. -/
structure StartModule where
  enabled : Bool
  required : Bool
  hasTask : Bool
  /-- There is an `init_fn`. -/
  hasInit : Bool
  /-- There is a `deinit_fn`. -/
  hasDeinit : Bool
  initialized : Bool
  connected : Bool
  retries : UInt32
  lastError : Result
  taskUptimeSec : UInt32

/-- What is done on the way. -/
inductive StartCall
  | init (i : Nat)
  | deinit (i : Nat)
  | sleepMs (ms : Nat)
  deriving DecidableEq

/-- What `module_manager_init_status` makes of a module. -/
def StartModule.initStatus (uptime : UInt32) (m : StartModule) : StartModule :=
  { m with initialized := false, connected := false, taskUptimeSec := uptime }

/-- One module in a round: whether it is counted, what is called, and the module after it; `answer`
is what its `init_fn` gives. -/
def moduleInitOne (answer : Result) (uptime : UInt32) (i : Nat) :
    Option StartModule → Bool × List StartCall × Option StartModule
  | none => (true, [], none)
  | some m =>
    if ¬ m.enabled ∨ m.initialized ∨ ¬ m.hasInit then (true, [], some m)
    else if ¬ answer.isError then
      (true, [.init i], some { m with
        initialized := true
        lastError := .success
        taskUptimeSec := if m.hasTask then uptime else m.taskUptimeSec })
    else
      (false, .init i :: if m.hasDeinit then [.deinit i] else [], some { m with
        retries := m.retries + 1
        lastError := answer })

/-- The modules from the `i`-th on in a round. -/
def moduleInitRound (answer : Nat → Result) (uptime : UInt32) :
    Nat → List (Option StartModule) → Nat × List StartCall × List (Option StartModule)
  | _, [] => (0, [], [])
  | i, m :: ms =>
    let one := moduleInitOne (answer i) uptime i m
    let rest := moduleInitRound answer uptime (i + 1) ms
    ((if one.1 then 1 else 0) + rest.1, one.2.1 ++ rest.2.1, one.2.2 :: rest.2.2)

/-- The rounds that are left, from one on. -/
def moduleInitRounds (answers : Nat → Nat → Result) (uptime : Nat → UInt32) :
    Nat → Nat → List (Option StartModule) → List StartCall × List (Option StartModule)
  | 0, _, ms => ([], ms)
  | left + 1, round, ms =>
    let sleep := if round > 0 then [.sleepMs moduleInitRetryIntervalMs] else []
    let r := moduleInitRound (answers round) (uptime round) 0 ms
    if r.1 = ms.length then (sleep ++ r.2.1, r.2.2)
    else
      let rest := moduleInitRounds answers uptime left (round + 1) r.2.2
      (sleep ++ r.2.1 ++ rest.1, rest.2)

/-- `module_manager_init` after the events are registered; `answers` gives what the `init_fn` of
each module answers in each round. -/
def moduleManagerInit (answers : Nat → Nat → Result) (boot : UInt32) (uptime : Nat → UInt32)
    (ms : List (Option StartModule)) : Result × List StartCall × List (Option StartModule) :=
  let r := moduleInitRounds answers uptime moduleInitRetryCount 0
    (ms.map fun m => m.map (StartModule.initStatus boot))
  (if r.2.any fun m => m.any fun m => m.required && !m.initialized then .error else .success, r)

/-! ## What it comes to -/

section Spec

variable (answers : Nat → Nat → Result) (i : Nat)

/-- A module has started by a round. -/
def StartModule.startedBy (m : StartModule) (round : Nat) : Bool :=
  m.enabled && m.hasInit && (List.range round).any fun q => !(answers q i).isError

/-- A module is tried in a round: it has failed in all rounds before. -/
def StartModule.triedIn (m : StartModule) (round : Nat) : Bool :=
  m.enabled && m.hasInit && (List.range round).all fun q => (answers q i).isError

/-- What a module is asked for in a round. -/
def StartModule.callsIn (m : StartModule) (round : Nat) : List StartCall :=
  if m.triedIn answers i round then
    .init i :: if (answers round i).isError && m.hasDeinit then [.deinit i] else []
  else []

end Spec

/-- What the modules are asked for in a round, one after the other. -/
def callsIn (answers : Nat → Nat → Result) (ms : List (Option StartModule)) (round : Nat) :
    List StartCall :=
  ms.zipIdx.flatMap fun p => p.1.elim [] fun m => m.callsIn answers p.2 round

/-- A round with the pause before it, if there is anything to do in it. -/
def pausedCalls (round : Nat) (calls : List StartCall) : List StartCall :=
  if calls = [] then []
  else (if round > 0 then [.sleepMs moduleInitRetryIntervalMs] else []) ++ calls

/-! ## One module -/

section One

variable {answer answer' : Result} {uptime uptime' : UInt32} {i : Nat} {m : StartModule}

/-- A module is not tried. -/
def StartModule.Skipped (m : StartModule) : Prop := ¬ m.enabled ∨ m.initialized ∨ ¬ m.hasInit

theorem moduleInitOne_skipped (h : m.Skipped) :
    moduleInitOne answer uptime i (some m) = (true, [], some m) := if_pos h

theorem moduleInitOne_ok (h : ¬ m.Skipped) (hok : answer.isError = false) :
    moduleInitOne answer uptime i (some m) = (true, [.init i], some { m with
      initialized := true
      lastError := .success
      taskUptimeSec := if m.hasTask then uptime else m.taskUptimeSec }) :=
  (if_neg h).trans (if_pos (by simp [hok]))

theorem moduleInitOne_failed (h : ¬ m.Skipped) (hfail : answer.isError = true) :
    moduleInitOne answer uptime i (some m) =
      (false, .init i :: if m.hasDeinit then [.deinit i] else [], some { m with
        retries := m.retries + 1
        lastError := answer }) :=
  (if_neg h).trans (if_neg (by simp [hfail]))

/-- A module that counts is left alone from then on. -/
theorem moduleInitOne_of_done {m : Option StartModule}
    (h : (moduleInitOne answer uptime i m).1 = true) :
    moduleInitOne answer' uptime' i (moduleInitOne answer uptime i m).2.2 =
      (true, [], (moduleInitOne answer uptime i m).2.2) := by
  cases m with
  | none => rfl
  | some m =>
    by_cases hskip : m.Skipped
    · rw [moduleInitOne_skipped hskip]
      exact moduleInitOne_skipped hskip
    · cases hanswer : answer.isError with
      | false =>
        rw [moduleInitOne_ok hskip hanswer]
        exact moduleInitOne_skipped (Or.inr (Or.inl rfl))
      | true =>
        rw [moduleInitOne_failed hskip hanswer] at h
        cases h

/-- A module that does not count is tried again. -/
theorem moduleInitOne_of_not_done {m : Option StartModule}
    (h : (moduleInitOne answer uptime i m).1 = false) :
    (moduleInitOne answer' uptime' i (moduleInitOne answer uptime i m).2.2).2.1 ≠ [] := by
  cases m with
  | none => cases h
  | some m =>
    by_cases hskip : m.Skipped
    · rw [moduleInitOne_skipped hskip] at h
      cases h
    · cases hanswer : answer.isError with
      | false =>
        rw [moduleInitOne_ok hskip hanswer] at h
        cases h
      | true =>
        rw [moduleInitOne_failed hskip hanswer]
        have hagain : ¬ StartModule.Skipped { m with
            retries := m.retries + 1, lastError := answer } := hskip
        cases hanswer' : answer'.isError with
        | false => simp [moduleInitOne_ok hagain hanswer']
        | true => simp [moduleInitOne_failed hagain hanswer']

variable (answers : Nat → Nat → Result) (times : Nat → UInt32)

/-- A module after some rounds. -/
def triedFor (i : Nat) : Nat → Option StartModule → Option StartModule
  | 0, m => m
  | round + 1, m => (moduleInitOne (answers round i) (times round) i (triedFor i round m)).2.2

theorem triedFor_none (round : Nat) : triedFor answers times i round none = none := by
  induction round with
  | zero => rfl
  | succ round ih =>
    rw [triedFor, ih]
    rfl

/-- After some rounds a module has started if one of its answers was not an error. -/
theorem triedFor_some (hfresh : m.initialized = false) (round : Nat) :
    ∃ m', triedFor answers times i round (some m) = some m' ∧ m'.enabled = m.enabled ∧
      m'.required = m.required ∧ m'.hasInit = m.hasInit ∧ m'.hasDeinit = m.hasDeinit ∧
      m'.initialized = m.startedBy answers i round := by
  induction round with
  | zero => exact ⟨m, rfl, rfl, rfl, rfl, rfl, by simp [hfresh, StartModule.startedBy]⟩
  | succ round ih =>
    obtain ⟨m', htried, henabled, hrequired, hinit, hdeinit, hstarted⟩ := ih
    have hsucc : m.startedBy answers i (round + 1) =
        (m.startedBy answers i round || m.enabled && m.hasInit && !(answers round i).isError) := by
      simp only [StartModule.startedBy, List.range_succ, List.any_append, List.any_cons,
        List.any_nil, Bool.or_false, Bool.and_or_distrib_left]
    rw [triedFor, htried, hsucc, ← hstarted]
    by_cases hskip : m'.Skipped
    · rw [moduleInitOne_skipped hskip]
      refine ⟨m', rfl, henabled, hrequired, hinit, hdeinit, ?_⟩
      rcases hskip with hoff | hon | hnone
      · simp [← henabled, hoff]
      · simp [hon]
      · simp [← hinit, hnone]
    · obtain ⟨hon, hnew, hcan⟩ : m'.enabled = true ∧ m'.initialized = false ∧
          m'.hasInit = true := by
        simpa [StartModule.Skipped, not_or] using hskip
      rw [← henabled, ← hinit, hon, hcan, hnew]
      cases hanswer : (answers round i).isError with
      | false =>
        rw [moduleInitOne_ok hskip hanswer]
        exact ⟨_, rfl, hon, hrequired, hcan, hdeinit, rfl⟩
      | true =>
        rw [moduleInitOne_failed hskip hanswer]
        exact ⟨_, rfl, hon, hrequired, hcan, hdeinit, hnew⟩

/-- What a module is asked for in a round can be told from its answers. -/
theorem calls_triedFor (hfresh : m.initialized = false) (round : Nat) (uptime : UInt32) :
    (moduleInitOne (answers round i) uptime i (triedFor answers times i round (some m))).2.1 =
      m.callsIn answers i round := by
  obtain ⟨m', htried, henabled, -, hinit, hdeinit, hstarted⟩ :=
    triedFor_some (i := i) answers times hfresh round
  have htriedIn : m.triedIn answers i round = true ↔ ¬ m'.Skipped := by
    simp only [StartModule.triedIn, StartModule.Skipped, henabled, hinit, hstarted,
      StartModule.startedBy, not_or, not_not]
    simp
    tauto
  rw [htried, StartModule.callsIn]
  by_cases hskip : m'.Skipped
  · rw [moduleInitOne_skipped hskip, if_neg fun h => htriedIn.mp h hskip]
  · rw [if_pos (htriedIn.mpr hskip)]
    cases hanswer : (answers round i).isError with
    | false => simp [moduleInitOne_ok hskip hanswer]
    | true => simp [moduleInitOne_failed hskip hanswer, hdeinit]

end One

/-! ## All modules -/

section All

variable (answers : Nat → Nat → Result) (times : Nat → UInt32)

theorem moduleInitRound_eq (answer : Nat → Result) (uptime : UInt32) (i : Nat)
    (ms : List (Option StartModule)) :
    moduleInitRound answer uptime i ms =
      ((ms.zipIdx i).countP fun p => (moduleInitOne (answer p.2) uptime p.2 p.1).1,
        (ms.zipIdx i).flatMap fun p => (moduleInitOne (answer p.2) uptime p.2 p.1).2.1,
        (ms.zipIdx i).map fun p => (moduleInitOne (answer p.2) uptime p.2 p.1).2.2) := by
  induction ms generalizing i with
  | nil => rfl
  | cons m ms ih =>
    simp only [moduleInitRound, ih, List.zipIdx_cons, List.countP_cons, List.flatMap_cons,
      List.map_cons]
    rw [Nat.add_comm]

theorem zipIdx_map_zipIdx {α β : Type} (f : α × Nat → β) (l : List α) (i : Nat) :
    ((l.zipIdx i).map f).zipIdx i = (l.zipIdx i).map fun p => (f p, p.2) := by
  induction l generalizing i with
  | nil => rfl
  | cons a l ih => simp [List.zipIdx_cons, ih]

variable (ms : List (Option StartModule))

/-- All modules after some rounds. -/
def allTried (round : Nat) : List (Option StartModule) :=
  ms.zipIdx.map fun p => triedFor answers times p.2 round p.1

/-- What all modules are asked for in a round. -/
def allCalls (round : Nat) : List StartCall :=
  ms.zipIdx.flatMap fun p => (moduleInitOne (answers round p.2) (times round) p.2
    (triedFor answers times p.2 round p.1)).2.1

theorem moduleInitRound_allTried (round : Nat) :
    moduleInitRound (answers round) (times round) 0 (allTried answers times ms round) =
      (ms.zipIdx.countP fun p => (moduleInitOne (answers round p.2) (times round) p.2
          (triedFor answers times p.2 round p.1)).1,
        allCalls answers times ms round, allTried answers times ms (round + 1)) := by
  rw [moduleInitRound_eq, allTried, zipIdx_map_zipIdx]
  simp only [List.countP_map, List.flatMap_map, List.map_map]
  rfl

variable {answers times ms}

/-- When every module counts, nothing is left to do. -/
theorem settled_of_done {round : Nat} (h : ∀ p ∈ ms.zipIdx, (moduleInitOne (answers round p.2)
      (times round) p.2 (triedFor answers times p.2 round p.1)).1 = true) (later : Nat) :
    allCalls answers times ms (round + 1 + later) = [] ∧
      allTried answers times ms (round + 1 + later) = allTried answers times ms (round + 1) := by
  have hone (p : Option StartModule × Nat) (hp : p ∈ ms.zipIdx) (later : Nat) :
      triedFor answers times p.2 (round + 1 + later) p.1 =
        triedFor answers times p.2 (round + 1) p.1 := by
    induction later with
    | zero => rfl
    | succ later ih =>
      rw [← Nat.add_assoc, triedFor, ih]
      exact congrArg (·.2.2) (moduleInitOne_of_done (h p hp))
  constructor
  · rw [allCalls, List.flatMap_eq_nil_iff]
    intro p hp
    rw [hone p hp]
    exact congrArg (·.2.1) (moduleInitOne_of_done (h p hp))
  · exact List.map_congr_left fun p hp => hone p hp later

/-- As long as one module does not count, something is left to do. -/
theorem allCalls_ne_nil {round : Nat} {p : Option StartModule × Nat} (hp : p ∈ ms.zipIdx)
    (h : (moduleInitOne (answers round p.2) (times round) p.2
      (triedFor answers times p.2 round p.1)).1 = false) :
    allCalls answers times ms (round + 1) ≠ [] := by
  intro hnil
  exact moduleInitOne_of_not_done h (List.flatMap_eq_nil_iff.mp hnil p hp)

/-- The rounds with their early end are all rounds, the idle ones being empty. -/
theorem moduleInitRounds_eq (left round : Nat)
    (hbusy : round = 0 ∨ allCalls answers times ms round ≠ []) :
    moduleInitRounds answers times left round (allTried answers times ms round) =
      ((List.range left).flatMap fun k =>
          pausedCalls (round + k) (allCalls answers times ms (round + k)),
        allTried answers times ms (round + left)) := by
  induction left generalizing round with
  | zero => rfl
  | succ left ih =>
    have hpaused : (if round > 0 then [.sleepMs moduleInitRetryIntervalMs] else []) ++
        allCalls answers times ms round =
          pausedCalls round (allCalls answers times ms round) := by
      unfold pausedCalls
      rcases hbusy with rfl | hbusy
      · by_cases hnil : allCalls answers times ms 0 = []
        · simp [hnil]
        · simp [hnil]
      · rw [if_neg hbusy]
    have hshift : ((List.range (left + 1)).flatMap fun k =>
        pausedCalls (round + k) (allCalls answers times ms (round + k))) =
        pausedCalls round (allCalls answers times ms round) ++
          (List.range left).flatMap fun k =>
            pausedCalls (round + 1 + k) (allCalls answers times ms (round + 1 + k)) := by
      rw [List.range_succ_eq_map, List.flatMap_cons, List.flatMap_map]
      simp only [Nat.add_zero, Nat.succ_eq_add_one, Nat.add_assoc, Nat.add_comm 1]
    have hlength : (allTried answers times ms round).length = ms.zipIdx.length := List.length_map _
    unfold moduleInitRounds
    simp only [moduleInitRound_allTried]
    rw [hpaused, hshift, hlength]
    by_cases hall : ∀ p ∈ ms.zipIdx, (moduleInitOne (answers round p.2) (times round) p.2
        (triedFor answers times p.2 round p.1)).1 = true
    · have hsettled := settled_of_done hall
      rw [if_pos (List.countP_eq_length.mpr hall)]
      have hidle : ((List.range left).flatMap fun k =>
          pausedCalls (round + 1 + k) (allCalls answers times ms (round + 1 + k))) = [] := by
        rw [List.flatMap_eq_nil_iff]
        intro k _
        rw [(hsettled k).1]
        rfl
      rw [hidle, List.append_nil, ← (hsettled left).2, Nat.add_assoc round, Nat.add_comm 1]
    · rw [if_neg fun h => hall (List.countP_eq_length.mp h)]
      obtain ⟨p, hp, hnot⟩ : ∃ p ∈ ms.zipIdx, (moduleInitOne (answers round p.2) (times round) p.2
          (triedFor answers times p.2 round p.1)).1 = false := by
        by_contra hnone
        refine hall fun p hp => Bool.eq_true_of_not_eq_false fun hfalse => hnone ⟨p, hp, hfalse⟩
      rw [ih (round + 1) (Or.inr (allCalls_ne_nil hp hnot)), Nat.add_assoc round, Nat.add_comm 1]

end All

theorem allTried_zero (answers : Nat → Nat → Result) (times : Nat → UInt32)
    (ms : List (Option StartModule)) : allTried answers times ms 0 = ms := by
  rw [allTried]
  exact List.zipIdx_map_fst 0 ms

/-- The run of all modules from their first status. -/
theorem moduleManagerInit_snd (answers : Nat → Nat → Result) (boot : UInt32)
    (times : Nat → UInt32) (ms : List (Option StartModule)) :
    (moduleManagerInit answers boot times ms).2 =
      ((List.range moduleInitRetryCount).flatMap fun round =>
          pausedCalls round (callsIn answers ms round),
        allTried answers times (ms.map fun m => m.map (StartModule.initStatus boot))
          moduleInitRetryCount) := by
  have hcalls (round : Nat) : allCalls answers times
      (ms.map fun m => m.map (StartModule.initStatus boot)) round = callsIn answers ms round := by
    rw [allCalls, callsIn, List.zipIdx_map, List.flatMap_map]
    refine List.flatMap_congr fun p _ => ?_
    obtain ⟨m, i⟩ := p
    cases m with
    | none => simp [triedFor_none, moduleInitOne]
    | some m => exact calls_triedFor answers times (m := m.initStatus boot) rfl round _
  have hrun := @moduleInitRounds_eq answers times
    (ms.map fun m => m.map (StartModule.initStatus boot)) moduleInitRetryCount 0 (Or.inl rfl)
  rw [allTried_zero] at hrun
  simp only [Nat.zero_add, hcalls] at hrun
  exact hrun

/-- Six rounds at most: each module that is enabled and can be started is asked to start, in the
order of the table, once a round and until it does not fail, and it is shut down after each
failure; between two rounds there is a pause of ten seconds, none after the last one needed. A
module has started in the end if one of these six answers was not an error, and the start fails
just if a required module has not. -/
theorem module_manager_init_calls (answers : Nat → Nat → Result) (boot : UInt32)
    (times : Nat → UInt32) (ms : List (Option StartModule)) :
    (moduleManagerInit answers boot times ms).2.1 =
        ((List.range moduleInitRetryCount).flatMap fun round =>
          pausedCalls round (callsIn answers ms round)) ∧
      (∀ (i : Nat) (m : StartModule), ms[i]? = some (some m) → ∃ m' : StartModule,
        (moduleManagerInit answers boot times ms).2.2[i]? = some (some m') ∧
          m'.initialized = m.startedBy answers i moduleInitRetryCount) ∧
      ((moduleManagerInit answers boot times ms).1 = .success ↔
        ∀ (i : Nat) (m : StartModule), ms[i]? = some (some m) → m.required = true →
          m.startedBy answers i moduleInitRetryCount = true) := by
  have hrun := moduleManagerInit_snd answers boot times ms
  have hget (i : Nat) : (moduleManagerInit answers boot times ms).2.2[i]? =
      ms[i]?.map fun m => triedFor answers times i moduleInitRetryCount
        (m.map (StartModule.initStatus boot)) := by
    rw [hrun, allTried, List.getElem?_map, List.getElem?_zipIdx, List.getElem?_map]
    cases ms[i]? <;> simp
  have hstarted (i : Nat) (m : StartModule) : ∃ m', triedFor answers times i moduleInitRetryCount
      (some (m.initStatus boot)) = some m' ∧ m'.required = m.required ∧
        m'.initialized = m.startedBy answers i moduleInitRetryCount := by
    obtain ⟨m', htried, -, hrequired, -, -, hinitialized⟩ :=
      triedFor_some (i := i) answers times (m := m.initStatus boot) rfl moduleInitRetryCount
    exact ⟨m', htried, hrequired, hinitialized⟩
  refine ⟨congrArg Prod.fst hrun, fun i m hm => ?_, ?_⟩
  · obtain ⟨m', htried, -, hinitialized⟩ := hstarted i m
    refine ⟨m', ?_, hinitialized⟩
    rw [hget, hm]
    exact congrArg some htried
  · have hresult : (moduleManagerInit answers boot times ms).1 = .success ↔
        ∀ m ∈ (moduleManagerInit answers boot times ms).2.2, ∀ m' ∈ m,
          m'.required = true → m'.initialized = true := by
      simp only [moduleManagerInit]
      split_ifs with hany
      · refine iff_of_false (by simp) fun hall => ?_
        obtain ⟨m, hm, hbad⟩ := List.any_eq_true.mp hany
        obtain ⟨m', hm', hbad⟩ := (Option.any_eq_true _ _).mp hbad
        simp only [Bool.and_eq_true, Bool.not_eq_true'] at hbad
        exact Bool.false_ne_true (hbad.2.symm.trans (hall m hm m' hm' hbad.1))
      · refine iff_of_true rfl fun m hm m' hm' hrequired => ?_
        by_contra hbad
        refine hany (List.any_eq_true.mpr ⟨m, hm, (Option.any_eq_true _ _).mpr ⟨m', hm', ?_⟩⟩)
        rw [hrequired, Bool.eq_false_of_not_eq_true hbad]
        rfl
    rw [hresult]
    constructor
    · intro h i m hm hrequired
      obtain ⟨m', htried, hsame, hinitialized⟩ := hstarted i m
      rw [← hinitialized]
      refine h (some m') (List.mem_iff_getElem?.mpr ⟨i, ?_⟩) m' rfl (hsame.trans hrequired)
      rw [hget, hm]
      exact congrArg some htried
    · intro h m hmem m' hm' hrequired
      obtain ⟨i, hi⟩ := List.mem_iff_getElem?.mp hmem
      rw [hget] at hi
      obtain ⟨m₀, hm₀, htried⟩ := Option.map_eq_some_iff.mp hi
      cases m₀ with
      | none =>
        rw [Option.map_none, triedFor_none] at htried
        rw [← htried] at hm'
        cases hm'
      | some m₀ =>
        obtain ⟨m'', htried', hsame, hinitialized⟩ := hstarted i m₀
        have heq : some m'' = m := htried'.symm.trans htried
        rw [← heq] at hm'
        obtain rfl := Option.some.inj hm'
        rw [hinitialized]
        exact h i m₀ hm₀ (hsame.symm.trans hrequired)

/-- A module that is wanted and has both functions. -/
def startableModule : StartModule :=
  ⟨true, true, true, true, true, false, false, 0, .success, 0⟩

/-- The second module fails once. -/
example : (moduleManagerInit (fun round i => if round = 0 ∧ i = 1 then .error else .success) 0
    (fun _ => 0) [some startableModule, some startableModule, none]).2.1 =
      [.init 0, .init 1, .deinit 1, .sleepMs 10000, .init 1] := by decide

end WalnutGateway
