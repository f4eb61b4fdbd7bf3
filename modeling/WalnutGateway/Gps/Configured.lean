import WalnutGateway.Gps.BringUp

/-!
# The receiver gets configured

As long as the receiver is left on and accepts what it is told, each step of the GPS task brings
it nearer to being configured, from whatever state the task is in.
-/

namespace WalnutGateway

/-- The receiver is on and accepts everything. -/
structure GnssEnv.Accepts (env : GnssEnv) : Prop where
  answer : ∀ call, env.answer call = .success
  powerStatus : env.powerStatus = some true

/-- The receiver is known to be on, or will be asked whether it is. -/
def Gnss.SeenOn (envs : List GnssEnv) (g : Gnss) : Prop :=
  g.cachedPowerOn = true ∨ ∀ env ∈ envs, g.powerCheckDue env.uptime = true

/-- The settings that are not made, and the event that is not sent. -/
def Gnss.pending (g : Gnss) : Nat :=
  (gnssSettings.filter fun k => !g.has k).length + if g.configuredEventSent then 0 else 1

/-- The steps of the task that are needed at most. -/
def Gnss.stepsLeft (g : Gnss) : Nat :=
  g.pending + match g.pc with
    | .top => if g.pwrNmeaSetupDone then 0 else 2
    | .powerOn => 1
    | .stabilized => 0

/-- The receiver was not announced before, and is now. -/
def Announces (g : Gnss) (p : List GnssOutput × Gnss) : Prop :=
  p.2.configuredEventSent = true → g.configuredEventSent = true ∨ .configured ∈ p.1

theorem Announces.andThen {g : Gnss} {p : List GnssOutput × Gnss}
    {f : Gnss → List GnssOutput × Gnss} (hp : Announces g p) (hf : ∀ g, Announces g (f g)) :
    Announces g (andThen p f) := by
  intro hsent
  rcases hf p.2 hsent with hsent | hnow
  · exact (hp hsent).imp_right (List.mem_append_left _)
  · exact Or.inr (List.mem_append_right _ hnow)

section Step

variable {env : GnssEnv} {envs : List GnssEnv} {g : Gnss}

theorem pending_make {k : GnssSetting} (h : g.has k = false) :
    (g.make k).pending + 1 = g.pending := by
  have hnodup : gnssSettings.Nodup := by decide
  have hmissing : (gnssSettings.filter fun j => !(g.make k).has j) =
      (gnssSettings.filter fun j => !g.has j).erase k := by
    rw [(hnodup.filter _).erase_eq_filter, List.filter_filter]
    congr 1
    funext j
    by_cases hj : j = k <;> simp [make_has, hj]
  have hmem : k ∈ gnssSettings.filter fun j => !g.has j := by
    simp [mem_gnssSettings, h]
  have hpos := List.length_pos_of_mem hmem
  rw [Gnss.pending, Gnss.pending, make_configuredEventSent, hmissing,
    List.length_erase_of_mem hmem]
  omega

theorem pending_eq_zero_iff :
    g.pending = 0 ↔ (∀ k, g.has k = true) ∧ g.configuredEventSent = true := by
  simp [Gnss.pending, List.filter_eq_nil_iff, mem_gnssSettings]

theorem gpsOpsCanProceedConfig_accepts (henv : env.Accepts) (hseen : g.SeenOn (env :: envs)) :
    (gpsOpsCanProceedConfig env g).1 = true ∧ (gpsOpsCanProceedConfig env g).2.SeenOn envs := by
  have hrest : g.SeenOn envs :=
    hseen.imp_right fun h env henv => h env (List.mem_cons_of_mem _ henv)
  unfold gpsOpsCanProceedConfig
  by_cases hstarted : g.nmeaOutputStarted = true
  · rw [if_pos hstarted]
    exact ⟨rfl, hrest⟩
  rw [if_neg hstarted]
  by_cases hdue : g.powerCheckDue env.uptime = true
  · simp only [if_pos hdue, henv.powerStatus]
    exact ⟨rfl, Or.inl rfl⟩
  · simp only [if_neg hdue]
    rcases hseen with hon | hall
    · exact ⟨hon, Or.inl hon⟩
    · exact absurd (hall env List.mem_cons_self) hdue

/-- What a part of a turn leaves as it was. -/
structure TurnFrame (g g' : Gnss) : Prop where
  on : g'.powerForcedOff = g.powerForcedOff
  setup : g'.pwrNmeaSetupDone = g.pwrNmeaSetupDone
  pc : g'.pc = g.pc

/-- A turn in which the receiver accepts makes the next setting, or announces the receiver. -/
theorem gpsOpsRetryConfiguration_accepts (henv : env.Accepts) (hon : g.powerForcedOff = false)
    (hseen : g.SeenOn (env :: envs)) :
    TurnFrame g (gpsOpsRetryConfiguration env g).2 ∧
      (gpsOpsRetryConfiguration env g).2.pending ≤ g.pending - 1 ∧
      (gpsOpsRetryConfiguration env g).2.SeenOn envs := by
  have hrest : g.SeenOn envs :=
    hseen.imp_right fun h env henv => h env (List.mem_cons_of_mem _ henv)
  unfold gpsOpsRetryConfiguration
  rw [if_neg (by simp [hon])]
  by_cases hall : g.allConfigured = true
  · rw [if_pos hall]
    by_cases hsent : g.configuredEventSent = true
    · rw [if_neg (not_not.mpr hsent)]
      have hzero : g.pending = 0 := pending_eq_zero_iff.mpr ⟨allConfigured_iff.mp hall, hsent⟩
      exact ⟨⟨rfl, rfl, rfl⟩, hzero.le.trans (Nat.zero_le _), hrest⟩
    · rw [if_pos hsent]
      refine ⟨⟨rfl, rfl, rfl⟩, ?_, hrest⟩
      have hzero : Gnss.pending { g with configuredEventSent := true } = 0 :=
        pending_eq_zero_iff.mpr ⟨fun k => by
          have hk := allConfigured_iff.mp hall k
          cases k <;> exact hk, rfl⟩
      rw [hzero]
      exact Nat.zero_le _
  · rw [if_neg hall]
    obtain ⟨hproceed, hnext⟩ := gpsOpsCanProceedConfig_accepts henv hseen
    obtain ⟨power, uptime, hframe⟩ := gpsOpsCanProceedConfig_frame env g
    dsimp only
    rw [if_neg (not_not.mpr hproceed)]
    rw [hframe] at hnext ⊢
    generalize hg' : ({ g with
      cachedPowerOn := power, lastPowerStatusCheckUptime := uptime } : Gnss) = g' at hnext ⊢
    have hsame : TurnFrame g g' := hg' ▸ ⟨rfl, rfl, rfl⟩
    have hpending : g'.pending = g.pending := by
      rw [← hg']
      rfl
    have hall' : g'.allConfigured = false := by
      rw [← hg']
      exact Bool.eq_false_of_not_eq_true hall
    obtain ⟨call, k, -, hk, -, hstep⟩ := gpsOpsConfigStep_cases env hall'
    have hmade : k.madeBy (env.answer call) = true := by
      rw [henv.answer]
      cases k <;> rfl
    rw [hstep, if_pos hmade]
    refine ⟨⟨?_, ?_, ?_⟩, ?_, ?_⟩
    · rw [make_powerForcedOff, hsame.on]
    · rw [make_pwrNmeaSetupDone, hsame.setup]
    · rw [make_pc, hsame.pc]
    · have hone := pending_make hk
      dsimp only
      omega
    · simpa [Gnss.SeenOn] using hnext

theorem announces_gpsOpsRetryConfiguration (env : GnssEnv) (g : Gnss) :
    Announces g (gpsOpsRetryConfiguration env g) := by
  unfold Announces gpsOpsRetryConfiguration
  intro hsent
  by_cases hon : g.powerForcedOff = true
  · rw [if_pos hon] at hsent
    exact Or.inl hsent
  rw [if_neg hon] at hsent ⊢
  by_cases hall : g.allConfigured = true
  · rw [if_pos hall] at hsent ⊢
    by_cases hold : g.configuredEventSent = true
    · exact Or.inl hold
    · rw [if_pos hold]
      exact Or.inr (by simp)
  · rw [if_neg hall] at hsent
    obtain ⟨power, uptime, hframe⟩ := gpsOpsCanProceedConfig_frame env g
    dsimp only at hsent
    split at hsent
    · rw [hframe] at hsent
      exact Or.inl hsent
    · have hall' : (gpsOpsCanProceedConfig env g).2.allConfigured = false := by
        rw [hframe]
        exact Bool.eq_false_of_not_eq_true hall
      obtain ⟨call, k, -, -, -, hstep⟩ := gpsOpsConfigStep_cases env hall'
      rw [hstep, hframe] at hsent
      dsimp only at hsent
      split at hsent
      · rw [make_configuredEventSent] at hsent
        exact Or.inl hsent
      · exact Or.inl hsent

/-- What the rest of a turn may change. -/
theorem gpsOpsOpenAgpsIfNeeded_frame (env : GnssEnv) (g : Gnss) :
    ∃ opened time attempt, (gpsOpsOpenAgpsIfNeeded env g).2 = { g with
      agpsSet := opened
      lastAgpsOpenTime := time
      lastAgpsOpenAttemptTime := attempt } := by
  unfold gpsOpsOpenAgpsIfNeeded
  split
  · exact ⟨_, _, _, rfl⟩
  · dsimp only
    split_ifs <;> exact ⟨_, _, _, rfl⟩

theorem gnssTurn_frame (env : GnssEnv) (g : Gnss) :
    ∃ opened time attempt started fix,
      (gnssTurn env g).2 = { (gpsOpsRetryConfiguration env g).2 with
        agpsSet := opened, lastAgpsOpenTime := time, lastAgpsOpenAttemptTime := attempt,
        nmeaOutputStarted := started, fixValidCalculated := fix, pc := .top } := by
  obtain ⟨opened, time, attempt, hopen⟩ :=
    gpsOpsOpenAgpsIfNeeded_frame env (gpsOpsRetryConfiguration env g).2
  unfold gnssTurn andThen
  dsimp only
  rw [hopen]
  unfold gpsOpsRefreshCurrentSample gpsOpsAgpsRefreshIfNeeded
  split_ifs <;> exact ⟨_, _, _, _, _, rfl⟩

theorem announces_gnssTurn (env : GnssEnv) (g : Gnss) : Announces g (gnssTurn env g) := by
  unfold gnssTurn
  refine ((announces_gpsOpsRetryConfiguration env g).andThen fun g hsent => ?_).andThen
    fun g hsent => ?_
  · obtain ⟨opened, time, attempt, hframe⟩ := gpsOpsOpenAgpsIfNeeded_frame env g
    rw [hframe] at hsent
    exact Or.inl hsent
  · unfold gpsOpsRefreshCurrentSample gpsOpsAgpsRefreshIfNeeded at hsent
    refine Or.inl ?_
    split_ifs at hsent <;> exact hsent

theorem announces_gnssTaskStep (env : GnssEnv) (g : Gnss) :
    Announces g (gnssTaskStep env g) := by
  unfold gnssTaskStep
  cases g.pc with
  | top =>
    dsimp only
    split
    · exact announces_gnssTurn env g
    · exact fun hsent => Or.inl hsent
  | powerOn =>
    refine Announces.andThen (fun hsent => Or.inl hsent) fun g => ?_
    split
    · exact announces_gnssTurn env g
    · exact fun hsent => Or.inl hsent
  | stabilized =>
    refine Announces.andThen (fun hsent => ?_) fun g hsent => ?_
    · rcases gpsOpsConfigureNmeaOutput_cases env g with ⟨-, hstep⟩ | ⟨call, -, -, hstep⟩
      · rw [hstep] at hsent
        exact Or.inl hsent
      · rw [hstep] at hsent
        dsimp only at hsent
        split at hsent
        · rw [make_configuredEventSent] at hsent
          exact Or.inl hsent
        · exact Or.inl hsent
    · refine (announces_gnssTurn env _ hsent).imp_left fun hold => ?_
      split at hold <;> exact hold

/-- A turn brings the receiver nearer to being configured. -/
theorem gnssTurn_accepts (henv : env.Accepts) (hon : g.powerForcedOff = false)
    (hseen : g.SeenOn (env :: envs)) :
    (gnssTurn env g).2.powerForcedOff = false ∧
      (gnssTurn env g).2.pwrNmeaSetupDone = g.pwrNmeaSetupDone ∧
      (gnssTurn env g).2.pc = .top ∧ (gnssTurn env g).2.pending ≤ g.pending - 1 ∧
      (gnssTurn env g).2.SeenOn envs := by
  obtain ⟨hsame, hpending, hnext⟩ := gpsOpsRetryConfiguration_accepts henv hon hseen
  obtain ⟨opened, time, attempt, started, fix, hframe⟩ := gnssTurn_frame env g
  rw [hframe]
  exact ⟨hsame.on.trans hon, hsame.setup, rfl, hpending, hnext⟩

/-- A step of the task brings the receiver nearer to being configured. -/
theorem gnssTaskStep_accepts (henv : env.Accepts) (hon : g.powerForcedOff = false)
    (hseen : g.SeenOn (env :: envs)) :
    (gnssTaskStep env g).2.powerForcedOff = false ∧
      (gnssTaskStep env g).2.stepsLeft ≤ g.stepsLeft - 1 ∧
      (gnssTaskStep env g).2.SeenOn envs := by
  have hrest : g.SeenOn envs :=
    hseen.imp_right fun h env henv => h env (List.mem_cons_of_mem _ henv)
  unfold gnssTaskStep
  cases hpc : g.pc with
  | top =>
    dsimp only
    by_cases hsetup : g.pwrNmeaSetupDone = true
    · rw [if_pos (Or.inr hsetup)]
      obtain ⟨hon', hsetup', hpc', hpending, hnext⟩ := gnssTurn_accepts henv hon hseen
      refine ⟨hon', ?_, hnext⟩
      simpa [Gnss.stepsLeft, hpc, hpc', hsetup, hsetup'] using hpending
    · rw [if_neg (by simp [hon, hsetup])]
      refine ⟨hon, ?_, hrest⟩
      have hstart : g.stepsLeft = g.pending + 2 := by simp [Gnss.stepsLeft, hpc, hsetup]
      have hthere : Gnss.stepsLeft { g with pc := .powerOn } = g.pending + 1 := rfl
      dsimp only
      omega
  | powerOn =>
    simp only [andThen, henv.answer, ne_eq, not_true_eq_false, if_false]
    refine ⟨hon, ?_, hrest⟩
    have hstart : g.stepsLeft = g.pending + 1 := by simp [Gnss.stepsLeft, hpc]
    have hthere : Gnss.stepsLeft { g with pc := .stabilized } = g.pending := rfl
    omega
  | stabilized =>
    obtain ⟨g', hconfigure, hon', hpending', hseen'⟩ :
        ∃ g', gpsOpsConfigureNmeaOutput env g =
            (true, (gpsOpsConfigureNmeaOutput env g).2.1, g') ∧
          g'.powerForcedOff = false ∧ g'.pending ≤ g.pending ∧ g'.SeenOn (env :: envs) := by
      rcases gpsOpsConfigureNmeaOutput_cases env g with ⟨-, hstep⟩ | ⟨call, -, hhas, hstep⟩
      · exact ⟨g, by rw [hstep], hon, le_rfl, hseen⟩
      · have hmade : GnssSetting.madeBy (env.answer call) .nmeaOutput = true := by
          rw [henv.answer]
          rfl
        rw [hmade, if_pos rfl] at hstep
        have hone := pending_make hhas
        refine ⟨g.make .nmeaOutput, by rw [hstep], ?_, by omega, ?_⟩
        · rw [make_powerForcedOff, hon]
        · simpa [Gnss.SeenOn] using hseen
    rw [hconfigure]
    simp only [andThen, if_true]
    obtain ⟨hon'', hsetup, hpc', hpending, hnext⟩ :=
      gnssTurn_accepts (g := { g' with pwrNmeaSetupDone := true }) henv hon' hseen'
    have hsame : Gnss.pending { g' with pwrNmeaSetupDone := true } = g'.pending := rfl
    refine ⟨hon'', ?_, hnext⟩
    simp only [Gnss.stepsLeft, hpc, hpc', hsetup, if_true]
    omega

end Step

/-! ## Runs -/

theorem run_accepts {envs : List GnssEnv} {g : Gnss} (henvs : ∀ env ∈ envs, env.Accepts)
    (hon : g.powerForcedOff = false) (hseen : g.SeenOn envs) :
    (gnssMachine.run g (envs.map .task)).2.stepsLeft ≤ g.stepsLeft - envs.length ∧
      Announces g ((gnssMachine.run g (envs.map .task)).1.flatten,
        (gnssMachine.run g (envs.map .task)).2) := by
  induction envs generalizing g with
  | nil => exact ⟨le_rfl, fun hsent => Or.inl hsent⟩
  | cons env envs ih =>
    have henv := henvs env List.mem_cons_self
    obtain ⟨hon', hleft, hnext⟩ := gnssTaskStep_accepts henv hon hseen
    obtain ⟨hrest, hannounced⟩ := ih (fun env h => henvs env (List.mem_cons_of_mem _ h)) hon' hnext
    constructor
    · simp only [List.map_cons, Machine.run, List.length_cons]
      simp only [gnssMachine] at hrest ⊢
      omega
    · intro hsent
      simp only [List.map_cons, Machine.run, List.flatten_cons, List.mem_append] at hsent ⊢
      rcases hannounced hsent with hmiddle | hlater
      · exact (announces_gnssTaskStep env g hmiddle).imp_right Or.inl
      · exact Or.inr (Or.inr hlater)

theorem stepsLeft_le (g : Gnss) : g.stepsLeft ≤ 8 := by
  have hmissing := List.length_filter_le (fun k => !g.has k) gnssSettings
  have hlength : gnssSettings.length = 5 := rfl
  have hpc : (match g.pc with
      | .top => if g.pwrNmeaSetupDone then 0 else 2
      | .powerOn => 1
      | .stabilized => 0) ≤ 2 := by
    cases g.pc <;> simp
    split <;> simp
  simp only [Gnss.stepsLeft, Gnss.pending]
  split <;> omega

/-- From any state in which the receiver is not switched off, eight steps of the task in which it
accepts what it is told make all the settings and announce the receiver, unless it was announced
before. -/
theorem gnss_configured_in_eight_steps {g : Gnss} (hon : g.powerForcedOff = false)
    {envs : List GnssEnv} (henvs : ∀ env ∈ envs, env.Accepts) (hseen : g.SeenOn envs)
    (hlength : 8 ≤ envs.length) :
    (∀ k, (gnssMachine.run g (envs.map .task)).2.has k = true) ∧
      (g.configuredEventSent = true ∨
        .configured ∈ (gnssMachine.run g (envs.map .task)).1.flatten) := by
  obtain ⟨hleft, hannounced⟩ := run_accepts henvs hon hseen
  have hstart := stepsLeft_le g
  have hzero : (gnssMachine.run g (envs.map .task)).2.pending = 0 := by
    have : (gnssMachine.run g (envs.map .task)).2.pending ≤
        (gnssMachine.run g (envs.map .task)).2.stepsLeft := Nat.le_add_right _ _
    omega
  obtain ⟨hall, hsent⟩ := pending_eq_zero_iff.mp hzero
  exact ⟨hall, hannounced hsent⟩

/-- A receiver that is on, at some time. -/
def willingGnss (uptime : UInt32) : GnssEnv where
  uptime := uptime
  answer _ := .success
  powerStatus := some true
  powerOnReset := true
  networkConnected := false
  networkStable := false
  parsed := none

theorem gnss_configured_in_eight_steps_boot :
    (∀ k, (gnssMachine.run (.setRuntimeDefaults ⟨0, true⟩)
        ((List.replicate 8 (willingGnss 20)).map .task)).2.has k = true) ∧
      ((Gnss.setRuntimeDefaults ⟨0, true⟩).configuredEventSent = true ∨
        .configured ∈ (gnssMachine.run (.setRuntimeDefaults ⟨0, true⟩)
          ((List.replicate 8 (willingGnss 20)).map .task)).1.flatten) := by
  apply gnss_configured_in_eight_steps rfl
  · intro env henv
    rw [List.eq_of_mem_replicate henv]
    exact ⟨fun _ => rfl, rfl⟩
  · refine Or.inr fun env _ => ?_
    simp [Gnss.powerCheckDue, Gnss.setRuntimeDefaults]
  · simp

end WalnutGateway
