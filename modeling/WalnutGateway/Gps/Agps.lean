import WalnutGateway.Gps.BringUp

/-!
# When A-GPS is opened

Opening A-GPS is tried again ten minutes after a failure and, without a fix, four hours after a
success; where it is not supported it is not tried again.
-/

namespace WalnutGateway

/-- The answer to opening A-GPS, if it is among the outputs. -/
def agpsAnswer (os : List GnssOutput) : Option ModemResult :=
  os.findSome? fun
    | .called .openAgpsService answer => some answer
    | _ => none

/-- The bring-up, with the clock, the last time that A-GPS was opened with the answer, and whether
it ever succeeded. -/
structure AgpsRun where
  gnss : Gnss
  now : UInt32
  last : Option (UInt32 × ModemResult)
  succeeded : Bool

/-- What a step adds. -/
def AgpsRun.note (env : GnssEnv) (r : AgpsRun) (p : List GnssOutput × Gnss) : AgpsRun where
  gnss := p.2
  now := env.uptime
  last := match agpsAnswer p.1 with
    | some answer => some (env.uptime, answer)
    | none => r.last
  succeeded := r.succeeded || agpsAnswer p.1 = some .success

/-- The bring-up with these. -/
def agpsMachine : Machine AgpsRun GnssOp (List GnssOutput) where
  step r
    | .task env => ((gnssTaskStep env r.gnss).1, r.note env (gnssTaskStep env r.gnss))
    | .setPowerEnabled on answer =>
      ((gnssMachine.step r.gnss (.setPowerEnabled on answer)).1,
        { r with gnss := (gnssMachine.step r.gnss (.setPowerEnabled on answer)).2 })
    | .setConfig config =>
      ([], { r with gnss := (gnssMachine.step r.gnss (.setConfig config)).2 })

/-- At start. -/
def AgpsRun.start (config : GnssConfig) : AgpsRun := ⟨.setRuntimeDefaults config, 0, none, false⟩

/-- The clock has begun to count and does not go back. -/
def ClockRuns (r : AgpsRun) : GnssOp → Prop
  | .task env => 0 < env.uptime ∧ r.now ≤ env.uptime
  | _ => True

instance ClockRuns.decidable (r : AgpsRun) : (op : GnssOp) → Decidable (ClockRuns r op)
  | .task _ => inferInstanceAs (Decidable (_ ∧ _))
  | .setPowerEnabled _ _ => isTrue trivial
  | .setConfig _ => isTrue trivial

/-- A-GPS may be opened at some time after the last time. -/
def AgpsRun.PacedAt (r : AgpsRun) (uptime : UInt32) : Prop :=
  ∀ time answer, r.last = some (time, answer) →
    match answer with
    | .failed => gpsAgpsFailCooldownSec ≤ uptime - time
    | .success => gpsAgpsValiditySec ≤ uptime - time
    | .notSupported => r.succeeded = true

/-- Where A-GPS is opened, it is wanted, there is a network, and it is time. -/
def OpensInTime (r : AgpsRun) : GnssOp → Prop
  | .task env => agpsAnswer (gnssTaskStep env r.gnss).1 ≠ none →
      r.gnss.config.enableAgps = true ∧ env.networkConnected = true ∧ env.networkStable = true ∧
        r.PacedAt env.uptime
  | _ => True

/-! ## What a step does to A-GPS -/

/-- Two states have the same configuration and the same A-GPS. -/
structure SameAgps (g g' : Gnss) : Prop where
  config : g'.config = g.config
  agpsSet : g'.agpsSet = g.agpsSet
  lastOpen : g'.lastAgpsOpenTime = g.lastAgpsOpenTime
  lastAttempt : g'.lastAgpsOpenAttemptTime = g.lastAgpsOpenAttemptTime

theorem SameAgps.trans {g g' g'' : Gnss} (h : SameAgps g g') (h' : SameAgps g' g'') :
    SameAgps g g'' :=
  ⟨h'.config.trans h.config, h'.agpsSet.trans h.agpsSet, h'.lastOpen.trans h.lastOpen,
    h'.lastAttempt.trans h.lastAttempt⟩

theorem sameAgps_make (k : GnssSetting) (g : Gnss) : SameAgps g (g.make k) := by
  cases k <;> exact ⟨rfl, rfl, rfl, rfl⟩

theorem agpsAnswer_append (os os' : List GnssOutput) :
    agpsAnswer (os ++ os') = (agpsAnswer os).or (agpsAnswer os') := List.findSome?_append

theorem agpsAnswer_setting {call : GnssCall} {k : GnssSetting} (h : call.setting = some k)
    (answer : ModemResult) : agpsAnswer [.called call answer] = none := by
  cases call <;> simp_all [agpsAnswer, GnssCall.setting]

/-- What the other parts of a turn do. -/
structure LeavesAgps (g : Gnss) (p : List GnssOutput × Gnss) : Prop where
  answer : agpsAnswer p.1 = none
  same : SameAgps g p.2

theorem leavesAgps_configureNmeaOutput (env : GnssEnv) (g : Gnss) :
    LeavesAgps g (gpsOpsConfigureNmeaOutput env g).2 := by
  rcases gpsOpsConfigureNmeaOutput_cases env g with ⟨-, hstep⟩ | ⟨call, hcall, -, hstep⟩
  · rw [hstep]
    exact ⟨rfl, ⟨rfl, rfl, rfl, rfl⟩⟩
  · rw [hstep]
    refine ⟨agpsAnswer_setting hcall _, ?_⟩
    dsimp only
    split
    · exact sameAgps_make _ _
    · exact ⟨rfl, rfl, rfl, rfl⟩

theorem leavesAgps_retryConfiguration (env : GnssEnv) (g : Gnss) :
    LeavesAgps g (gpsOpsRetryConfiguration env g) := by
  unfold gpsOpsRetryConfiguration
  by_cases hon : g.powerForcedOff = true
  · rw [if_pos hon]
    exact ⟨rfl, ⟨rfl, rfl, rfl, rfl⟩⟩
  rw [if_neg hon]
  by_cases hall : g.allConfigured = true
  · rw [if_pos hall]
    split
    · exact ⟨by simp [agpsAnswer], ⟨rfl, rfl, rfl, rfl⟩⟩
    · exact ⟨rfl, ⟨rfl, rfl, rfl, rfl⟩⟩
  · rw [if_neg hall]
    obtain ⟨power, uptime, hframe⟩ := gpsOpsCanProceedConfig_frame env g
    have hsame : SameAgps g (gpsOpsCanProceedConfig env g).2 := by
      rw [hframe]
      exact ⟨rfl, rfl, rfl, rfl⟩
    dsimp only
    split
    · exact ⟨rfl, hsame⟩
    · have hall' : (gpsOpsCanProceedConfig env g).2.allConfigured = false := by
        rw [hframe]
        exact Bool.eq_false_of_not_eq_true hall
      obtain ⟨call, k, hcall, -, -, hstep⟩ := gpsOpsConfigStep_cases env hall'
      rw [hstep]
      refine ⟨agpsAnswer_setting hcall _, ?_⟩
      dsimp only
      split
      · exact hsame.trans (sameAgps_make k _)
      · exact hsame

/-- A step of the task leaves A-GPS alone, or opens it if that is due and then looks whether it
has to be opened again. -/
theorem gnssTaskStep_agps (env : GnssEnv) (g : Gnss) :
    LeavesAgps g (gnssTaskStep env g) ∨
      ∃ g', SameAgps g g' ∧
        agpsAnswer (gnssTaskStep env g).1 = agpsAnswer (gpsOpsOpenAgpsIfNeeded env g').1 ∧
        SameAgps (gpsOpsAgpsRefreshIfNeeded env (gpsOpsOpenAgpsIfNeeded env g').2)
          (gnssTaskStep env g).2 := by
  have hturn {g : Gnss} : ∃ g', SameAgps g g' ∧
      agpsAnswer (gnssTurn env g).1 = agpsAnswer (gpsOpsOpenAgpsIfNeeded env g').1 ∧
      SameAgps (gpsOpsAgpsRefreshIfNeeded env (gpsOpsOpenAgpsIfNeeded env g').2)
        (gnssTurn env g).2 := by
    obtain ⟨hanswer, hsame⟩ := leavesAgps_retryConfiguration env g
    refine ⟨_, hsame, ?_, ⟨rfl, rfl, rfl, rfl⟩⟩
    simp only [gnssTurn, andThen, List.append_nil]
    rw [agpsAnswer_append, hanswer, Option.none_or]
  unfold gnssTaskStep
  cases g.pc with
  | top =>
    dsimp only
    split
    · exact Or.inr hturn
    · exact Or.inl ⟨rfl, ⟨rfl, rfl, rfl, rfl⟩⟩
  | powerOn =>
    simp only [andThen]
    split
    · obtain ⟨g', hsame, hanswer, hnext⟩ := hturn (g := g)
      refine Or.inr ⟨g', hsame, ?_, hnext⟩
      rw [agpsAnswer_append, hanswer]
      exact Option.none_or
    · exact Or.inl ⟨by simp [agpsAnswer], ⟨rfl, rfl, rfl, rfl⟩⟩
  | stabilized =>
    obtain ⟨hconfigure, hconfigured⟩ := leavesAgps_configureNmeaOutput env g
    simp only [andThen]
    obtain ⟨g', hsame, hanswer, hnext⟩ := hturn
      (g := if (gpsOpsConfigureNmeaOutput env g).1 = true then
        { (gpsOpsConfigureNmeaOutput env g).2.2 with pwrNmeaSetupDone := true }
        else (gpsOpsConfigureNmeaOutput env g).2.2)
    refine Or.inr ⟨g', ?_, ?_, hnext⟩
    · refine hconfigured.trans (SameAgps.trans ?_ hsame)
      split <;> exact ⟨rfl, rfl, rfl, rfl⟩
    · rw [agpsAnswer_append, hconfigure, Option.none_or, hanswer]

/-! ## The invariant -/

/-- The clocks of the bring-up are those of the run. -/
structure AgpsRun.Clocked (r : AgpsRun) : Prop where
  failed : ∀ time, r.last = some (time, .failed) →
    r.gnss.lastAgpsOpenAttemptTime = time ∧ time ≠ 0
  success : ∀ time, r.last = some (time, .success) →
    r.gnss.lastAgpsOpenTime = time ∧ time ≤ r.now ∧
      (r.gnss.agpsSet = false → gpsAgpsValiditySec ≤ r.now - time)
  notSupported : ∀ time, r.last = some (time, .notSupported) → r.succeeded = false →
    r.gnss.agpsSet = true
  never : r.succeeded = false → r.gnss.lastAgpsOpenTime = 0

theorem elapsed_mono {a b c t : UInt32} (htb : t ≤ b) (hbc : b ≤ c) (h : a ≤ b - t) :
    a ≤ c - t := by
  rw [UInt32.le_iff_toNat_le] at *
  rw [UInt32.toNat_sub_of_le _ _ (UInt32.le_iff_toNat_le.mpr htb)] at h
  rw [UInt32.toNat_sub_of_le _ _ (UInt32.le_iff_toNat_le.mpr (htb.trans hbc))]
  omega

/-- Looking whether A-GPS has to be opened again moves no clock. -/
structure Refreshed (uptime : UInt32) (g g' : Gnss) : Prop where
  lastOpen : g'.lastAgpsOpenTime = g.lastAgpsOpenTime
  lastAttempt : g'.lastAgpsOpenAttemptTime = g.lastAgpsOpenAttemptTime
  agpsSet : g'.agpsSet = g.agpsSet ∨
    g'.agpsSet = false ∧ g.lastAgpsOpenTime ≠ 0 ∧ gpsAgpsValiditySec ≤ uptime - g.lastAgpsOpenTime

theorem refreshed_gpsOpsAgpsRefreshIfNeeded (env : GnssEnv) (g : Gnss) :
    Refreshed env.uptime g (gpsOpsAgpsRefreshIfNeeded env g) := by
  unfold gpsOpsAgpsRefreshIfNeeded
  split_ifs with _ _ hzero hvalid
  · exact ⟨rfl, rfl, Or.inl rfl⟩
  · exact ⟨rfl, rfl, Or.inl rfl⟩
  · exact ⟨rfl, rfl, Or.inl rfl⟩
  · exact ⟨rfl, rfl, Or.inl rfl⟩
  · exact ⟨rfl, rfl, Or.inr ⟨rfl, hzero, UInt32.not_lt.mp hvalid⟩⟩

theorem Refreshed.trans {uptime : UInt32} {g g' g'' : Gnss} (h : Refreshed uptime g g')
    (h' : SameAgps g' g'') : Refreshed uptime g g'' :=
  ⟨h'.lastOpen.trans h.lastOpen, h'.lastAttempt.trans h.lastAttempt, h'.agpsSet ▸ h.agpsSet⟩

theorem agpsDue_iff {env : GnssEnv} {g : Gnss} (h : g.agpsDue env = true) :
    g.config.enableAgps = true ∧ env.networkConnected = true ∧ env.networkStable = true ∧
      g.agpsSet = false ∧ (g.lastAgpsOpenAttemptTime ≠ 0 →
        gpsAgpsFailCooldownSec ≤ env.uptime - g.lastAgpsOpenAttemptTime) := by
  simp only [Gnss.agpsDue, Bool.and_eq_true, Bool.not_eq_true', decide_eq_false_iff_not] at h
  obtain ⟨⟨⟨⟨⟨hwanted, hconnected⟩, hstable⟩, -⟩, hset⟩, hcooldown⟩ := h
  exact ⟨hwanted, hconnected, hstable, hset,
    fun hne => UInt32.not_lt.mp fun hlt => hcooldown ⟨hne, hlt⟩⟩

namespace AgpsRun.Clocked

variable {r : AgpsRun} {env : GnssEnv}

/-- While A-GPS is not opened, the clocks go on. -/
theorem waits (h : r.Clocked) (hnow : r.now ≤ env.uptime) {next : Gnss}
    (hnext : Refreshed env.uptime r.gnss next) :
    Clocked { r with gnss := next, now := env.uptime } where
  failed time hlast := by
    rw [hnext.lastAttempt]
    exact h.failed time hlast
  success time hlast := by
    obtain ⟨htime, hle, hvalid⟩ := h.success time hlast
    refine ⟨hnext.lastOpen.trans htime, UInt32.le_trans hle hnow, fun hclear => ?_⟩
    rcases hnext.agpsSet with hset | ⟨-, -, hset⟩
    · exact elapsed_mono hle hnow (hvalid (hset.symm.trans hclear))
    · exact htime ▸ hset
  notSupported time hlast hnever := by
    rcases hnext.agpsSet with hset | ⟨-, hset, -⟩
    · exact hset.trans (h.notSupported time hlast hnever)
    · exact absurd (h.never hnever) hset
  never hnever := hnext.lastOpen.trans (h.never hnever)

/-- When A-GPS is opened, its clocks are those of now. -/
theorem opened (h : r.Clocked) (hpos : 0 < env.uptime) {g next : Gnss}
    (hsame : SameAgps r.gnss g) (hdue : g.agpsDue env = true)
    (hnext : Refreshed env.uptime (gpsOpsOpenAgpsIfNeeded env g).2 next) :
    Clocked ⟨next, env.uptime, some (env.uptime, env.answer .openAgpsService),
      r.succeeded || env.answer .openAgpsService = .success⟩ := by
  have hset := (agpsDue_iff hdue).2.2.2.1
  obtain ⟨hlastOpen, hlastAttempt, hnextSet⟩ := hnext
  unfold gpsOpsOpenAgpsIfNeeded at hlastOpen hlastAttempt hnextSet
  rw [if_neg (not_not.mpr hdue)] at hlastOpen hlastAttempt hnextSet
  cases hanswer : env.answer .openAgpsService with
  | success =>
    simp only [hanswer, if_true] at hlastOpen hnextSet
    refine ⟨by simp, fun time hlast => ?_, by simp, by simp⟩
    obtain rfl : env.uptime = time := congrArg Prod.fst (Option.some.inj hlast)
    refine ⟨hlastOpen, UInt32.le_refl _, fun hclear => ?_⟩
    rcases hnextSet with hkept | ⟨-, -, hvalid⟩
    · simp [hkept] at hclear
    · simp [gpsAgpsValiditySec] at hvalid
  | notSupported =>
    simp only [hanswer, reduceCtorEq, if_false, if_true] at hlastOpen hnextSet
    rw [hsame.lastOpen] at hlastOpen hnextSet
    refine ⟨by simp, by simp, fun time _ hnever => ?_, fun hnever => ?_⟩
    · have hzero := h.never (by simpa using hnever)
      exact hnextSet.resolve_right fun hclear => hclear.2.1 hzero
    · exact hlastOpen.trans (h.never (by simpa using hnever))
  | failed =>
    simp only [hanswer, reduceCtorEq, if_false] at hlastOpen hlastAttempt
    refine ⟨fun time hlast => ?_, by simp, by simp, fun hnever => ?_⟩
    · obtain rfl : env.uptime = time := congrArg Prod.fst (Option.some.inj hlast)
      exact ⟨hlastAttempt, fun hzero => by simp [hzero] at hpos⟩
    · rw [hlastOpen, hsame.lastOpen]
      exact h.never (by simpa using hnever)

/-- A-GPS is opened only when it is time. -/
theorem paced (h : r.Clocked) (hnow : r.now ≤ env.uptime) {g : Gnss} (hsame : SameAgps r.gnss g)
    (hdue : g.agpsDue env = true) : r.PacedAt env.uptime := by
  obtain ⟨-, -, -, hset, hcooldown⟩ := agpsDue_iff hdue
  rw [hsame.agpsSet] at hset
  rw [hsame.lastAttempt] at hcooldown
  intro time answer hlast
  cases answer with
  | failed =>
    obtain ⟨rfl, hne⟩ := h.failed time hlast
    exact hcooldown hne
  | success =>
    obtain ⟨-, hle, hvalid⟩ := h.success time hlast
    exact elapsed_mono hle hnow (hvalid hset)
  | notSupported =>
    refine Bool.eq_true_of_not_eq_false fun hnever => ?_
    exact Bool.false_ne_true (hset.symm.trans (h.notSupported time hlast hnever))

theorem task (h : r.Clocked) (hpos : 0 < env.uptime) (hnow : r.now ≤ env.uptime) :
    (r.note env (gnssTaskStep env r.gnss)).Clocked ∧ OpensInTime r (.task env) := by
  have hleaves {p : List GnssOutput × Gnss} (hanswer : agpsAnswer p.1 = none)
      (hnext : Refreshed env.uptime r.gnss p.2) : (r.note env p).Clocked := by
    have hwaits := h.waits hnow hnext
    simpa [AgpsRun.note, hanswer] using hwaits
  rcases gnssTaskStep_agps env r.gnss with ⟨hanswer, hsame⟩ | ⟨g, hsame, hanswer, hnext⟩
  · refine ⟨hleaves hanswer ⟨hsame.lastOpen, hsame.lastAttempt, Or.inl hsame.agpsSet⟩, ?_⟩
    exact fun hopens => absurd hanswer hopens
  · have hrefreshed := (refreshed_gpsOpsAgpsRefreshIfNeeded env _).trans hnext
    by_cases hdue : g.agpsDue env = true
    · have hopen : agpsAnswer (gpsOpsOpenAgpsIfNeeded env g).1 =
          some (env.answer .openAgpsService) := by
        simp [gpsOpsOpenAgpsIfNeeded, hdue, agpsAnswer]
      refine ⟨?_, fun _ => ?_⟩
      · have hopened := h.opened hpos hsame hdue hrefreshed
        simpa [AgpsRun.note, hanswer, hopen] using hopened
      · obtain ⟨hwanted, hconnected, hstable, -⟩ := agpsDue_iff hdue
        exact ⟨hsame.config ▸ hwanted, hconnected, hstable, h.paced hnow hsame hdue⟩
    · have hopen : gpsOpsOpenAgpsIfNeeded env g = ([], g) := by
        simp [gpsOpsOpenAgpsIfNeeded, hdue]
      rw [hopen] at hanswer hrefreshed
      refine ⟨hleaves hanswer ?_, fun hopens => absurd hanswer hopens⟩
      obtain ⟨hlastOpen, hlastAttempt, hset⟩ := hrefreshed
      rw [hsame.lastOpen] at hlastOpen hset
      rw [hsame.agpsSet] at hset
      exact ⟨hlastOpen, hlastAttempt.trans hsame.lastAttempt, hset⟩

/-- The commands and a new configuration move no clock. -/
theorem kept (h : r.Clocked) {next : Gnss} (hset : next.agpsSet = r.gnss.agpsSet)
    (hopen : next.lastAgpsOpenTime = r.gnss.lastAgpsOpenTime)
    (hattempt : next.lastAgpsOpenAttemptTime = r.gnss.lastAgpsOpenAttemptTime) :
    Clocked { r with gnss := next } where
  failed := hattempt ▸ h.failed
  success := by
    rw [hopen, hset]
    exact h.success
  notSupported := hset ▸ h.notSupported
  never := hopen ▸ h.never

theorem step (h : r.Clocked) {op : GnssOp} (hclock : ClockRuns r op) :
    (agpsMachine.step r op).2.Clocked ∧ OpensInTime r op := by
  cases op with
  | task env => exact h.task hclock.1 hclock.2
  | setPowerEnabled on answer =>
    refine ⟨?_, trivial⟩
    simp only [agpsMachine, gnssMachine, gpsOpsSetPowerEnabled]
    split_ifs <;> exact h.kept rfl rfl rfl
  | setConfig config => exact ⟨h.kept rfl rfl rfl, trivial⟩

end AgpsRun.Clocked

theorem clocked_start (config : GnssConfig) : (AgpsRun.start config).Clocked where
  failed := by simp [AgpsRun.start]
  success := by simp [AgpsRun.start]
  notSupported := by simp [AgpsRun.start]
  never _ := rfl

/-- A-GPS is opened only where it is wanted and there is a stable network, at least ten minutes
after it failed, at least four hours after it succeeded, and, unless it succeeded before, never
after the receiver said that it does not support it. -/
theorem agps_paced (config : GnssConfig) {ops : List GnssOp}
    (h : agpsMachine.Along ClockRuns (.start config) ops) :
    agpsMachine.Along OpensInTime (.start config) ops :=
  h.mono_of_invariant (I := AgpsRun.Clocked) (fun _ _ hr hclock => (hr.step hclock).1)
    (fun _ _ hr hclock => (hr.step hclock).2) (clocked_start config)

/-- The receiver accepts everything but A-GPS, which fails. -/
def agpsFails (uptime : UInt32) : GnssOp :=
  .task ⟨uptime, fun call => if call = .openAgpsService then .failed else .success, some true, true,
    true, true, some false⟩

/-- Nine steps on end, and three more ten minutes later. -/
def agpsFailing : List GnssOp := [1, 2, 3, 4, 5, 6, 7, 8, 9, 605, 606, 607].map agpsFails

theorem agps_paced_failing : agpsMachine.Along OpensInTime (.start ⟨0, true⟩) agpsFailing :=
  agps_paced ⟨0, true⟩ (by decide +kernel)

/-- A-GPS is tried when the start mode is set, and again when ten minutes have passed. -/
example : (agpsMachine.run (.start ⟨0, true⟩) agpsFailing).1.map agpsAnswer =
    [none, none, none, none, some .failed, none, none, none, none, some .failed, none, none] := by
  decide +kernel

end WalnutGateway
