import WalnutGateway.Common.Text
import WalnutGateway.Ota.Manager

/-!
# Gating of the update cycles

A cycle that is not forced arms the cooldown when it passes it, and the prerequisites are asked
for once more before the version check. A forced update sets a flag that the end of any cycle
clears, and clears the stamp of the cooldown.
-/

namespace WalnutGateway

/-- What a step is to the gates. -/
inductive OtaStepKind
  /-- The tick ends before a cycle. -/
  | ended
  | advanced
  /-- The cooldown is not looked at. -/
  | bypassed
  | armed
  | opened
  | reached
  | skipped
  | closed
  | accepted
  | refused
  | quiet
  deriving DecidableEq

/-- The tick may go on to the next gate. -/
def Ota.admitted (env : OtaEnv) (o : Ota) : Bool := o.forceActive || o.prerequisitesOk env.stable

/-- The kind of a step. -/
def otaStepKind (o : Ota) (e : OtaEvent) : OtaStepKind :=
  match e with
  | .task env =>
    match o.pc with
    | .start => if o.imeiKnown env then .advanced else .ended
    | .gates => if o.admitted env then .advanced else .ended
    | .cooldown =>
      if o.forceActive then .bypassed else if o.cooldownElapsed then .armed else .ended
    | .session => .opened
    | .dispatch => if o.admitted env then .reached else .skipped
    | .finish _ => .closed
  | .forceUpdate _ => if o.isBusy then .refused else .accepted
  | _ => .quiet

/-- The manager with the cycles and requests of the run. -/
structure OtaRun where
  ota : Ota
  /-- When the latest cycle that was not forced and reached the version check passed the
  cooldown. -/
  lastCheck : Option Nat
  /-- When this tick armed the cooldown. -/
  armedAt : Option Nat
  /-- There was no stamp when this tick armed the cooldown. -/
  unstamped : Bool
  /-- This tick did not look at the cooldown. -/
  bypassed : Bool
  /-- This tick reached the version check so. -/
  served : Bool
  /-- The requests taken since the latest cycle ended, up to the cooldown of this one. -/
  early : Nat
  /-- Those taken after the cooldown of this cycle. -/
  late : Nat

/-- The manager, step by step, with its cycles and requests. -/
def otaRunMachine : Machine OtaRun OtaEvent OtaOutput where
  step r e :=
    let next := otaMachine.step r.ota e
    (next.1,
      match otaStepKind r.ota e with
      | .bypassed => { r with ota := next.2, bypassed := true }
      | .armed =>
        { r with
          ota := next.2
          armedAt := some r.ota.time
          unstamped := r.ota.lastCheckTicks = 0 }
      | .reached =>
        { r with
          ota := next.2
          lastCheck := if r.armedAt.isSome then r.armedAt else r.lastCheck
          served := r.bypassed }
      | .closed =>
        { r with
          ota := next.2
          armedAt := none
          unstamped := false
          bypassed := false
          served := false
          early := 0
          late := 0 }
      | .accepted =>
        if r.ota.pc = .session then { r with ota := next.2, late := r.late + 1 }
        else { r with ota := next.2, early := r.early + 1 }
      | .ended | .advanced | .opened | .skipped | .refused | .quiet => { r with ota := next.2 })

/-! ## What a step does -/

/-- A session is under way. -/
def OtaPc.inSession : OtaPc → Bool
  | .dispatch | .finish _ => true
  | _ => false

/-- What a step of a kind does to the manager. -/
inductive OtaStep (o : Ota) : OtaStepKind → OtaOutput × Ota → Prop
  | ended {output} (hpc : o.pc = .start ∨ o.pc = .gates ∨ o.pc = .cooldown)
    (hforce : o.pc = .start ∨ o.forceActive = false) :
    OtaStep o .ended (output, { o with pc := .start })
  | known {output imei valid} (hpc : o.pc = .start) :
    OtaStep o .advanced (output, { o with imei := imei, imeiValid := valid, pc := .gates })
  | advanced {output} (hpc : o.pc = .gates) :
    OtaStep o .advanced (output, { o with pc := .cooldown })
  | bypassed {output} (hpc : o.pc = .cooldown) (hforce : o.forceActive = true) :
    OtaStep o .bypassed (output, { o with pc := .session })
  | armed {output} (hpc : o.pc = .cooldown) (hforce : o.forceActive = false)
    (helapsed : o.lastCheckTicks = 0 ∨
      otaCheckCooldownMs ≤ (utilsElapsedMsSince o.ticks o.lastCheckTicks).toNat) :
    OtaStep o .armed (output, { o with lastCheckTicks := o.ticks, pc := .session })
  | opened {output} (hpc : o.pc = .session) :
    OtaStep o .opened (output, { o with sessionActive := true, pc := .dispatch })
  | reached {output reason result} (hpc : o.pc = .dispatch) :
    OtaStep o .reached (output, { o with simLastReason := reason, pc := .finish result })
  | skipped {output} (hpc : o.pc = .dispatch) (hforce : o.forceActive = false) :
    OtaStep o .skipped (output, { o with pc := .finish .skipped })
  | closed {output result} (hpc : o.pc = .finish result) :
    OtaStep o .closed
      (output, { o with forceActive := false, sessionActive := false, pc := .start })
  | accepted (hidle : o.isBusy = false) :
    OtaStep o .accepted (.forced .success, { o with forceActive := true, lastCheckTicks := 0 })
  | refused (hbusy : o.isBusy = true) : OtaStep o .refused (.forced .busy, o)
  | quiet {output network gps ms} :
    OtaStep o .quiet (output, { o with
      networkConnected := network
      gpsConfigured := gps
      time := o.time + ms })

theorem contextEnsure_cases (o : Ota) (env : OtaEnv) :
    (o.imeiKnown env = true ∧ ∃ imei valid,
      o.contextEnsure env = (true, { o with imei := imei, imeiValid := valid })) ∨
    (o.imeiKnown env = false ∧ o.contextEnsure env = (false, o)) := by
  unfold Ota.contextEnsure
  split
  · rename_i hvalid
    exact Or.inl ⟨by simp [Ota.imeiKnown, hvalid], _, _, rfl⟩
  · split
    · rename_i hknown
      exact Or.inl ⟨hknown, _, _, rfl⟩
    · rename_i hunknown
      exact Or.inr ⟨by simpa using hunknown, rfl⟩

theorem otaStep_checkAndUpdate (o : Ota) (env : OtaEnv) (hinit : o.initialized = true) :
    OtaStep o (otaStepKind o (.task env)) (o.checkAndUpdate env) := by
  unfold Ota.checkAndUpdate otaStepKind
  have hadmitted : (¬ o.forceActive ∧ ¬ o.prerequisitesOk env.stable) ↔ o.admitted env = false := by
    simp [Ota.admitted]
  cases hpc : o.pc with
  | start =>
    have hsame : { o with pc := .start } = o := by rw [← hpc]
    simp only [hinit, if_true]
    rcases contextEnsure_cases o env with ⟨hknown, imei, valid, hensured⟩ | ⟨hknown, hensured⟩
    · simp only [hknown, hensured, if_true]
      exact .known hpc
    · simp only [hknown, hensured, Bool.false_eq_true, if_false]
      have hended := @OtaStep.ended o (.returned 0) (Or.inl hpc) (Or.inl hpc)
      rw [hsame] at hended
      exact hended
  | gates =>
    simp only [hadmitted]
    cases hgate : o.admitted env with
    | false =>
      rw [Ota.admitted, Bool.or_eq_false_iff] at hgate
      exact .ended (Or.inr (Or.inl hpc)) (Or.inr hgate.1)
    | true => exact .advanced hpc
  | cooldown =>
    dsimp only
    by_cases hforce : o.forceActive = true
    · rw [if_pos hforce, if_pos hforce]
      exact .bypassed hpc hforce
    · rw [if_neg hforce, if_neg hforce]
      rw [Bool.not_eq_true] at hforce
      unfold Ota.checkCooldown
      cases helapsed : o.cooldownElapsed with
      | true => exact .armed hpc hforce (of_decide_eq_true helapsed)
      | false => exact .ended (Or.inr (Or.inr hpc)) (Or.inr hforce)
  | session => exact .opened hpc
  | dispatch =>
    unfold Ota.dispatch
    simp only [hadmitted]
    cases hgate : o.admitted env with
    | false =>
      rw [Ota.admitted, Bool.or_eq_false_iff] at hgate
      exact .skipped hpc hgate.1
    | true =>
      simp only [Bool.true_eq_false, if_false, if_true]
      unfold Ota.runSimcom Ota.processSimcomUpdate
      split
      · exact .reached hpc
      · exact .reached hpc
  | finish result => exact .closed hpc

theorem otaStep (o : Ota) (e : OtaEvent) (hinit : o.initialized = true) :
    OtaStep o (otaStepKind o e) (otaMachine.step o e) := by
  cases e with
  | task env => exact otaStep_checkAndUpdate o env hinit
  | forceUpdate registered =>
    change OtaStep o (if o.isBusy then _ else _) (o.forceUpdate registered)
    unfold Ota.forceUpdate
    dsimp only
    rw [if_pos hinit]
    by_cases hbusy : o.isBusy = true
    · rw [if_pos hbusy, if_pos hbusy]
      exact .refused hbusy
    · rw [if_neg hbusy, if_neg hbusy]
      rw [Bool.not_eq_true] at hbusy
      exact .accepted hbusy
  | networkConnected => exact @OtaStep.quiet o _ _ _ 0
  | networkDisconnected => exact @OtaStep.quiet o _ _ _ 0
  | gpsConfigured => exact @OtaStep.quiet o _ _ _ 0
  | gpsDisconnected => exact @OtaStep.quiet o _ _ _ 0
  | wait ms => exact .quiet

/-! ## What every state of a run keeps -/

/-- The cooldown of the cycle is behind. -/
def OtaPc.gated : OtaPc → Bool
  | .start | .gates | .cooldown => false
  | _ => true

theorem OtaPc.of_not_gated {pc : OtaPc} (h : pc.gated = false) :
    pc.inSession = false ∧ pc ≠ .session ∧ pc ≠ .dispatch ∧ ∀ result, pc ≠ .finish result := by
  cases pc with
  | start | gates | cooldown => simp [inSession]
  | session | dispatch | finish => contradiction

namespace OtaRun

/-- The manager as the boot leaves it. -/
def boot (time : Nat) : OtaRun := ⟨Ota.boot time, none, none, false, false, false, 0, 0⟩

/-- What the flags and the stamp say of the run. -/
structure Sound (r : OtaRun) : Prop where
  initialized : r.ota.initialized = true
  idle : r.ota.stInProgress = false ∧ r.ota.periInProgress = false
  session : r.ota.sessionActive = r.ota.pc.inSession
  force : r.ota.forceActive = decide (0 < r.early + r.late)
  before : r.ota.pc.gated = false → r.late = 0 ∧ r.bypassed = false ∧ r.armedAt = none
  behind : r.ota.pc.gated = true → r.bypassed = decide (0 < r.early)
  armed : r.ota.pc = .session ∨ r.ota.pc = .dispatch → r.armedAt.isSome = !r.bypassed
  unserved : (∀ result, r.ota.pc ≠ .finish result) → r.served = false
  served : ∀ result, r.ota.pc = .finish result → r.served = r.bypassed
  checkPast : ∀ t ∈ r.lastCheck, t ≤ r.ota.time
  armedPast : ∀ a ∈ r.armedAt, a ≤ r.ota.time
  stamp : r.ota.lastCheckTicks ≠ 0 → ∃ s ≤ r.ota.time, r.ota.lastCheckTicks = UInt32.ofNat s ∧
    (∀ t ∈ r.lastCheck, t ≤ s) ∧ ∀ a ∈ r.armedAt, a ≤ s
  spaced : r.ota.pc = .session ∨ r.ota.pc = .dispatch → r.unstamped = false →
    ∀ a ∈ r.armedAt, ∀ t ∈ r.lastCheck, t + otaCheckCooldownMs ≤ a

theorem sound_boot (time : Nat) : (boot time).Sound where
  initialized := rfl
  idle := ⟨rfl, rfl⟩
  session := rfl
  force := rfl
  before := fun _ => ⟨rfl, rfl, rfl⟩
  behind := fun h => nomatch h
  armed := by
    rintro (h | h)
    · exact nomatch h
    · exact nomatch h
  unserved := fun _ => rfl
  served := fun _ h => nomatch h
  checkPast := fun _ h => nomatch h
  armedPast := fun _ h => nomatch h
  stamp := fun h => absurd rfl h
  spaced := fun _ _ _ h => nomatch h

variable {r : OtaRun}

/-- The cooldown has elapsed since the stamp that a run has left. -/
theorem Sound.elapsed (h : r.Sound) (hstamp : r.ota.lastCheckTicks ≠ 0)
    (helapsed : otaCheckCooldownMs ≤
      (utilsElapsedMsSince r.ota.ticks r.ota.lastCheckTicks).toNat) :
    ∀ t ∈ r.lastCheck, t + otaCheckCooldownMs ≤ r.ota.time := by
  intro t ht
  obtain ⟨s, hs, hticks, hcheck, -⟩ := h.stamp hstamp
  have hle := utilsElapsedMsSince_le hs
  have hts := hcheck t ht
  rw [hticks, Ota.ticks] at helapsed
  omega

/-- A step before the cooldown. -/
theorem Sound.moves (h : r.Sound) {imei : CArray 16} {valid : Bool} {pc : OtaPc}
    (hbefore : r.ota.pc.gated = false) (hafter : pc.gated = false) :
    Sound { r with ota := { r.ota with imei := imei, imeiValid := valid, pc := pc } } := by
  obtain ⟨hsession, -, -, hfinish⟩ := OtaPc.of_not_gated hbefore
  obtain ⟨hsession', hstart, hdispatch, hfinish'⟩ := OtaPc.of_not_gated hafter
  have hpassing : ¬ (pc = .session ∨ pc = .dispatch) := by
    rintro (heq | heq)
    · exact hstart heq
    · exact hdispatch heq
  exact { h with
    session := h.session.trans (hsession.trans hsession'.symm)
    before := fun _ => h.before hbefore
    behind := fun hgated => absurd hgated (by simp [hafter])
    armed := fun heq => absurd heq hpassing
    unserved := fun _ => h.unserved hfinish
    served := fun result heq => absurd heq (hfinish' result)
    spaced := fun heq => absurd heq hpassing }

theorem Sound.step (h : r.Sound) (e : OtaEvent) : (otaRunMachine.step r e).2.Sound := by
  have hstep := otaStep r.ota e h.initialized
  simp only [otaRunMachine]
  generalize otaMachine.step r.ota e = next at hstep
  generalize otaStepKind r.ota e = kind at hstep
  cases hstep with
  | ended hpc hforce =>
    apply h.moves _ rfl
    rcases hpc with hpc | hpc | hpc
    all_goals rw [hpc]; rfl
  | known hpc => exact h.moves (by rw [hpc]; rfl) rfl
  | advanced hpc => exact h.moves (by rw [hpc]; rfl) rfl
  | bypassed hpc hforce =>
    obtain ⟨hlate, -, hunarmed⟩ := h.before (by rw [hpc]; rfl)
    have hserved := h.unserved (by rw [hpc]; exact fun _ heq => nomatch heq)
    have hpending : 0 < r.early := by
      have := h.force.symm.trans hforce
      simpa [hlate] using this
    exact { h with
      session := h.session.trans (by rw [hpc]; rfl)
      before := fun heq => nomatch heq
      behind := fun _ => (decide_eq_true hpending).symm
      armed := fun _ => by rw [hunarmed]; rfl
      unserved := fun _ => hserved
      served := fun _ heq => nomatch heq
      spaced := fun _ _ a ha => by rw [hunarmed] at ha; contradiction }
  | armed hpc hforce helapsed =>
    obtain ⟨hlate, hbypassed, hunarmed⟩ := h.before (by rw [hpc]; rfl)
    have hserved := h.unserved (by rw [hpc]; exact fun _ heq => nomatch heq)
    have hnone : r.early = 0 := by
      have := h.force.symm.trans hforce
      simpa [hlate] using this
    exact { h with
      session := h.session.trans (by rw [hpc]; rfl)
      before := fun heq => nomatch heq
      behind := fun _ => by simp [hbypassed, hnone]
      armed := fun _ => by rw [hbypassed]; rfl
      unserved := fun _ => hserved
      served := fun _ heq => nomatch heq
      armedPast := fun a ha => by cases ha; exact le_refl _
      stamp := fun _ => ⟨r.ota.time, le_refl _, rfl, h.checkPast,
        fun a ha => by cases ha; exact le_refl _⟩
      spaced := fun _ hstamped a ha => by
        cases ha
        have hstamp : r.ota.lastCheckTicks ≠ 0 := of_decide_eq_false hstamped
        exact h.elapsed hstamp (helapsed.resolve_left hstamp) }
  | opened hpc =>
    have hserved := h.unserved (by rw [hpc]; exact fun _ heq => nomatch heq)
    exact { h with
      session := rfl
      before := fun heq => nomatch heq
      behind := fun _ => h.behind (by rw [hpc]; rfl)
      armed := fun _ => h.armed (Or.inl hpc)
      unserved := fun _ => hserved
      served := fun _ heq => nomatch heq
      spaced := fun _ => h.spaced (Or.inl hpc) }
  | reached hpc =>
    have hcheck : ∀ t ∈ if r.armedAt.isSome then r.armedAt else r.lastCheck,
        t ∈ r.armedAt ∨ t ∈ r.lastCheck := by
      intro t ht
      split at ht
      · exact Or.inl ht
      · exact Or.inr ht
    exact { h with
      session := h.session.trans (by rw [hpc]; rfl)
      before := fun heq => nomatch heq
      behind := fun _ => h.behind (by rw [hpc]; rfl)
      armed := fun heq => by simp at heq
      unserved := fun heq => absurd rfl (heq _)
      served := fun _ _ => rfl
      checkPast := fun t ht => (hcheck t ht).elim (h.armedPast t) (h.checkPast t)
      stamp := fun hstamp => by
        obtain ⟨s, hs, hticks, hlast, harmed⟩ := h.stamp hstamp
        exact ⟨s, hs, hticks, fun t ht => (hcheck t ht).elim (harmed t) (hlast t), harmed⟩
      spaced := fun heq => by simp at heq }
  | skipped hpc hforce =>
    have hserved := h.unserved (by rw [hpc]; exact fun _ heq => nomatch heq)
    have hbypassed : r.bypassed = false := by
      have hnone := h.force.symm.trans hforce
      rw [decide_eq_false_iff_not] at hnone
      rw [h.behind (by rw [hpc]; rfl), decide_eq_false_iff_not]
      omega
    exact { h with
      session := h.session.trans (by rw [hpc]; rfl)
      before := fun heq => nomatch heq
      behind := fun _ => h.behind (by rw [hpc]; rfl)
      armed := fun heq => by simp at heq
      unserved := fun heq => absurd rfl (heq _)
      served := fun _ _ => hserved.trans hbypassed.symm
      spaced := fun heq => by simp at heq }
  | closed hpc =>
    exact { h with
      session := rfl
      force := rfl
      before := fun _ => ⟨rfl, rfl, rfl⟩
      behind := fun heq => nomatch heq
      armed := fun heq => by simp at heq
      unserved := fun _ => rfl
      served := fun _ heq => nomatch heq
      armedPast := fun a ha => nomatch ha
      stamp := fun hstamp => by
        obtain ⟨s, hs, hticks, hlast, -⟩ := h.stamp hstamp
        exact ⟨s, hs, hticks, hlast, fun a ha => nomatch ha⟩
      spaced := fun heq => by simp at heq }
  | accepted hidle =>
    dsimp only
    split
    · rename_i hpc
      exact { h with
        force := by simp
        before := fun heq => by simp [hpc, OtaPc.gated] at heq
        stamp := fun hstamp => absurd rfl hstamp }
    · rename_i hpc
      have hsession : r.ota.pc.inSession = false := by
        rw [Ota.isBusy, Bool.or_eq_false_iff, Bool.or_eq_false_iff] at hidle
        exact h.session.symm.trans hidle.1.1
      have hgated : r.ota.pc.gated = false := by
        cases hcase : r.ota.pc with
        | session => exact absurd hcase hpc
        | dispatch => rw [hcase] at hsession; contradiction
        | finish result => rw [hcase] at hsession; contradiction
        | _ => rfl
      exact { h with
        force := by simp
        behind := fun heq => absurd heq (by simp [hgated])
        stamp := fun hstamp => absurd rfl hstamp }
  | refused hbusy => exact h
  | quiet =>
    exact { h with
      checkPast := fun t ht => (h.checkPast t ht).trans (Nat.le_add_right _ _)
      armedPast := fun a ha => (h.armedPast a ha).trans (Nat.le_add_right _ _)
      stamp := fun hstamp => by
        obtain ⟨s, hs, hrest⟩ := h.stamp hstamp
        exact ⟨s, hs.trans (Nat.le_add_right _ _), hrest⟩ }

/-! ## The law of the gates -/

/-- Two cycles that reach the version check without being forced are a cooldown apart. -/
def SpacesChecks (r : OtaRun) (e : OtaEvent) : Prop :=
  otaStepKind r.ota e = .reached →
    ∀ a ∈ r.armedAt, ∀ t ∈ r.lastCheck, t + otaCheckCooldownMs ≤ a

/-- A tick that ends, or gives up its cycle, has not armed the cooldown. -/
def ArmsForCheck (r : OtaRun) (e : OtaEvent) : Prop :=
  otaStepKind r.ota e = .ended ∨ otaStepKind r.ota e = .skipped → r.armedAt = none

/-- A cycle that ends has served the request that was taken, if there was one; a request that
waits is served by the first tick with an IMEI; and one made in a session is refused and
changes nothing. -/
def ServesRequests (r : OtaRun) (e : OtaEvent) : Prop :=
  match e with
  | .task env =>
    (otaStepKind r.ota e = .closed → r.early + r.late = r.served.toNat) ∧
      (0 < r.early → otaStepKind r.ota e ≠ .armed ∧ otaStepKind r.ota e ≠ .skipped ∧
        (otaStepKind r.ota e = .ended → r.ota.imeiKnown env = false))
  | .forceUpdate registered =>
    r.ota.pc.inSession = true → r.ota.forceUpdate registered = (.forced .busy, r.ota)
  | _ => True

/-- No session is active between two ticks. -/
def EndsSession (r : OtaRun) (e : OtaEvent) : Prop :=
  (otaMachine.step r.ota e).2.pc = .start → (otaMachine.step r.ota e).2.sessionActive = false

/-- The law of the gates, at a step. -/
structure Gates (r : OtaRun) (e : OtaEvent) : Prop where
  spaces : r.SpacesChecks e
  arms : r.ArmsForCheck e
  serves : r.ServesRequests e
  ends : r.EndsSession e

/-- Where there was no stamp when a cycle passed the cooldown, the one before it is a cooldown
ago; the prerequisites still hold at the dispatch, or a request waits; and a cycle that ends has
had one request at the most, taken before its cooldown. -/
structure Undisturbed (r : OtaRun) (e : OtaEvent) : Prop where
  stamped : otaStepKind r.ota e = .reached → r.unstamped = true →
    ∀ a ∈ r.armedAt, ∀ t ∈ r.lastCheck, t + otaCheckCooldownMs ≤ a
  lasting : otaStepKind r.ota e ≠ .skipped
  single : otaStepKind r.ota e = .closed → r.early ≤ 1 ∧ r.late = 0

/-- What the kind says of the place. -/
theorem pc_of_reached {o : Ota} {e : OtaEvent} (hinit : o.initialized = true)
    (h : otaStepKind o e = .reached) : o.pc = .dispatch := by
  have hstep := otaStep o e hinit
  rw [h] at hstep
  generalize otaMachine.step o e = next at hstep
  cases hstep with
  | reached hpc => exact hpc

theorem pc_of_skipped {o : Ota} {e : OtaEvent} (hinit : o.initialized = true)
    (h : otaStepKind o e = .skipped) : o.pc = .dispatch ∧ o.forceActive = false := by
  have hstep := otaStep o e hinit
  rw [h] at hstep
  generalize otaMachine.step o e = next at hstep
  cases hstep with
  | skipped hpc hforce => exact ⟨hpc, hforce⟩

theorem pc_of_closed {o : Ota} {e : OtaEvent} (hinit : o.initialized = true)
    (h : otaStepKind o e = .closed) : ∃ result, o.pc = .finish result := by
  have hstep := otaStep o e hinit
  rw [h] at hstep
  generalize otaMachine.step o e = next at hstep
  cases hstep with
  | closed hpc => exact ⟨_, hpc⟩

theorem Sound.spacesChecks_iff (h : r.Sound) (e : OtaEvent) :
    r.SpacesChecks e ↔ (otaStepKind r.ota e = .reached → r.unstamped = true →
      ∀ a ∈ r.armedAt, ∀ t ∈ r.lastCheck, t + otaCheckCooldownMs ≤ a) := by
  apply imp_congr_right
  intro hkind
  constructor
  · exact fun hspaced _ => hspaced
  · intro hspaced
    cases hstamped : r.unstamped with
    | true => exact hspaced hstamped
    | false => exact h.spaced (Or.inr (pc_of_reached h.initialized hkind)) hstamped

/-- A cycle without a request has armed the cooldown before it is dispatched. -/
theorem Sound.armed_of_skipped (h : r.Sound) {e : OtaEvent}
    (hkind : otaStepKind r.ota e = .skipped) : r.early = 0 ∧ r.armedAt.isSome = true := by
  obtain ⟨hpc, hforce⟩ := pc_of_skipped h.initialized hkind
  have hnone := h.force.symm.trans hforce
  rw [decide_eq_false_iff_not] at hnone
  have hearly : r.early = 0 := by omega
  have hbypassed : r.bypassed = false := by
    rw [h.behind (by rw [hpc]; rfl), hearly]
    rfl
  refine ⟨hearly, ?_⟩
  rw [h.armed (Or.inr hpc), hbypassed]
  rfl

theorem Sound.armsForCheck_iff (h : r.Sound) (e : OtaEvent) :
    r.ArmsForCheck e ↔ otaStepKind r.ota e ≠ .skipped := by
  constructor
  · intro harms hkind
    have harmed := (h.armed_of_skipped hkind).2
    rw [harms (Or.inr hkind)] at harmed
    contradiction
  · rintro hlasting (hkind | hkind)
    · have hstep := otaStep r.ota e h.initialized
      rw [hkind] at hstep
      generalize otaMachine.step r.ota e = next at hstep
      cases hstep with
      | ended hpc hforce =>
        apply (h.before _).2.2
        rcases hpc with hpc | hpc | hpc
        all_goals rw [hpc]; rfl
    · exact absurd hkind hlasting

/-- A request that waits gets the tick past its gates. -/
theorem Sound.served_first (h : r.Sound) (env : OtaEnv) (hwaits : 0 < r.early) :
    otaStepKind r.ota (.task env) ≠ .armed ∧ otaStepKind r.ota (.task env) ≠ .skipped ∧
      (otaStepKind r.ota (.task env) = .ended → r.ota.imeiKnown env = false) := by
  have hforce : r.ota.forceActive = true := by
    rw [h.force, decide_eq_true_iff]
    omega
  have hadmitted : r.ota.admitted env = true := by rw [Ota.admitted, hforce, Bool.true_or]
  unfold otaStepKind
  cases r.ota.pc with
  | start =>
    dsimp only
    split
    · simp
    · rename_i hunknown
      simpa using hunknown
  | _ => simp [hforce, hadmitted]

theorem Sound.refuses (h : r.Sound) (registered : Bool) (hsession : r.ota.pc.inSession = true) :
    r.ota.forceUpdate registered = (.forced .busy, r.ota) := by
  have hbusy : r.ota.isBusy = true := by
    rw [Ota.isBusy, h.session, hsession, Bool.true_or, Bool.true_or]
  unfold Ota.forceUpdate
  dsimp only
  rw [if_pos h.initialized, if_pos hbusy]

/-- The cycle that ends has served the requests if there was one at the most, in time. -/
theorem Sound.served_iff (h : r.Sound) {result : OtaResult} (hpc : r.ota.pc = .finish result) :
    r.early + r.late = r.served.toNat ↔ r.early ≤ 1 ∧ r.late = 0 := by
  rw [h.served result hpc, h.behind (by rw [hpc]; rfl)]
  by_cases hwaits : 0 < r.early
  · rw [decide_eq_true hwaits, Bool.toNat_true]
    omega
  · rw [decide_eq_false hwaits, Bool.toNat_false]
    omega

theorem Sound.servesRequests_iff (h : r.Sound) (e : OtaEvent) :
    r.ServesRequests e ↔ (otaStepKind r.ota e = .closed → r.early ≤ 1 ∧ r.late = 0) := by
  have hclosed : (otaStepKind r.ota e = .closed → r.early + r.late = r.served.toNat) ↔
      (otaStepKind r.ota e = .closed → r.early ≤ 1 ∧ r.late = 0) := by
    apply imp_congr_right
    intro hkind
    obtain ⟨result, hpc⟩ := pc_of_closed h.initialized hkind
    exact h.served_iff hpc
  rw [← hclosed]
  cases e with
  | task env => exact and_iff_left (h.served_first env)
  | forceUpdate registered =>
    have hkind : otaStepKind r.ota (.forceUpdate registered) ≠ .closed := by
      change (if r.ota.isBusy then OtaStepKind.refused else .accepted) ≠ .closed
      split
      · simp
      · simp
    exact ⟨fun _ heq => absurd heq hkind, fun _ => h.refuses registered⟩
  | _ => exact ⟨fun _ heq => by simp [otaStepKind] at heq, fun _ => True.intro⟩

theorem Sound.endsSession (h : r.Sound) (e : OtaEvent) : r.EndsSession e := by
  intro hpc
  have hnext := (h.step e).session
  have hota : (otaRunMachine.step r e).2.ota = (otaMachine.step r.ota e).2 := by
    simp only [otaRunMachine]
    split
    all_goals try rfl
    split
    · rfl
    · rfl
  rw [hota, hpc] at hnext
  exact hnext

theorem Sound.gates_iff (h : r.Sound) (e : OtaEvent) : r.Gates e ↔ r.Undisturbed e := by
  constructor
  · rintro ⟨hspaces, harms, hserves, -⟩
    exact ⟨(h.spacesChecks_iff e).mp hspaces, (h.armsForCheck_iff e).mp harms,
      (h.servesRequests_iff e).mp hserves⟩
  · rintro ⟨hstamped, hlasting, hsingle⟩
    exact ⟨(h.spacesChecks_iff e).mpr hstamped, (h.armsForCheck_iff e).mpr hlasting,
      (h.servesRequests_iff e).mpr hsingle, h.endsSession e⟩

/-- A run keeps the law of the gates if and only if no cycle follows within a cooldown of one
whose stamp is gone, no prerequisite is lost between the gates and the dispatch, and every
cycle has at most one request, taken before its cooldown. -/
theorem ota_gates_iff (time : Nat) (es : List OtaEvent) :
    otaRunMachine.Along Gates (boot time) es ↔ otaRunMachine.Along Undisturbed (boot time) es := by
  apply otaRunMachine.along_congr (I := Sound)
  · exact fun r e h _ => h.step e
  · exact fun r e h => h.gates_iff e
  · exact sound_boot time

instance (r : OtaRun) (e : OtaEvent) : Decidable (r.SpacesChecks e) :=
  inferInstanceAs (Decidable (_ → _))

instance (r : OtaRun) (e : OtaEvent) : Decidable (r.ArmsForCheck e) :=
  inferInstanceAs (Decidable (_ → _))

/-- What a tick finds where everything is well and there is no update. -/
def calm : OtaEnv := ⟨true, some (asciiBytes "123456789012345"), true, 0, 0⟩

/-- A tick with a cycle. -/
def cycle : List OtaEvent := List.replicate 6 (.task calm)

/-- A forced cycle makes the next one follow at once, and a connection that is lost between the
cooldown and the dispatch leaves the cooldown armed. -/
theorem gates_fail :
    (¬ ∀ time es, otaRunMachine.Along Gates (boot time) es) ∧
    (¬ ∀ time es, otaRunMachine.Along SpacesChecks (boot time) es) ∧
    ¬ ∀ time es, otaRunMachine.Along ArmsForCheck (boot time) es := by
  have hspaces : ¬ ∀ time es, otaRunMachine.Along SpacesChecks (boot time) es := by
    intro h
    have hrun := h 1000 ([.networkConnected, .gpsConfigured] ++ cycle ++ [.forceUpdate true] ++
      cycle ++ cycle)
    revert hrun
    decide +kernel
  have harms : ¬ ∀ time es, otaRunMachine.Along ArmsForCheck (boot time) es := by
    intro h
    have hrun := h 1000 [.networkConnected, .gpsConfigured, .task calm, .task calm, .task calm,
      .networkDisconnected, .task calm, .task calm]
    revert hrun
    decide +kernel
  refine ⟨fun h => ?_, hspaces, harms⟩
  exact harms fun time es => (h time es).mono fun r e hgates => hgates.arms

end OtaRun

end WalnutGateway
