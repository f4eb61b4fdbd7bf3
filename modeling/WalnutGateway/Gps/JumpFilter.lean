import WalnutGateway.Gps.LastValid

/-!
# The filter for implausible jumps

A sample that would need an implausible speed from the last valid record is replaced by that
record, up to a streak; the sample that completes the streak is accepted as a relocation. The
streak is the filter's, but the record is only written when a packet is built. So the filter
recovers from a relocation if a packet follows before the next sample.
-/

namespace WalnutGateway

deriving instance DecidableEq for GpsPacket

/-- Position and time: what the filter looks at. -/
def GpsPacket.place (p : GpsPacket) : (ℚ × ℚ) × UInt32 := (p.position, p.utcTime)

/-- The coordinates can be used. -/
def GpsPacket.Located (p : GpsPacket) : Prop :=
  gpsValidateCoordinates p.latitudeDeg p.longitudeDeg = true

instance (p : GpsPacket) : Decidable p.Located := inferInstanceAs (Decidable (_ = _))

/-- The speed in km/h that a sample implies from an earlier position. -/
def impliedSpeedKmh (distance : ℚ → ℚ → ℚ → ℚ → ℚ) (origin out : GpsPacket) : ℚ :=
  distance origin.latitudeDeg origin.longitudeDeg out.latitudeDeg out.longitudeDeg * (36 / 10) /
    (max (out.utcTime - origin.utcTime) gpsImplausibleSpeedMinDtSec).toNat

/-- The sample jumps from the last valid record. -/
def Gps.Jumps (env : GpsEnv) (g : Gps) (out : GpsPacket) : Prop :=
  g.lastValidGpsData.Meaningful ∧ gpsOpsIsValidUtc out.utcTime = true ∧
    gpsOpsIsValidUtc g.lastValidGpsData.utcTime = true ∧
    g.lastValidGpsData.utcTime < out.utcTime ∧
    gpsImplausibleSpeedKmhMax < impliedSpeedKmh env.distance g.lastValidGpsData out

instance (env : GpsEnv) (g : Gps) (out : GpsPacket) : Decidable (g.Jumps env out) :=
  inferInstanceAs (Decidable (_ ∧ _))

/-- The filter in terms of jumps. -/
theorem gpsOpsFilterImplausibleJump_eq (env : GpsEnv) (g : Gps) (out : GpsPacket) :
    gpsOpsFilterImplausibleJump env g out =
      if ¬ out.Located then (out, g.implausibleSpeedStreak)
      else if ¬ g.Jumps env out then (out, 0)
      else if g.implausibleSpeedStreak + 1 < gpsImplausibleSpeedStreakAccept then
        ({ g.lastValidGpsData with utcTime := out.utcTime }, g.implausibleSpeedStreak + 1)
      else (out, 0) := by
  unfold gpsOpsFilterImplausibleJump Gps.jumpFilterReference
  by_cases hcoords : out.Located
  · rw [if_neg (not_not.mpr hcoords)]
    refine (if_neg (not_not.mpr hcoords)).trans ?_
    by_cases hmeaningful : g.lastValidGpsData.Meaningful
    · rw [if_pos hmeaningful]
      dsimp only
      by_cases htimes : ¬ gpsOpsIsValidUtc out.utcTime = true ∨
          ¬ gpsOpsIsValidUtc g.lastValidGpsData.utcTime = true
      · rw [if_pos htimes, if_pos]
        rintro ⟨-, hout, href, -⟩
        exact htimes.elim (fun h => h hout) fun h => h href
      · rw [if_neg htimes]
        rw [not_or, not_not, not_not] at htimes
        by_cases hlater : out.utcTime ≤ g.lastValidGpsData.utcTime
        · rw [if_pos hlater, if_pos]
          rintro ⟨-, -, -, hlt, -⟩
          exact absurd hlater (UInt32.not_le.mpr hlt)
        · rw [if_neg hlater]
          by_cases hslow : impliedSpeedKmh env.distance g.lastValidGpsData out ≤
              gpsImplausibleSpeedKmhMax
          · refine (if_pos hslow).trans ?_
            rw [if_pos]
            exact fun h => absurd hslow (not_le.mpr h.2.2.2.2)
          · refine (if_neg hslow).trans ?_
            have hjumps : g.Jumps env out :=
              ⟨hmeaningful, htimes.1, htimes.2, UInt32.not_le.mp hlater, not_le.mp hslow⟩
            rw [if_neg (not_not.mpr hjumps)]
    · rw [if_neg hmeaningful, if_pos]
      exact fun h => hmeaningful h.1
  · rw [if_pos hcoords]
    exact if_pos hcoords

/-- What the filter does with a sample, and with its streak. -/
inductive FilterOutcome (env : GpsEnv) (g : Gps) (out : GpsPacket) : GpsPacket × UInt32 → Prop
  | nowhere (h : ¬ out.Located) : FilterOutcome env g out (out, g.implausibleSpeedStreak)
  | steady (hlocated : out.Located) (h : ¬ g.Jumps env out) : FilterOutcome env g out (out, 0)
  | replaced (hlocated : out.Located) (hjumps : g.Jumps env out)
    (hshort : g.implausibleSpeedStreak + 1 < gpsImplausibleSpeedStreakAccept) :
    FilterOutcome env g out
      ({ g.lastValidGpsData with utcTime := out.utcTime }, g.implausibleSpeedStreak + 1)
  | relocated (hlocated : out.Located) (hjumps : g.Jumps env out)
    (hlong : ¬ g.implausibleSpeedStreak + 1 < gpsImplausibleSpeedStreakAccept) :
    FilterOutcome env g out (out, 0)

theorem filterOutcome (env : GpsEnv) (g : Gps) (out : GpsPacket) :
    FilterOutcome env g out (gpsOpsFilterImplausibleJump env g out) := by
  rw [gpsOpsFilterImplausibleJump_eq]
  by_cases hlocated : out.Located
  · rw [if_neg (not_not.mpr hlocated)]
    by_cases hjumps : g.Jumps env out
    · rw [if_neg (not_not.mpr hjumps)]
      split
      · exact .replaced hlocated hjumps ‹_›
      · exact .relocated hlocated hjumps ‹_›
    · rw [if_pos hjumps]
      exact .steady hlocated hjumps
  · rw [if_pos hlocated]
    exact .nowhere hlocated

/-- Only a jump within the streak is replaced. -/
theorem FilterOutcome.fst_eq {env : GpsEnv} {g : Gps} {out : GpsPacket}
    {filtered : GpsPacket × UInt32} (h : FilterOutcome env g out filtered)
    (hkept : ¬ (g.Jumps env out ∧
      g.implausibleSpeedStreak + 1 < gpsImplausibleSpeedStreakAccept)) : filtered.1 = out := by
  cases h with
  | nowhere => rfl
  | steady => rfl
  | replaced _ hjumps hshort => exact absurd ⟨hjumps, hshort⟩ hkept
  | relocated => rfl

/-! ## The task with its relocations -/

/-- The sample that a step parses. -/
def sampleOf (g : Gps) (e : GpsEvent) : Option (GpsEnv × GpsPacket) :=
  match g.pc, e with
  | .refresh, .task env => env.parsed.map fun out => (env, out)
  | _, _ => none

/-- The sample is implausible with respect to an accepted one. -/
def OutOfReach (env : GpsEnv) (accepted : List GpsPacket) (out : GpsPacket) : Prop :=
  ∃ p ∈ accepted, gpsImplausibleSpeedKmhMax < impliedSpeedKmh env.distance p out

instance (env : GpsEnv) (accepted : List GpsPacket) (out : GpsPacket) :
    Decidable (OutOfReach env accepted out) :=
  inferInstanceAs (Decidable (∃ p ∈ accepted, _))

/-- The task with its relocations. -/
structure JumpRun where
  gps : Gps
  /-- The samples replaced one behind the other, up to now. -/
  replaced : Nat
  /-- The samples accepted from the latest relocation on, while none was implausible with
  respect to one of them. -/
  accepted : Option (List GpsPacket)
  /-- The record was written after that relocation. -/
  followed : Bool

/-- What a sample is to the relocations. -/
def JumpRun.take (env : GpsEnv) (out : GpsPacket) (r : JumpRun) : JumpRun :=
  let filtered := gpsOpsFilterImplausibleJump env r.gps out
  let r := { r with replaced := if filtered.1 = out then 0 else r.replaced + 1 }
  if ¬ out.Located then r
  else if r.gps.Jumps env out ∧
      ¬ r.gps.implausibleSpeedStreak + 1 < gpsImplausibleSpeedStreakAccept then
    { r with accepted := some [out], followed := false }
  else
    match r.accepted with
    | none => r
    | some accepted =>
      if OutOfReach env accepted out then { r with accepted := none }
      else if filtered.1 = out then { r with accepted := some (out :: accepted) }
      else r

/-- The task, step by step, with its relocations. -/
def jumpMachine : Machine JumpRun GpsEvent (List GpsOutput) where
  step r e :=
    let next := gpsMachine.step r.gps e
    (next.1,
      match sampleOf r.gps e with
      | some (env, out) => { r.take env out with gps := next.2 }
      | none =>
        match recordStepKind r.gps e with
        | .acquire | .build .current => { r with gps := next.2, followed := true }
        | _ => { r with gps := next.2 })

namespace JumpRun

/-- The task when the module has set itself up. -/
def start (config : GpsConfig) (restored : Option GpsPacket) (g : Gps) : JumpRun :=
  ⟨g.gpsManagerInit config restored, 0, none, false⟩

/-- A sample after a relocation that is plausible with respect to all that were accepted from
the relocation on is not replaced. -/
def Passes (r : JumpRun) (e : GpsEvent) : Prop :=
  ∀ s ∈ sampleOf r.gps e, ∀ accepted ∈ r.accepted, ¬ OutOfReach s.1 accepted s.2 →
    (gpsOpsFilterImplausibleJump s.1 r.gps s.2).1 = s.2

/-- The time source leaves the sample its time. After a relocation the record is written before
the next sample with coordinates comes, and no packet takes the time of a sample into it. -/
def Follows (r : JumpRun) (e : GpsEvent) : Prop :=
  (∀ s ∈ sampleOf r.gps e, s.2.Located →
    (gpsOpsApplyTimeSourceToPacket r.gps.config.timeSource s.1.rtcUtc s.2).utcTime = s.2.utcTime ∧
      (r.accepted ≠ none → r.followed = true)) ∧
  (r.accepted ≠ none → recordStepKind r.gps e ≠ .build .lastValidMerged)

instance (r : JumpRun) (e : GpsEvent) : Decidable (r.Passes e) :=
  inferInstanceAs (Decidable (∀ s ∈ sampleOf r.gps e, ∀ accepted ∈ r.accepted, _ → _))

instance (r : JumpRun) (e : GpsEvent) : Decidable (r.Follows e) :=
  inferInstanceAs (Decidable ((∀ s ∈ sampleOf r.gps e, _ → _) ∧ (_ → _)))

end JumpRun

/-! ## What a step does to the sample -/

theorem position_gpsOpsApplyTimeSourceToPacket (source : GpsTimeSource) (rtcUtc : Option UInt32)
    (p : GpsPacket) : (gpsOpsApplyTimeSourceToPacket source rtcUtc p).position = p.position := by
  unfold gpsOpsApplyTimeSourceToPacket
  dsimp only
  cases source <;> dsimp only <;> split_ifs <;> rfl

theorem GpsPacket.located_congr {p q : GpsPacket} (h : p.position = q.position) :
    p.Located ↔ q.Located := by
  simp only [position, Prod.mk.injEq] at h
  rw [Located, Located, h.1, h.2]

/-- What a step that parses no sample does: the sample stays where it was, or is nowhere. -/
structure QuietStep (g : Gps) (next : Gps) : Prop where
  sample : next.currentGpsData.place = g.currentGpsData.place ∨ ¬ next.currentGpsData.Located
  streak : next.implausibleSpeedStreak = g.implausibleSpeedStreak

theorem QuietStep.of_eq {g next : Gps} (hsample : next.currentGpsData = g.currentGpsData)
    (hstreak : next.implausibleSpeedStreak = g.implausibleSpeedStreak) : QuietStep g next :=
  ⟨Or.inl (congrArg GpsPacket.place hsample), hstreak⟩

theorem not_located_zero : ¬ GpsPacket.zero.Located := by
  decide +kernel

/-- The time source and the flag of the fix leave a sample where it is. -/
theorem position_refreshed (source : GpsTimeSource) (rtcUtc : Option UInt32) (p : GpsPacket) :
    (gpsOpsUpdateFixValidCalculated (gpsOpsApplyTimeSourceToPacket source rtcUtc p)).position =
      p.position :=
  position_gpsOpsApplyTimeSourceToPacket source rtcUtc p

/-- Without a record to parse there is no sample. -/
theorem queryAndParse_none {g : Gps} {env : GpsEnv} (h : env.parsed = none) :
    (g.queryAndParse env).2.currentGpsData = .zero ∧
      (g.queryAndParse env).2.implausibleSpeedStreak = g.implausibleSpeedStreak := by
  unfold Gps.queryAndParse
  rw [h]
  dsimp only
  split
  · exact ⟨rfl, rfl⟩
  · split <;> exact ⟨rfl, rfl⟩

theorem buildSendPacket_sample (g : Gps) (env : GpsEnv) (kind : GpsPacketBuildKind) :
    QuietStep g (g.buildSendPacket env kind).2 := by
  have hprepared : QuietStep g (g.preparePosition env kind) := by
    cases kind with
    | current =>
      obtain ⟨sats, speed, heq⟩ := g.preparePosition_current env
      rw [heq]
      exact ⟨Or.inl rfl, rfl⟩
    | lastValidMerged => exact .of_eq rfl rfl
  unfold Gps.buildSendPacket
  dsimp only
  split <;> exact ⟨hprepared.sample, hprepared.streak⟩

theorem quietStep_task {g : Gps} {env : GpsEnv} (h : sampleOf g (.task env) = none) :
    QuietStep g (gpsTaskEntry env g).2 := by
  unfold gpsTaskEntry
  cases hpc : g.pc with
  | pollSim =>
    dsimp only
    unfold Gps.setSimStatus
    split <;> exact .of_eq rfl rfl
  | refresh =>
    have hparsed : env.parsed = none := by simpa [sampleOf, hpc] using h
    obtain ⟨hzero, hstreak⟩ := queryAndParse_none (g := g) hparsed
    have hnowhere : (gpsOpsUpdateFixValidCalculated (gpsOpsApplyTimeSourceToPacket
        g.config.timeSource env.rtcUtc (g.queryAndParse env).2.currentGpsData)).position =
          GpsPacket.zero.position :=
      (position_refreshed _ _ _).trans (congrArg _ hzero)
    have hlost := mt (GpsPacket.located_congr hnowhere).mp not_located_zero
    exact ⟨Or.inr hlost, hstreak⟩
  | fixTransition =>
    dsimp only
    unfold Gps.handleFixTransition
    split <;> exact .of_eq rfl rfl
  | shouldSend =>
    dsimp only
    unfold Gps.shouldSend
    split
    · exact .of_eq rfl rfl
    · split <;> exact .of_eq rfl rfl
  | pickKind => exact .of_eq rfl rfl
  | build kind =>
    have hbuilt := buildSendPacket_sample g env kind
    dsimp only
    split
    · rename_i next heq
      rw [heq] at hbuilt
      exact ⟨hbuilt.sample, hbuilt.streak⟩
    · rename_i packet next heq
      rw [heq] at hbuilt
      exact ⟨hbuilt.sample, hbuilt.streak⟩
  | push packet =>
    dsimp only
    unfold Gps.pushTcpPositionMessage
    split
    · exact .of_eq rfl rfl
    · split <;> exact .of_eq rfl rfl
  | clear => exact .of_eq rfl rfl

theorem quietStep {g : Gps} {e : GpsEvent} (h : sampleOf g e = none) :
    QuietStep g (gpsMachine.step g e).2 := by
  cases e with
  | task env => exact quietStep_task h
  | setIgnitionStatus on =>
    change QuietStep g (g.setIgnitionStatus on)
    unfold Gps.setIgnitionStatus
    split <;> exact .of_eq rfl rfl
  | setMotionStatus on =>
    change QuietStep g (g.setMotionStatus on)
    unfold Gps.setMotionStatus
    split <;> exact .of_eq rfl rfl
  | setChargeStatus connected =>
    change QuietStep g (g.setChargeStatus connected)
    unfold Gps.setChargeStatus
    split <;> exact .of_eq rfl rfl
  | setConfig config => exact .of_eq rfl rfl
  | setPowerEnabled on ok =>
    change QuietStep g (g.setPowerEnabled on ok)
    unfold Gps.setPowerEnabled
    split
    · split <;> exact .of_eq rfl rfl
    · split
      · exact .of_eq rfl rfl
      · split
        · exact .of_eq rfl rfl
        · exact ⟨Or.inr not_located_zero, rfl⟩

/-- A step that parses a sample filters it, and leaves the record. -/
theorem sampleStep {g : Gps} {e : GpsEvent} {env : GpsEnv} {out : GpsPacket}
    (h : sampleOf g e = some (env, out)) :
    (gpsMachine.step g e).2.currentGpsData = gpsOpsUpdateFixValidCalculated
        (gpsOpsApplyTimeSourceToPacket g.config.timeSource env.rtcUtc
          (gpsOpsFilterImplausibleJump env g out).1) ∧
      (gpsMachine.step g e).2.implausibleSpeedStreak =
        (gpsOpsFilterImplausibleJump env g out).2 ∧
      (gpsMachine.step g e).2.lastValidGpsData = g.lastValidGpsData := by
  unfold sampleOf at h
  split at h
  · rename_i env' hpc
    obtain ⟨out', hparsed, heq⟩ := Option.map_eq_some_iff.mp h
    cases heq
    simp only [gpsMachine, gpsTaskEntry, hpc, Gps.refreshCurrentSample, Gps.queryAndParse, hparsed]
    exact ⟨trivial, trivial, trivial⟩
  · cases h

/-! ## The run -/

/-- A sample can only jump from a record that is not where a plausible origin is. -/
theorem not_jumps_of_place {env : GpsEnv} {g : Gps} {accepted : List GpsPacket} {out : GpsPacket}
    (hrecord : g.lastValidGpsData.place ∈ accepted.map GpsPacket.place ∨
      ¬ g.lastValidGpsData.Located) (h : ¬ OutOfReach env accepted out) : ¬ g.Jumps env out := by
  rintro ⟨hmeaningful, -, -, -, hfast⟩
  rcases hrecord with hmem | hnowhere
  · obtain ⟨p, hp, hplace⟩ := List.mem_map.mp hmem
    refine h ⟨p, hp, ?_⟩
    simp only [GpsPacket.place, GpsPacket.position, Prod.mk.injEq] at hplace
    rw [impliedSpeedKmh, hplace.1.1, hplace.1.2, hplace.2]
    exact hfast
  · exact hnowhere hmeaningful.2

namespace JumpRun

/-- The replaced samples are within the streak; after a relocation the sample, and the record
once it was written, are at accepted places. -/
structure Settled (r : JumpRun) : Prop where
  streak : r.gps.implausibleSpeedStreak < gpsImplausibleSpeedStreakAccept
  replaced : r.replaced ≤ r.gps.implausibleSpeedStreak.toNat

/-- After a relocation the sample, and the record once it was written, are where an accepted
sample was. -/
structure Tracked (r : JumpRun) : Prop where
  sample : ∀ accepted ∈ r.accepted, r.gps.currentGpsData.place ∈ accepted.map GpsPacket.place ∨
    ¬ r.gps.currentGpsData.Located
  record : ∀ accepted ∈ r.accepted, r.followed = true →
    r.gps.lastValidGpsData.place ∈ accepted.map GpsPacket.place ∨ ¬ r.gps.lastValidGpsData.Located

variable {r : JumpRun} {e : GpsEvent}

theorem take_replaced (env : GpsEnv) (out : GpsPacket) :
    (r.take env out).replaced =
      if (gpsOpsFilterImplausibleJump env r.gps out).1 = out then 0 else r.replaced + 1 := by
  unfold take
  dsimp only
  repeat' split
  all_goals rfl

/-- The filter counts each sample it replaces, and stops short of the streak. -/
theorem Settled.step (h : r.Settled) (e : GpsEvent) : (jumpMachine.step r e).2.Settled := by
  simp only [jumpMachine]
  cases hsample : sampleOf r.gps e with
  | none =>
    have hstreak := (quietStep hsample).streak
    have hsettled : ∀ followed, Settled { r with
        gps := (gpsMachine.step r.gps e).2, followed := followed } := fun followed =>
      ⟨by rw [hstreak]; exact h.streak, by rw [hstreak]; exact h.replaced⟩
    dsimp only
    split <;> exact hsettled _
  | some s =>
    obtain ⟨env, out⟩ := s
    obtain ⟨-, hstreak, -⟩ := sampleStep hsample
    dsimp only
    have hreplaced := take_replaced (r := r) env out
    have hbound : r.gps.implausibleSpeedStreak.toNat < 5 := UInt32.lt_iff_toNat_lt.mp h.streak
    have houtcome := filterOutcome env r.gps out
    generalize gpsOpsFilterImplausibleJump env r.gps out = filtered at hstreak hreplaced houtcome
    refine ⟨?_, ?_⟩ <;> rw [hstreak]
    · cases houtcome with
      | nowhere => exact h.streak
      | steady => exact (by decide : (0 : UInt32) < gpsImplausibleSpeedStreakAccept)
      | replaced _ _ hshort => exact hshort
      | relocated => exact (by decide : (0 : UInt32) < gpsImplausibleSpeedStreakAccept)
    · dsimp only
      rw [hreplaced]
      cases houtcome with
      | nowhere => simp
      | steady => simp
      | replaced _ _ hshort =>
        have hnext : (r.gps.implausibleSpeedStreak + 1).toNat =
            r.gps.implausibleSpeedStreak.toNat + 1 := by
          rw [UInt32.toNat_add, Nat.mod_eq_of_lt (by simp; omega)]
          rfl
        have hcount := h.replaced
        dsimp only
        rw [hnext]
        split <;> omega
      | relocated => simp

/-- A plausible sample passes after a relocation that a packet followed. -/
theorem Tracked.passes (h : r.Tracked) (hfollows : r.Follows e) : r.Passes e := by
  rintro ⟨env, out⟩ hsample accepted haccepted hplausible
  dsimp only
  rw [gpsOpsFilterImplausibleJump_eq]
  by_cases hlocated : out.Located
  · have hrecord := h.record accepted haccepted
      ((hfollows.1 _ hsample hlocated).2 (by rw [haccepted]; exact Option.some_ne_none _))
    rw [if_neg (not_not.mpr hlocated), if_pos (not_jumps_of_place hrecord hplausible)]
  · rw [if_pos hlocated]

/-- Where the sample stands after a step that did not replace it. -/
theorem sample_place {env : GpsEnv} {out : GpsPacket} (hsample : sampleOf r.gps e = some (env, out))
    (hpass : (gpsOpsFilterImplausibleJump env r.gps out).1 = out) (hfollows : r.Follows e)
    (hlocated : out.Located) :
    (gpsMachine.step r.gps e).2.currentGpsData.place = out.place := by
  have htime := (hfollows.1 _ hsample hlocated).1
  rw [(sampleStep hsample).1, hpass]
  exact Prod.ext (position_refreshed _ _ _) htime

/-- A sample that completes the streak begins anew. -/
theorem take_relocated {env : GpsEnv} {out : GpsPacket} (hlocated : out.Located)
    (hrelocated : r.gps.Jumps env out ∧
      ¬ r.gps.implausibleSpeedStreak + 1 < gpsImplausibleSpeedStreakAccept) :
    (r.take env out).accepted = some [out] ∧ (r.take env out).followed = false := by
  unfold take
  dsimp only
  rw [if_neg (not_not.mpr hlocated), if_pos hrelocated]
  exact ⟨rfl, rfl⟩

/-- Any other sample with coordinates joins the accepted ones, or ends them. -/
theorem take_other {env : GpsEnv} {out : GpsPacket} (hlocated : out.Located)
    (hother : ¬ (r.gps.Jumps env out ∧
      ¬ r.gps.implausibleSpeedStreak + 1 < gpsImplausibleSpeedStreakAccept))
    (hpass : ∀ accepted ∈ r.accepted, ¬ OutOfReach env accepted out →
      (gpsOpsFilterImplausibleJump env r.gps out).1 = out) :
    (r.take env out).followed = r.followed ∧
      ∀ accepted ∈ (r.take env out).accepted, ∃ before ∈ r.accepted, accepted = out :: before ∧
        (gpsOpsFilterImplausibleJump env r.gps out).1 = out := by
  unfold take
  dsimp only
  rw [if_neg (not_not.mpr hlocated), if_neg hother]
  cases haccepted : r.accepted with
  | none => exact ⟨rfl, fun _ h => absurd h (by simp)⟩
  | some before =>
    dsimp only
    split
    · exact ⟨rfl, nofun⟩
    · rename_i hplausible
      have hsame := hpass before haccepted hplausible
      rw [if_pos hsame]
      exact ⟨rfl, fun accepted h => ⟨before, rfl, (Option.some_inj.mp h).symm, hsame⟩⟩

/-- A step with a sample. -/
theorem Tracked.stepSample (h : r.Tracked) (hfollows : r.Follows e) {env : GpsEnv}
    {out : GpsPacket} (hsample : sampleOf r.gps e = some (env, out)) :
    Tracked { r.take env out with gps := (gpsMachine.step r.gps e).2 } := by
  obtain ⟨hcurrent, -, hrecord⟩ := sampleStep hsample
  have houtcome := filterOutcome env r.gps out
  by_cases hlocated : out.Located
  · by_cases hrelocated : r.gps.Jumps env out ∧
        ¬ r.gps.implausibleSpeedStreak + 1 < gpsImplausibleSpeedStreakAccept
    · have hpass := houtcome.fst_eq fun hkept => hrelocated.2 hkept.2
      obtain ⟨haccepted, hfollowed⟩ := take_relocated hlocated hrelocated
      constructor
      · intro accepted hmem
        obtain rfl : [out] = accepted := Option.some_inj.mp (haccepted.symm.trans hmem)
        exact Or.inl (by simp [sample_place hsample hpass hfollows hlocated])
      · intro accepted _ htrue
        exact absurd (hfollowed.symm.trans htrue) (by decide)
    · obtain ⟨hfollowed, haccepted⟩ := take_other hlocated hrelocated
        fun accepted hmem => h.passes hfollows _ hsample accepted hmem
      constructor
      · intro accepted hmem
        obtain ⟨before, -, rfl, hpass⟩ := haccepted accepted hmem
        exact Or.inl (by simp [sample_place hsample hpass hfollows hlocated])
      · intro accepted hmem htrue
        obtain ⟨before, hbefore, rfl, -⟩ := haccepted accepted hmem
        rw [hrecord]
        refine (h.record before hbefore (hfollowed.symm.trans htrue)).imp_left fun hplace => ?_
        exact List.mem_cons_of_mem _ hplace
  · have hsame : (r.take env out).accepted = r.accepted ∧
        (r.take env out).followed = r.followed := by
      unfold JumpRun.take
      dsimp only
      rw [if_pos hlocated]
      exact ⟨rfl, rfl⟩
    have hpass : (gpsOpsFilterImplausibleJump env r.gps out).1 = out := by
      rw [gpsOpsFilterImplausibleJump_eq, if_pos hlocated]
    have hnowhere : ¬ (gpsMachine.step r.gps e).2.currentGpsData.Located := by
      rw [hcurrent, hpass]
      exact mt (GpsPacket.located_congr (position_refreshed _ _ _)).mp hlocated
    constructor
    · exact fun accepted hmem => Or.inr hnowhere
    · intro accepted hmem htrue
      rw [hrecord]
      exact h.record accepted (hsame.1 ▸ hmem) (hsame.2.symm.trans htrue)

/-- The record where the sample was. -/
theorem Tracked.record_of_sample (h : r.Tracked) {record : GpsPacket}
    (hposition : record.position = r.gps.currentGpsData.position)
    (htime : record.utcTime = r.gps.currentGpsData.utcTime) :
    ∀ accepted ∈ r.accepted, record.place ∈ accepted.map GpsPacket.place ∨ ¬ record.Located := by
  intro accepted hmem
  have hplace : record.place = r.gps.currentGpsData.place := Prod.ext hposition htime
  rw [hplace, GpsPacket.located_congr hposition]
  exact h.sample accepted hmem

/-- A step without one. -/
theorem Tracked.stepQuiet (h : r.Tracked) (hfollows : r.Follows e)
    (hsample : sampleOf r.gps e = none) : (jumpMachine.step r e).2.Tracked := by
  have hquiet := quietStep hsample
  have hrecord := recordStep r.gps e
  have hmerged := hfollows.2
  have hcurrent : ∀ accepted ∈ r.accepted,
      (gpsMachine.step r.gps e).2.currentGpsData.place ∈ accepted.map GpsPacket.place ∨
        ¬ (gpsMachine.step r.gps e).2.currentGpsData.Located := by
    intro accepted hmem
    rcases hquiet.sample with hplace | hnowhere
    · rw [hplace]
      refine (h.sample accepted hmem).imp_right fun hlost => ?_
      rwa [GpsPacket.located_congr (congrArg Prod.fst hplace)]
    · exact Or.inr hnowhere
  simp only [jumpMachine, hsample]
  generalize gpsMachine.step r.gps e = next at hrecord hcurrent
  generalize recordStepKind r.gps e = kind at hrecord hmerged
  cases hrecord with
  | acquire hposition htime =>
    exact ⟨hcurrent, fun accepted hmem _ => h.record_of_sample hposition htime accepted hmem⟩
  | buildCurrent hposition htime =>
    exact ⟨hcurrent, fun accepted hmem _ => h.record_of_sample hposition htime accepted hmem⟩
  | buildMerged =>
    have hclosed : r.accepted = none := by
      by_contra hopen
      exact hmerged hopen rfl
    exact ⟨hcurrent, fun accepted hmem _ => absurd (hclosed ▸ hmem) (by simp)⟩
  | push hsame =>
    exact ⟨hcurrent, fun accepted hmem htrue => hsame ▸ h.record accepted hmem htrue⟩
  | last hsame =>
    exact ⟨hcurrent, fun accepted hmem htrue => hsame ▸ h.record accepted hmem htrue⟩
  | other hsame =>
    exact ⟨hcurrent, fun accepted hmem htrue => hsame ▸ h.record accepted hmem htrue⟩

theorem Tracked.step (h : r.Tracked) (hfollows : r.Follows e) :
    (jumpMachine.step r e).2.Tracked := by
  cases hsample : sampleOf r.gps e with
  | none => exact h.stepQuiet hfollows hsample
  | some s =>
    simp only [jumpMachine, hsample]
    exact h.stepSample hfollows hsample

theorem settled_start (config : GpsConfig) (restored : Option GpsPacket) (g : Gps) :
    (start config restored g).Settled :=
  ⟨(by decide : (0 : UInt32) < gpsImplausibleSpeedStreakAccept), Nat.zero_le _⟩

theorem tracked_start (config : GpsConfig) (restored : Option GpsPacket) (g : Gps) :
    (start config restored g).Tracked := ⟨nofun, nofun⟩

/-- The filter replaces at most four samples one behind the other; and in every run in which the
record follows each relocation, no plausible sample behind one is replaced. -/
theorem jump_filter_recovers (config : GpsConfig) (restored : Option GpsPacket) (g : Gps)
    (es : List GpsEvent) :
    (jumpMachine.run (start config restored g) es).2.replaced ≤
        gpsImplausibleSpeedStreakAccept.toNat - 1 ∧
      (jumpMachine.Along Follows (start config restored g) es →
        jumpMachine.Along Passes (start config restored g) es) := by
  constructor
  · have hsettled : (jumpMachine.run (start config restored g) es).2.Settled :=
      jumpMachine.invariant (fun r e h _ => h.step e) (settled_start config restored g)
        (Machine.Along.trivial _ _ _)
    have hstreak := UInt32.lt_iff_toNat_lt.mp hsettled.streak
    have hreplaced := hsettled.replaced
    omega
  · exact Machine.Along.mono_of_invariant (fun r e h hfollows => h.step hfollows)
      (fun r e h hfollows => h.passes hfollows) (tracked_start config restored g)

/-! ## A vehicle that is carried away -/

/-- A sample at a latitude, a number of seconds behind the first. -/
def driveEnv (second : UInt32) (lat : ℚ) : GpsEnv :=
  { PositionRun.withoutFix (some .success) with
    distance := fun lat1 lon1 lat2 lon2 => (|lat1 - lat2| + |lon1 - lon2|) * 111000
    parsed := some { PositionRun.fixAt lat 77 with utcTime := 1700000000 + second }
    uptime := 100 + second }

/-- A pass that sends, and five samples a degree away, of which the fifth is accepted; the pass of
the fifth is still to decide whether to send. -/
def carriedAway : List GpsEvent :=
  List.replicate 8 (.task (driveEnv 0 12)) ++
    (List.range 4).flatMap (fun k =>
      List.replicate 4 (.task (driveEnv (UInt32.ofNat k + 1) 13))) ++
    List.replicate 3 (.task (driveEnv 5 13))

/-- A packet follows, as the ignition is switched off: the sixth sample passes. -/
theorem jump_filter_recovers_with_packet :
    (jumpMachine.run (start gpsConfigGetDefaults none (.zeroed gpsConfigGetDefaults))
        (carriedAway ++ .setIgnitionStatus false :: List.replicate 5 (.task (driveEnv 5 13)) ++
          List.replicate 2 (.task (driveEnv 6 13)))).2.replaced ≤ 4 ∧
      jumpMachine.Along Passes
        (start gpsConfigGetDefaults none (.zeroed gpsConfigGetDefaults))
        (carriedAway ++ .setIgnitionStatus false :: List.replicate 5 (.task (driveEnv 5 13)) ++
          List.replicate 2 (.task (driveEnv 6 13))) :=
  have h := jump_filter_recovers gpsConfigGetDefaults none (.zeroed gpsConfigGetDefaults)
    (carriedAway ++ .setIgnitionStatus false :: List.replicate 5 (.task (driveEnv 5 13)) ++
      List.replicate 2 (.task (driveEnv 6 13)))
  ⟨h.1, h.2 (by decide +kernel)⟩

/-- No packet is due: the sixth sample, at the place of the fifth, is replaced. -/
theorem jump_filter_falls_back :
    ¬ ∀ (config : GpsConfig) (restored : Option GpsPacket) (g : Gps) (es : List GpsEvent),
      jumpMachine.Along Passes (start config restored g) es := by
  intro h
  have hsixth := h gpsConfigGetDefaults none (.zeroed gpsConfigGetDefaults)
    (carriedAway ++ .task (driveEnv 5 13) :: List.replicate 2 (.task (driveEnv 6 13)))
  revert hsixth
  decide +kernel

end JumpRun

end WalnutGateway
