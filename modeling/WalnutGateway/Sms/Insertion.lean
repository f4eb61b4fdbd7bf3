import WalnutGateway.Sms.Configure

/-!
# One configuration for each insertion

The flag is a level that may have changed twice between two looks, and the latch is set at the
end of a sequence during which the SIM may have been changed. What the SMS task does for an
insertion is right where the latch is down when the SIM comes, and where the sequence that sets
it began after that; the attempts are bounded and spaced out as long as `wm_sdk_sms_init` does
not fail at the last of them.
-/

namespace WalnutGateway

namespace SmsSetupRun

/-! ## What an insertion is promised -/

/-- The latch is set only if a complete sequence began after the latest insertion. -/
def Redone (r : SmsSetupRun) : Prop :=
  r.sms.modemConfigApplied = true → r.insertion ∈ r.completed

instance (r : SmsSetupRun) : Decidable r.Redone := inferInstanceAs (Decidable (_ → _))

/-- The sequences of one insertion, the latest first: there are not too many, and each began
late enough after the one before. -/
structure Bounded (starts : List Nat) : Prop where
  length : starts.length ≤ smsConfigMaxAttempts
  spaced : starts.IsChain fun later earlier => earlier + smsConfigRetryIntervalMs ≤ later

/-- The sequences of every insertion are bounded. -/
def AllBounded (r : SmsSetupRun) : Prop := ∀ starts ∈ r.starts :: r.earlier, Bounded starts

/-- The SMS task is at the end of a sequence that sets the latch. -/
def Latches (r : SmsSetupRun) : Prop :=
  ∃ ok, r.sms.pc = .finish ok ∧ r.sms.completes ok = true ∧ r.sms.simInserted = true

/-- The insertion is seen: the latch is down when the SIM comes, and no SIM has come since the
sequence that sets it began. -/
def Seen (r : SmsSetupRun) : SmsSetupEvent → Prop
  | .wait _ => True
  | .sim available => r.Inserts available → r.sms.modemConfigApplied = false
  | .sms _ _ => r.Latches → r.startedIn = r.insertion

/-- `wm_sdk_sms_init` fails only while there is an attempt left, and the UINT8 does not wrap. -/
def Counted (r : SmsSetupRun) : SmsSetupEvent → Prop
  | .sms answer _ =>
    (r.sms.pc = .init → answer ≠ .success → r.sms.configAttempts.toNat < smsConfigMaxAttempts) ∧
      (r.sms.pc = .attempt → r.sms.configAttempts ≠ 255)
  | _ => True

/-! ## The latch -/

/-- The sequences began in the insertions so far, and the latch is right. -/
structure Numbered (r : SmsSetupRun) : Prop where
  started : r.startedIn ≤ r.insertion
  completed : ∀ n ∈ r.completed, n ≤ r.startedIn
  notified : r.sim.lastNotifiedState = r.sim.simAvailable
  redone : r.Redone

/-- The SIM module sets its status and has the broadcast to make; or nothing changes. -/
theorem wewareSimSetSimAvailable_eq {d : SimDetect} (h : d.lastNotifiedState = d.simAvailable)
    (available : Bool) : wewareSimSetSimAvailable available d =
      if d.simAvailable = available then ([], d)
      else ([simBroadcast available],
        { d with simAvailable := available, lastNotifiedState := available }) := by
  unfold wewareSimSetSimAvailable simNotifySimStatusChange
  split
  · rfl
  · rename_i hne
    rw [if_neg (by rw [h]; exact hne)]

theorem wewareSimSetSimAvailable_notified {d : SimDetect}
    (h : d.lastNotifiedState = d.simAvailable) (available : Bool) :
    (wewareSimSetSimAvailable available d).2.lastNotifiedState =
      (wewareSimSetSimAvailable available d).2.simAvailable := by
  rw [wewareSimSetSimAvailable_eq h]
  split
  · exact h
  · rfl

@[simp] theorem onSimStatus_applied (event : SimBroadcast) (m : SmsSetup) :
    (m.onSimStatus event).modemConfigApplied = m.modemConfigApplied := by
  cases event with
  | available => rfl
  | unavailable => rfl

/-- What a step of the SIM task does to the promise. -/
theorem simTask_numbered {r : SmsSetupRun} (h : r.Numbered) (available : Bool) :
    (r.simTask available).Redone ↔ (r.Inserts available → r.sms.modemConfigApplied = false) := by
  unfold simTask
  cases hpending : r.pending with
  | cons event rest =>
    refine iff_of_true ?_ fun hins => ?_
    · intro happlied
      rw [onSimStatus_applied] at happlied
      exact h.redone happlied
    · rw [hins.1] at hpending
      contradiction
  | nil =>
    dsimp only
    split
    · rename_i hins
      constructor
      · intro hredone _
        cases happlied : r.sms.modemConfigApplied with
        | false => rfl
        | true =>
          have hmem : r.insertion + 1 ∈ r.completed := hredone happlied
          have hle := (h.completed _ hmem).trans h.started
          omega
      · intro hdown happlied
        have hfalse := hdown hins
        change r.sms.modemConfigApplied = true at happlied
        rw [hfalse] at happlied
        contradiction
    · rename_i hins
      exact iff_of_true h.redone fun hins' => absurd hins' hins

/-- The latch is set at the end of a sequence only. -/
theorem smsConfigure_applied {env : SmsSetupEnv} {m : SmsSetup}
    (h : (m.smsConfigure env).modemConfigApplied = true) : m.modemConfigApplied = true ∨
      ∃ ok, m.pc = .finish ok ∧ m.completes ok = true ∧ m.simInserted = true := by
  unfold SmsSetup.smsConfigure at h
  cases hpc : m.pc with
  | check =>
    rw [hpc] at h
    dsimp only at h
    unfold SmsSetup.check at h
    split at h
    · contradiction
    · split at h
      · exact Or.inl h
      · split at h
        · exact Or.inl h
        · exact Or.inl h
  | finish ok =>
    rw [hpc] at h
    dsimp only at h
    unfold SmsSetup.finish at h
    split at h
    · exact Or.inl h
    · rename_i hcompletes
      split at h
      · rename_i hflag
        exact Or.inr ⟨ok, rfl, by simpa using hcompletes, hflag⟩
      · exact Or.inl h
  | _ =>
    rw [hpc] at h
    exact Or.inl h

/-- The step of the SMS task, apart from the record of its sequences. -/
@[simp] theorem smsTask_sms (answer : ModemResult) (purged : Bool) (r : SmsSetupRun) :
    (r.smsTask answer purged).sms =
      r.sms.smsConfigure ⟨UInt32.ofNat r.now, r.sim.simAvailable, answer, purged⟩ := by
  unfold smsTask
  dsimp only
  split
  · rfl
  · split
    · rfl
    · rfl
  · rfl

@[simp] theorem smsTask_frame (answer : ModemResult) (purged : Bool) (r : SmsSetupRun) :
    (r.smsTask answer purged).earlier = r.earlier ∧ (r.smsTask answer purged).sim = r.sim ∧
      (r.smsTask answer purged).pending = r.pending ∧ (r.smsTask answer purged).now = r.now := by
  unfold smsTask
  dsimp only
  split
  · exact ⟨rfl, rfl, rfl, rfl⟩
  · split
    · exact ⟨rfl, rfl, rfl, rfl⟩
    · exact ⟨rfl, rfl, rfl, rfl⟩
  · exact ⟨rfl, rfl, rfl, rfl⟩

theorem smsTask_insertion (answer : ModemResult) (purged : Bool) (r : SmsSetupRun) :
    (r.smsTask answer purged).insertion = r.insertion :=
  congrArg List.length (smsTask_frame answer purged r).1

/-- A sequence is recorded when it is complete. -/
theorem smsTask_completed (answer : ModemResult) (purged : Bool) (r : SmsSetupRun) :
    (∃ ok, r.sms.pc = .finish ok ∧ r.sms.completes ok = true ∧
      (r.smsTask answer purged).completed = r.startedIn :: r.completed) ∨
    ((∀ ok, r.sms.pc = .finish ok → r.sms.completes ok = false) ∧
      (r.smsTask answer purged).completed = r.completed) := by
  unfold smsTask
  cases hpc : r.sms.pc with
  | finish ok =>
    dsimp only
    split
    · rename_i hcompletes
      exact Or.inl ⟨ok, rfl, hcompletes, rfl⟩
    · rename_i hcompletes
      refine Or.inr ⟨fun ok' heq => ?_, rfl⟩
      cases heq
      simpa using hcompletes
  | _ => exact Or.inr ⟨(fun _ heq => nomatch heq), rfl⟩

/-- What a step of the SMS task does to the promise. -/
theorem smsTask_numbered {r : SmsSetupRun} (h : r.Numbered) (answer : ModemResult)
    (purged : Bool) :
    (r.smsTask answer purged).Redone ↔ (r.Latches → r.startedIn = r.insertion) := by
  unfold Redone
  rw [smsTask_insertion, smsTask_sms]
  rcases smsTask_completed answer purged r with ⟨ok, hpc, hcompletes, heq⟩ | ⟨hnone, heq⟩
  · rw [heq]
    constructor
    · rintro hredone ⟨ok', hpc', -, hflag⟩
      have hset : (r.sms.smsConfigure ⟨UInt32.ofNat r.now, r.sim.simAvailable, answer,
          purged⟩).modemConfigApplied = true := by
        unfold SmsSetup.smsConfigure
        rw [hpc]
        dsimp only
        unfold SmsSetup.finish
        rw [if_neg (by simpa using hcompletes), if_pos hflag]
      rcases List.mem_cons.mp (hredone hset) with hmem | hmem
      · exact hmem.symm
      · exact le_antisymm h.started (h.completed _ hmem)
    · intro hseen happlied
      rcases smsConfigure_applied happlied with hbefore | ⟨ok', hpc', hcompletes', hflag⟩
      · exact List.mem_cons_of_mem _ (h.redone hbefore)
      · rw [hseen ⟨ok', hpc', hcompletes', hflag⟩]
        exact List.mem_cons_self
  · rw [heq]
    have hnot : ¬ r.Latches := by
      rintro ⟨ok, hpc, hcompletes, -⟩
      rw [hnone ok hpc] at hcompletes
      contradiction
    refine iff_of_true (fun happlied => ?_) fun hlatch => absurd hlatch hnot
    rcases smsConfigure_applied happlied with hbefore | hlatch
    · exact h.redone hbefore
    · exact absurd hlatch hnot

/-- A step keeps the promise where the insertion is seen, and only there. -/
theorem Numbered.redone_iff {r : SmsSetupRun} (h : r.Numbered) (e : SmsSetupEvent) :
    (machine.step r e).2.Redone ↔ r.Seen e := by
  cases e with
  | wait ms => exact iff_of_true h.redone trivial
  | sim available => exact simTask_numbered h available
  | sms answer purged => exact smsTask_numbered h answer purged

theorem Numbered.step {r : SmsSetupRun} (h : r.Numbered) {e : SmsSetupEvent} (hseen : r.Seen e) :
    (machine.step r e).2.Numbered := by
  have hredone := (h.redone_iff e).mpr hseen
  cases e with
  | wait ms => exact ⟨h.started, h.completed, h.notified, hredone⟩
  | sim available =>
    change (r.simTask available).Redone at hredone
    change (r.simTask available).Numbered
    unfold simTask at hredone ⊢
    split
    · rename_i hpending
      rw [hpending] at hredone
      exact ⟨h.started, h.completed, h.notified, hredone⟩
    · rename_i hpending
      rw [hpending] at hredone
      have hnotified := wewareSimSetSimAvailable_notified h.notified available
      dsimp only at hredone ⊢
      split
      · rename_i hins
        rw [if_pos hins] at hredone
        exact ⟨h.started.trans (Nat.le_succ _), h.completed, hnotified, hredone⟩
      · rename_i hins
        rw [if_neg hins] at hredone
        exact ⟨h.started, h.completed, hnotified, hredone⟩
  | sms answer purged =>
    obtain ⟨hearlier, hsim, -, -⟩ := smsTask_frame answer purged r
    have hinsertion := smsTask_insertion answer purged r
    have hstarted : (r.smsTask answer purged).startedIn = r.startedIn ∨
        (r.smsTask answer purged).startedIn = r.insertion := by
      unfold smsTask
      dsimp only
      split
      · exact Or.inr rfl
      · split
        · exact Or.inl rfl
        · exact Or.inl rfl
      · exact Or.inl rfl
    have hle := h.started
    refine ⟨?_, ?_, ?_, hredone⟩
    · change (r.smsTask answer purged).startedIn ≤ (r.smsTask answer purged).insertion
      omega
    · intro n hn
      change n ∈ (r.smsTask answer purged).completed at hn
      change n ≤ (r.smsTask answer purged).startedIn
      have hbefore : n ≤ r.startedIn := by
        rcases smsTask_completed answer purged r with ⟨_, _, _, heq⟩ | ⟨_, heq⟩
        · rw [heq] at hn
          rcases List.mem_cons.mp hn with rfl | hn
          · exact le_refl _
          · exact h.completed n hn
        · rw [heq] at hn
          exact h.completed n hn
      omega
    · change (r.smsTask answer purged).sim.lastNotifiedState =
        (r.smsTask answer purged).sim.simAvailable
      rw [hsim]
      exact h.notified

theorem boot_numbered (available : Bool) (now : Nat) : (boot available now).Numbered :=
  ⟨le_refl _, (fun _ hn => nomatch hn), rfl, (fun happlied => nomatch happlied)⟩

/-- The latch is right all along exactly in the runs in which every insertion is seen. -/
theorem redone_iff (available : Bool) (now : Nat) (es : List SmsSetupEvent) :
    machine.Along (fun r e => (machine.step r e).2.Redone) (boot available now) es ↔
      machine.Along Seen (boot available now) es :=
  machine.along_congr (fun _ _ h hseen => h.step hseen) (fun _ e h => h.redone_iff e)
    (boot_numbered available now)

/-! ## The attempts -/

/-- No sequence begins any more before the next insertion. -/
def Over (r : SmsSetupRun) : Prop :=
  r.sim.simAvailable = false ∧ r.sms.simInserted = false ∧ r.sms.pc ≠ .mark ∧ r.sms.pc ≠ .attempt

/-- A second sequence of the insertion has begun or may begin. -/
def Repeats (r : SmsSetupRun) : Prop :=
  2 ≤ r.starts.length ∨ (1 ≤ r.starts.length ∧ (r.sms.pc = .check ∨ r.sms.pc = .attempt))

/-- How the counter, the time stamp and the flag go with the sequences of the insertion. -/
structure Counts (r : SmsSetupRun) : Prop where
  notified : r.sim.lastNotifiedState = r.sim.simAvailable
  pending : ∀ event ∈ r.pending, event = simBroadcast r.sim.simAvailable
  unlatched : r.sms.pc = .attempt ∨ r.sms.pc.inSequence = true → r.sms.modemConfigApplied = false
  /-- With a second sequence the flag has been up, so it is down again after a removal only. -/
  removed : r.Repeats → r.sms.simInserted = false → r.sim.simAvailable = false
  counted : r.Over ∨ (r.starts.length ≤ r.sms.configAttempts.toNat ∧
    ∀ t ∈ r.starts.head?, r.sms.configLastAttemptMs = UInt32.ofNat t)
  limited : r.sms.modemConfigApplied = false → r.sms.pc.inSequence = false →
    r.sms.configAttempts.toNat < smsConfigMaxAttempts ∨ r.starts.length ≤ 1 ∨ r.Over
  spaced : r.sms.pc = .attempt → ∀ t ∈ r.starts.head?, t + smsConfigRetryIntervalMs ≤ r.now
  past : ∀ t ∈ r.starts.head?, t ≤ r.now
  bounded : r.AllBounded

theorem bounded_nil : Bounded [] := ⟨Nat.zero_le _, .nil⟩

theorem Counts.wait {r : SmsSetupRun} (h : r.Counts) (ms : Nat) :
    ({ r with now := r.now + ms } : SmsSetupRun).Counts where
  notified := h.notified
  pending := h.pending
  unlatched := h.unlatched
  removed := h.removed
  counted := h.counted
  limited := h.limited
  spaced hpc t ht := (h.spaced hpc t ht).trans (Nat.le_add_right _ _)
  past t ht := (h.past t ht).trans (Nat.le_add_right _ _)
  bounded := h.bounded

/-! ## Steps of the SIM task -/

/-- The callback runs. -/
theorem Counts.onSimStatus {r : SmsSetupRun} (h : r.Counts) {event : SimBroadcast}
    {rest : List SimBroadcast} (hpending : r.pending = event :: rest) :
    ({ r with sms := r.sms.onSimStatus event, pending := rest } : SmsSetupRun).Counts := by
  have hevent := h.pending event (by rw [hpending]; exact List.mem_cons_self)
  have hrest : ∀ other ∈ rest, other = simBroadcast r.sim.simAvailable := by
    intro other hother
    apply h.pending
    rw [hpending]
    exact List.mem_cons_of_mem _ hother
  cases hsim : r.sim.simAvailable with
  | true =>
    have hnot : ¬ r.Over := fun hover => by
      rw [hover.1] at hsim
      contradiction
    rw [hsim] at hevent
    subst hevent
    exact {
      notified := h.notified
      pending := hrest
      unlatched := h.unlatched
      removed := fun _ hflag => nomatch hflag
      counted := Or.inr (h.counted.resolve_left hnot)
      limited := fun happlied hpc => by
        rcases h.limited happlied hpc with hlt | hle | hover
        · exact Or.inl hlt
        · exact Or.inr (Or.inl hle)
        · exact absurd hover hnot
      spaced := h.spaced
      past := h.past
      bounded := h.bounded }
  | false =>
    rw [hsim] at hevent
    subst hevent
    exact {
      notified := h.notified
      pending := hrest
      unlatched := h.unlatched
      removed := fun _ _ => hsim
      counted := h.counted.imp_left fun hover => ⟨hsim, rfl, hover.2.2⟩
      limited := fun happlied hpc => by
        rcases h.limited happlied hpc with hlt | hle | hover
        · exact Or.inl hlt
        · exact Or.inr (Or.inl hle)
        · exact Or.inr (Or.inr ⟨hsim, rfl, hover.2.2⟩)
      spaced := h.spaced
      past := h.past
      bounded := h.bounded }

/-- A SIM comes: no sequence of the new insertion has begun. -/
theorem Counts.inserted {r : SmsSetupRun} (h : r.Counts) :
    ({ r with
        sim := { r.sim with simAvailable := true, lastNotifiedState := true }
        pending := [simBroadcast true]
        starts := []
        earlier := r.starts :: r.earlier } : SmsSetupRun).Counts where
  notified := rfl
  pending event hmem := List.mem_singleton.mp hmem
  unlatched := h.unlatched
  removed hrepeats := by
    rcases hrepeats with htwo | ⟨hone, -⟩
    · exact absurd htwo (Nat.not_succ_le_zero _)
    · exact absurd hone (Nat.not_succ_le_zero _)
  counted := Or.inr ⟨Nat.zero_le _, (fun _ ht => nomatch ht)⟩
  limited _ _ := Or.inr (Or.inl (Nat.zero_le _))
  spaced _ _ ht := nomatch ht
  past _ ht := nomatch ht
  bounded starts hmem := by
    rcases List.mem_cons.mp hmem with rfl | hmem
    · exact bounded_nil
    · exact h.bounded starts hmem

/-- The SIM goes. -/
theorem Counts.removal {r : SmsSetupRun} (h : r.Counts) (hsim : r.sim.simAvailable = true) :
    ({ r with
        sim := { r.sim with simAvailable := false, lastNotifiedState := false }
        pending := [simBroadcast false] } : SmsSetupRun).Counts := by
  have hnot : ¬ r.Over := fun hover => by
    rw [hover.1] at hsim
    contradiction
  exact {
    notified := rfl
    pending := fun event hmem => List.mem_singleton.mp hmem
    unlatched := h.unlatched
    removed := fun _ _ => rfl
    counted := Or.inr (h.counted.resolve_left hnot)
    limited := fun happlied hpc => by
      rcases h.limited happlied hpc with hlt | hle | hover
      · exact Or.inl hlt
      · exact Or.inr (Or.inl hle)
      · exact absurd hover hnot
    spaced := h.spaced
    past := h.past
    bounded := h.bounded }

theorem Counts.simTask {r : SmsSetupRun} (h : r.Counts) (available : Bool) :
    (r.simTask available).Counts := by
  unfold SmsSetupRun.simTask
  rw [wewareSimSetSimAvailable_eq h.notified]
  cases hpending : r.pending with
  | cons event rest => exact h.onSimStatus hpending
  | nil =>
    dsimp only
    cases hsim : r.sim.simAvailable with
    | true =>
      rw [if_neg fun hins : r.Inserts available => by
        rw [hins.2.1] at hsim
        contradiction]
      cases available with
      | true =>
        rw [if_pos rfl]
        have hsame : ({ r with pending := [] } : SmsSetupRun) = r := by rw [← hpending]
        change ({ r with pending := [] } : SmsSetupRun).Counts
        rw [hsame]
        exact h
      | false => exact h.removal hsim
    | false =>
      cases available with
      | true =>
        rw [if_pos (show r.Inserts true from ⟨hpending, hsim, rfl⟩)]
        exact h.inserted
      | false =>
        rw [if_neg (fun hins : r.Inserts false => nomatch hins.2.2), if_pos rfl]
        have hsame : ({ r with pending := [] } : SmsSetupRun) = r := by rw [← hpending]
        change ({ r with pending := [] } : SmsSetupRun).Counts
        rw [hsame]
        exact h

/-! ## Steps of the SMS task -/

/-- A step that only moves on. -/
theorem Counts.moves {r : SmsSetupRun} (h : r.Counts) (pc : SmsPc) (completed : List Nat)
    (hmark : r.Over → pc ≠ .mark) (hcheck : pc ≠ .check) (hattempt : pc ≠ .attempt)
    (hseq : pc.inSequence = true → r.sms.pc = .attempt ∨ r.sms.pc.inSequence = true)
    (hend : r.sms.pc.inSequence = true → pc.inSequence = false →
      r.sms.configAttempts.toNat < smsConfigMaxAttempts) :
    ({ r with sms := { r.sms with pc := pc }, completed := completed } : SmsSetupRun).Counts := by
  have hover : r.Over →
      ({ r with sms := { r.sms with pc := pc }, completed := completed } : SmsSetupRun).Over :=
    fun hover => ⟨hover.1, hover.2.1, hmark hover, hattempt⟩
  exact {
    notified := h.notified
    pending := h.pending
    unlatched := by
      rintro (hpc | hpc)
      · exact absurd hpc hattempt
      · exact h.unlatched (hseq hpc)
    removed := by
      rintro (htwo | ⟨-, hpc | hpc⟩)
      · exact h.removed (Or.inl htwo)
      · exact absurd hpc hcheck
      · exact absurd hpc hattempt
    counted := h.counted.imp_left hover
    limited := fun happlied hpc => by
      cases hbefore : r.sms.pc.inSequence with
      | true => exact Or.inl (hend hbefore hpc)
      | false =>
        rcases h.limited happlied hbefore with hlt | hle | hov
        · exact Or.inl hlt
        · exact Or.inr (Or.inl hle)
        · exact Or.inr (Or.inr (hover hov))
    spaced := fun hpc => absurd hpc hattempt
    past := h.past
    bounded := h.bounded }

/-- The step before the second look at the flag: it is up, or there is no SIM. -/
theorem Counts.looks {r : SmsSetupRun} (h : r.Counts) (flag : Bool)
    (hpc : r.sms.pc.inSequence = false)
    (hflag : flag = true ∨ r.sim.simAvailable = false) (hover : r.Over → flag = false) :
    ({ r with sms := { r.sms with simInserted := flag, pc := .check } } : SmsSetupRun).Counts := by
  have hkeep : r.Over →
      ({ r with sms := { r.sms with simInserted := flag, pc := .check } } : SmsSetupRun).Over :=
    fun hov => ⟨hov.1, hover hov, (fun heq => nomatch heq), (fun heq => nomatch heq)⟩
  exact {
    notified := h.notified
    pending := h.pending
    unlatched := by
      rintro (heq | heq)
      · contradiction
      · contradiction
    removed := fun _ hdown => hflag.resolve_left fun hup => by
      change flag = false at hdown
      rw [hup] at hdown
      contradiction
    counted := h.counted.imp_left hkeep
    limited := fun happlied _ => by
      rcases h.limited happlied hpc with hlt | hle | hov
      · exact Or.inl hlt
      · exact Or.inr (Or.inl hle)
      · exact Or.inr (Or.inr (hkeep hov))
    spaced := fun heq => nomatch heq
    past := h.past
    bounded := h.bounded }

/-- The flag is seen down. -/
theorem Counts.reset {r : SmsSetupRun} (h : r.Counts) (hpc : r.sms.pc = .check)
    (hflag : r.sms.simInserted = false) :
    ({ r with sms := { r.sms with
        modemConfigApplied := false
        configAttempts := 0
        configLastAttemptMs := 0
        pc := .cycle } } : SmsSetupRun).Counts where
  notified := h.notified
  pending := h.pending
  unlatched _ := rfl
  removed := by
    rintro (htwo | ⟨-, heq | heq⟩)
    · exact h.removed (Or.inl htwo)
    · contradiction
    · contradiction
  counted := by
    cases hstarts : r.starts with
    | nil => exact Or.inr ⟨Nat.zero_le _, (fun _ ht => nomatch ht)⟩
    | cons t starts =>
      have hrepeats : r.Repeats := by
        refine Or.inr ⟨?_, Or.inl hpc⟩
        rw [hstarts]
        exact Nat.succ_le_succ (Nat.zero_le _)
      exact Or.inl ⟨h.removed hrepeats hflag, hflag, (fun heq => nomatch heq),
        (fun heq => nomatch heq)⟩
  limited _ _ := Or.inl (show (0 : UInt8).toNat < smsConfigMaxAttempts by decide)
  spaced heq := nomatch heq
  past := h.past
  bounded := h.bounded

/-- The checks let an attempt through. -/
theorem Counts.passes {r : SmsSetupRun} (h : r.Counts) (hpc : r.sms.pc = .check)
    (hflag : r.sms.simInserted = true) (happlied : r.sms.modemConfigApplied = false)
    (helapsed : ¬ (r.sms.configAttempts > 0 ∧
      (utilsMonotonicMsElapsed (UInt32.ofNat r.now) r.sms.configLastAttemptMs).toNat <
        smsConfigRetryIntervalMs)) :
    ({ r with sms := { r.sms with pc := .attempt } } : SmsSetupRun).Counts := by
  have hnot : ¬ r.Over := fun hover => by
    rw [hover.2.1] at hflag
    contradiction
  obtain ⟨hcount, hlast⟩ := h.counted.resolve_left hnot
  exact {
    notified := h.notified
    pending := h.pending
    unlatched := fun _ => happlied
    removed := fun _ hdown => by
      change r.sms.simInserted = false at hdown
      rw [hflag] at hdown
      contradiction
    counted := Or.inr ⟨hcount, hlast⟩
    limited := fun _ _ => by
      rcases h.limited happlied (by rw [hpc]; rfl) with hlt | hle | hover
      · exact Or.inl hlt
      · exact Or.inr (Or.inl hle)
      · exact absurd hover hnot
    spaced := fun _ t ht => by
      have hpast := h.past t ht
      have hpos : r.sms.configAttempts > 0 := by
        cases hstarts : r.starts with
        | nil =>
          change t ∈ r.starts.head? at ht
          rw [hstarts] at ht
          contradiction
        | cons u starts =>
          rw [hstarts, List.length_cons] at hcount
          exact UInt8.lt_iff_toNat_lt.mpr ((Nat.succ_pos _).trans_le hcount)
      have hge := not_lt.mp fun hlt => helapsed ⟨hpos, hlt⟩
      rw [hlast t ht] at hge
      have hle := utilsElapsedMsSince_le hpast
      have hsum := hge.trans hle
      change t + smsConfigRetryIntervalMs ≤ r.now
      change smsConfigRetryIntervalMs ≤ r.now - t at hsum
      unfold smsConfigRetryIntervalMs at hsum ⊢
      omega
    past := h.past
    bounded := h.bounded }

theorem Counts.check {r : SmsSetupRun} (h : r.Counts) (hpc : r.sms.pc = .check)
    (env : SmsSetupEnv) (hnow : env.nowMs = UInt32.ofNat r.now) :
    ({ r with sms := r.sms.check env } : SmsSetupRun).Counts := by
  have hcycle : ({ r with sms := { r.sms with pc := .cycle } } : SmsSetupRun).Counts := by
    apply h.moves .cycle r.completed (fun _ heq => nomatch heq) (fun heq => nomatch heq)
      (fun heq => nomatch heq) (fun heq => nomatch heq)
    intro hseq
    rw [hpc] at hseq
    contradiction
  unfold SmsSetup.check
  split
  · rename_i hflag
    exact h.reset hpc (by simpa using hflag)
  · rename_i hflag
    split
    · exact hcycle
    · rename_i happlied
      split
      · exact hcycle
      · rename_i helapsed
        rw [hnow] at helapsed
        exact h.passes hpc (by simpa using hflag) (by simpa using happlied) helapsed

/-- The attempt is counted. -/
theorem Counts.attempt {r : SmsSetupRun} (h : r.Counts) (hpc : r.sms.pc = .attempt)
    (hwrap : r.sms.configAttempts ≠ 255) (startedIn : Nat) :
    ({ r with
        sms := { r.sms with
          configAttempts := r.sms.configAttempts + 1
          configLastAttemptMs := UInt32.ofNat r.now
          pc := .init }
        starts := r.now :: r.starts
        startedIn := startedIn } : SmsSetupRun).Counts := by
  have hnot : ¬ r.Over := fun hover => hover.2.2.2 hpc
  obtain ⟨hcount, -⟩ := h.counted.resolve_left hnot
  have happlied := h.unlatched (Or.inl hpc)
  have hone : (r.sms.configAttempts + 1).toNat = r.sms.configAttempts.toNat + 1 := by
    have hne : r.sms.configAttempts.toNat ≠ 255 := fun heq => hwrap (UInt8.toNat_inj.mp heq)
    have hlt := r.sms.configAttempts.toNat_lt
    rw [UInt8.toNat_add]
    change (r.sms.configAttempts.toNat + 1) % 2 ^ 8 = _
    omega
  have hlimited : r.sms.configAttempts.toNat < smsConfigMaxAttempts ∨ r.starts.length ≤ 1 := by
    rcases h.limited happlied (by rw [hpc]; rfl) with hlt | hle | hover
    · exact Or.inl hlt
    · exact Or.inr hle
    · exact absurd hover hnot
  have hbounded := h.bounded r.starts List.mem_cons_self
  exact {
    notified := h.notified
    pending := h.pending
    unlatched := fun _ => happlied
    removed := by
      rintro (htwo | ⟨-, heq | heq⟩) hdown
      · exact h.removed (Or.inr ⟨Nat.le_of_succ_le_succ htwo, Or.inr hpc⟩) hdown
      · contradiction
      · contradiction
    counted := Or.inr (by
      refine ⟨?_, ?_⟩
      · rw [hone]
        exact Nat.succ_le_succ hcount
      · rintro t ⟨⟩
        rfl)
    limited := fun _ heq => nomatch heq
    spaced := fun heq => nomatch heq
    past := by
      rintro t ⟨⟩
      exact le_refl _
    bounded := fun starts hmem => by
      rcases List.mem_cons.mp hmem with rfl | hmem
      · refine ⟨?_, ?_⟩
        · rw [List.length_cons]
          unfold smsConfigMaxAttempts at hlimited ⊢
          omega
        · cases hstarts : r.starts with
          | nil => exact .singleton _
          | cons t starts =>
            have hspaced := hbounded.spaced
            rw [hstarts] at hspaced
            exact .cons_cons (h.spaced hpc t (by rw [hstarts]; rfl)) hspaced
      · exact h.bounded starts (List.mem_cons_of_mem _ hmem) }

/-- The end of a sequence. -/
theorem Counts.finish {r : SmsSetupRun} (h : r.Counts) (ok : Bool) (completed : List Nat) :
    ({ r with sms := r.sms.finish ok, completed := completed } : SmsSetupRun).Counts := by
  have hremoved : 2 ≤ r.starts.length → r.sms.simInserted = false → r.sim.simAvailable = false :=
    fun htwo => h.removed (Or.inl htwo)
  unfold SmsSetup.finish
  split
  · rename_i hcompletes
    apply h.moves .cycle completed (fun _ heq => nomatch heq) (fun heq => nomatch heq)
      (fun heq => nomatch heq) (fun heq => nomatch heq)
    intro _ _
    simp only [SmsSetup.completes, decide_eq_true_eq, not_or, not_le] at hcompletes
    exact hcompletes.2
  · split
    · rename_i hflag
      have hnot : ¬ r.Over := fun hover => by
        rw [hover.2.1] at hflag
        contradiction
      exact {
        notified := h.notified
        pending := h.pending
        unlatched := by
          rintro (heq | heq)
          · contradiction
          · contradiction
        removed := fun _ hdown => by
          change r.sms.simInserted = false at hdown
          rw [hflag] at hdown
          contradiction
        counted := Or.inr (h.counted.resolve_left hnot)
        limited := fun happlied => nomatch happlied
        spaced := fun heq => nomatch heq
        past := h.past
        bounded := h.bounded }
    · rename_i hflag
      have hdown : r.sms.simInserted = false := by simpa using hflag
      exact {
        notified := h.notified
        pending := h.pending
        unlatched := by
          rintro (heq | heq)
          · contradiction
          · contradiction
        removed := by
          rintro (htwo | ⟨-, heq | heq⟩)
          · exact hremoved htwo
          · contradiction
          · contradiction
        counted := h.counted.imp_left fun hover =>
          ⟨hover.1, hover.2.1, (fun heq => nomatch heq), (fun heq => nomatch heq)⟩
        limited := fun _ _ => by
          rcases Nat.lt_or_ge r.starts.length 2 with hle | htwo
          · exact Or.inr (Or.inl (Nat.le_of_lt_succ hle))
          · exact Or.inr (Or.inr ⟨hremoved htwo hdown, hdown, (fun heq => nomatch heq),
              (fun heq => nomatch heq)⟩)
        spaced := fun heq => nomatch heq
        past := h.past
        bounded := h.bounded }

/-- A sequence goes on. -/
theorem Counts.goesOn {r : SmsSetupRun} (h : r.Counts) (pc : SmsPc)
    (hbefore : r.sms.pc.inSequence = true) (hseq : pc.inSequence = true) :
    ({ r with sms := { r.sms with pc := pc } } : SmsSetupRun).Counts := by
  apply h.moves pc r.completed
  · rintro - rfl
    contradiction
  · rintro rfl
    contradiction
  · rintro rfl
    contradiction
  · exact fun _ => Or.inr hbefore
  · intro _ heq
    rw [hseq] at heq
    contradiction

theorem Counts.smsTask {r : SmsSetupRun} (h : r.Counts) {answer : ModemResult} {purged : Bool}
    (hcounted : r.Counted (.sms answer purged)) : (r.smsTask answer purged).Counts := by
  obtain ⟨hinit, hwrap⟩ := hcounted
  unfold SmsSetupRun.smsTask SmsSetup.smsConfigure
  cases hpc : r.sms.pc with
  | cycle =>
    apply h.moves .configure r.completed nofun nofun nofun nofun
    rw [hpc]
    exact nofun
  | configure =>
    have hseq : r.sms.pc.inSequence = false := by rw [hpc]; rfl
    dsimp only
    split
    · rename_i hflag
      exact h.looks r.sms.simInserted hseq (Or.inl hflag) fun hover => hover.2.1
    · apply h.moves .simStatus r.completed nofun nofun nofun nofun
      rw [hpc]
      exact nofun
  | simStatus =>
    have hseq : r.sms.pc.inSequence = false := by rw [hpc]; rfl
    dsimp only
    split
    · rename_i hstatus
      apply h.moves .mark r.completed _ nofun nofun nofun
      · rw [hpc]
        exact nofun
      · rintro hover -
        rw [hover.1] at hstatus
        contradiction
    · rename_i hstatus
      exact h.looks r.sms.simInserted hseq (Or.inr (by simpa using hstatus)) fun hover => hover.2.1
  | mark =>
    have hseq : r.sms.pc.inSequence = false := by rw [hpc]; rfl
    exact h.looks true hseq (Or.inl rfl) fun hover => absurd hpc hover.2.2.1
  | check => exact h.check hpc _ rfl
  | attempt => exact h.attempt hpc (hwrap hpc) _
  | init =>
    have hseq : r.sms.pc.inSequence = true := by rw [hpc]; rfl
    dsimp only
    split
    · exact h.goesOn .deleteAll hseq rfl
    · rename_i hanswer
      exact h.moves .cycle r.completed nofun nofun nofun nofun fun _ _ => hinit hpc hanswer
  | finish ok =>
    dsimp only
    split
    · exact h.finish ok _
    · exact h.finish ok r.completed
  | _ => exact h.goesOn _ (by rw [hpc]; rfl) rfl

theorem Counts.step {r : SmsSetupRun} (h : r.Counts) {e : SmsSetupEvent} (hcounted : r.Counted e) :
    (machine.step r e).2.Counts := by
  cases e with
  | wait ms => exact h.wait ms
  | sim available => exact h.simTask available
  | sms answer purged => exact h.smsTask hcounted

theorem boot_counts (available : Bool) (now : Nat) : (boot available now).Counts where
  notified := rfl
  pending _ hmem := nomatch hmem
  unlatched _ := rfl
  removed := by
    rintro (htwo | ⟨hone, -⟩)
    · exact absurd htwo (Nat.not_succ_le_zero _)
    · exact absurd hone (Nat.not_succ_le_zero _)
  counted := Or.inr ⟨Nat.zero_le _, (fun _ ht => nomatch ht)⟩
  limited _ _ := Or.inr (Or.inl (Nat.zero_le _))
  spaced heq := nomatch heq
  past _ ht := nomatch ht
  bounded starts hmem := by
    rcases List.mem_cons.mp hmem with rfl | hmem
    · exact bounded_nil
    · contradiction

/-! ## Main result -/

/-- In a run in which every insertion is seen, the latch is set only if a complete sequence
began after the latest insertion; and only in such a run. As long as `wm_sdk_sms_init` does not
fail at the last attempt, the sequences of every insertion are bounded and spaced out. -/
theorem sms_configured (available : Bool) (now : Nat) (es : List SmsSetupEvent) :
    (machine.Along (fun r e => (machine.step r e).2.Redone) (boot available now) es ↔
      machine.Along Seen (boot available now) es) ∧
    (machine.Along Counted (boot available now) es →
      (machine.run (boot available now) es).2.AllBounded) :=
  ⟨redone_iff available now es, fun h =>
    (machine.invariant (fun _ _ hr hcounted => hr.step hcounted)
      (boot_counts available now) h).bounded⟩

/-- A SIM comes and is configured; while the task is in `wm_sdk_sms_send` it is taken out and
another put in. -/
def swapped : List SmsSetupEvent :=
  [.sim true, .sim true] ++ List.replicate 10 (.sms .success false) ++
    [.sim false, .sim false, .wait 3000, .sim true, .sim true] ++
    List.replicate 4 (.sms .success false)

/-- The latch stays set, and no sequence is run for the second SIM. -/
theorem swap_missed :
    (¬ ∀ available now es,
      machine.Along (fun r e => (machine.step r e).2.Redone) (boot available now) es) ∧
    (machine.run (boot false 0) swapped).2.insertion = 2 ∧
    (machine.run (boot false 0) swapped).2.sms.modemConfigApplied = true ∧
    (machine.run (boot false 0) swapped).2.completed = [1] ∧
    (machine.run (boot false 0) swapped).2.starts = [] := by
  refine ⟨fun hall => ?_, ?_⟩
  · exact absurd (hall false 0 swapped) (by decide +kernel)
  · decide +kernel

end SmsSetupRun

end WalnutGateway
