import WalnutGateway.Common.EventManager

/-!
# Delivery of a broadcast

The registries stay tidy, and only registered callbacks are called. A callback that stands for
the whole of a broadcast is called once, unless a removal has moved its entry from a place the
loop had still to visit to one it had visited: then it is not called.
-/

namespace WalnutGateway

namespace EventRegistry

variable {r s t : EventRegistry}

/-- The entries up to `count` are active and different, and those behind are cleared. -/
structure Tidy (r : EventRegistry) : Prop where
  count_le : r.count ≤ maxCallbacksPerEvent
  active : ∀ i < r.count, (r.callbacks i).active = true ∧ (r.callbacks i).callback ≠ 0
  different : ∀ i < r.count, ∀ j < r.count,
    (r.callbacks i).callback = (r.callbacks j).callback → i = j
  cleared : ∀ i, r.count ≤ i → r.callbacks i = .cleared

theorem tidy_clear : clear.Tidy :=
  ⟨Nat.zero_le _, fun _ h => absurd h (Nat.not_lt_zero _),
    fun _ h => absurd h (Nat.not_lt_zero _), fun _ _ => rfl⟩

/-- The search finds the entry of a callback. -/
theorem Tidy.find_eq_some_iff (h : r.Tidy) {callback p : Nat} :
    r.find callback = some p ↔ p < r.count ∧ (r.callbacks p).callback = callback := by
  unfold find
  rw [List.find?_range_eq_some]
  constructor
  · rintro ⟨hholds, hp, -⟩
    simp only [holds, decide_eq_true_eq] at hholds
    exact ⟨List.mem_range.mp hp, hholds.2⟩
  · rintro ⟨hp, rfl⟩
    refine ⟨by simp [holds, (h.active p hp).1], List.mem_range.mpr hp, ?_⟩
    intro j hj
    have hne : (r.callbacks j).callback ≠ (r.callbacks p).callback :=
      fun heq => hj.ne (h.different j (hj.trans hp) p hp heq)
    simp [holds, hne]

theorem Tidy.find_entry (h : r.Tidy) {p : Nat} (hp : p < r.count) :
    r.find (r.callbacks p).callback = some p :=
  h.find_eq_some_iff.mpr ⟨hp, rfl⟩

/-- Callbacks that are still registered are where they were, or further in front. -/
def Sheds (r s : EventRegistry) : Prop :=
  ∀ callback q, s.find callback = some q → ∃ p, r.find callback = some p ∧ q ≤ p

theorem Sheds.refl (r : EventRegistry) : r.Sheds r := fun _ q h => ⟨q, h, le_refl q⟩

theorem Sheds.trans (h : r.Sheds s) (h' : s.Sheds t) : r.Sheds t := by
  intro callback q hq
  obtain ⟨p, hp, hle⟩ := h' callback q hq
  obtain ⟨o, ho, hle'⟩ := h callback p hp
  exact ⟨o, ho, hle.trans hle'⟩

/-! ## Removal -/

theorem removeIndex_count {idx : Nat} (h : idx < r.count) :
    (r.removeIndex idx).count = r.count - 1 := by
  unfold removeIndex
  rw [if_neg (by omega)]

/-- The last entry takes the freed place. -/
theorem removeIndex_callbacks {idx : Nat} (h : idx < r.count) (j : Nat) :
    (r.removeIndex idx).callbacks j =
      if j = r.count - 1 then .cleared
      else if j = idx then r.callbacks (r.count - 1) else r.callbacks j := by
  unfold removeIndex
  rw [if_neg (by omega)]
  dsimp only
  by_cases hlast : j = r.count - 1
  · rw [if_pos hlast, hlast, Function.update_self]
  · rw [if_neg hlast, Function.update_of_ne hlast]
    split
    · by_cases hidx : j = idx
      · rw [if_pos hidx, hidx, Function.update_self]
      · rw [if_neg hidx, Function.update_of_ne hidx]
    · rw [if_neg (by omega)]

/-- Where the entry at a place came from. -/
theorem removeIndex_origin {idx j : Nat} (h : idx < r.count) (hj : j < r.count - 1) :
    ∃ p, p < r.count ∧ j ≤ p ∧ p ≠ idx ∧ (r.removeIndex idx).callbacks j = r.callbacks p := by
  rw [removeIndex_callbacks h, if_neg hj.ne]
  by_cases hidx : j = idx
  · rw [if_pos hidx]
    exact ⟨r.count - 1, by omega, hj.le, by omega, rfl⟩
  · rw [if_neg hidx]
    exact ⟨j, by omega, le_refl j, hidx, rfl⟩

theorem Tidy.removeIndex (h : r.Tidy) (idx : Nat) : (r.removeIndex idx).Tidy := by
  by_cases hidx : idx < r.count
  · have hcount := removeIndex_count hidx
    refine ⟨?_, ?_, ?_, ?_⟩
    · have := h.count_le
      omega
    · intro i hi
      rw [hcount] at hi
      obtain ⟨p, hp, -, -, heq⟩ := removeIndex_origin hidx hi
      rw [heq]
      exact h.active p hp
    · intro i hi j hj hsame
      rw [hcount] at hi hj
      rw [removeIndex_callbacks hidx, removeIndex_callbacks hidx, if_neg hi.ne,
        if_neg hj.ne] at hsame
      split at hsame
      · split at hsame
        · omega
        · have := h.different _ (by omega) j (by omega) hsame
          omega
      · split at hsame
        · have := h.different i (by omega) _ (by omega) hsame
          omega
        · exact h.different i (by omega) j (by omega) hsame
    · intro i hi
      rw [hcount] at hi
      rw [removeIndex_callbacks hidx]
      split
      · rfl
      · rw [if_neg (by omega)]
        exact h.cleared i (by omega)
  · unfold EventRegistry.removeIndex
    rw [if_pos (by omega)]
    exact h

theorem Tidy.sheds_removeIndex (h : r.Tidy) (idx : Nat) : r.Sheds (r.removeIndex idx) := by
  intro callback q hq
  by_cases hidx : idx < r.count
  · obtain ⟨hlt, hcallback⟩ := (h.removeIndex idx).find_eq_some_iff.mp hq
    rw [removeIndex_count hidx] at hlt
    obtain ⟨p, hp, hle, -, heq⟩ := removeIndex_origin hidx hlt
    rw [heq] at hcallback
    exact ⟨p, h.find_eq_some_iff.mpr ⟨hp, hcallback⟩, hle⟩
  · unfold EventRegistry.removeIndex at hq
    rw [if_pos (by omega)] at hq
    exact ⟨q, hq, le_refl q⟩

theorem Tidy.removeModule (h : r.Tidy) (moduleName : String) (turns i : Nat) :
    (r.removeModule moduleName turns i).Tidy ∧ r.Sheds (r.removeModule moduleName turns i) := by
  induction turns generalizing i r with
  | zero => exact ⟨h, .refl r⟩
  | succ turns ih =>
    unfold EventRegistry.removeModule
    split
    · split
      · obtain ⟨htidy, hsheds⟩ := ih (h.removeIndex i) i
        exact ⟨htidy, (h.sheds_removeIndex i).trans hsheds⟩
      · exact ih h (i + 1)
    · exact ⟨h, .refl r⟩

/-! ## Registration -/

theorem Tidy.append (h : r.Tidy) (entry : CallbackEntry) (hroom : r.count < maxCallbacksPerEvent)
    (hactive : entry.active = true) (hcallback : entry.callback ≠ 0)
    (hnew : r.find entry.callback = none) : (r.append entry).Tidy := by
  have hold : ∀ i < r.count, (r.append entry).callbacks i = r.callbacks i :=
    fun i hi => Function.update_of_ne hi.ne _ _
  have hlast : (r.append entry).callbacks r.count = entry := Function.update_self _ _ _
  have hdiffers : ∀ i < r.count, (r.callbacks i).callback ≠ entry.callback := by
    intro i hi hsame
    have hfound := h.find_eq_some_iff.mpr ⟨hi, hsame⟩
    rw [hnew] at hfound
    contradiction
  refine ⟨hroom, ?_, ?_, ?_⟩
  · intro i hi
    rcases Nat.lt_succ_iff_lt_or_eq.mp hi with hi | rfl
    · rw [hold i hi]
      exact h.active i hi
    · rw [hlast]
      exact ⟨hactive, hcallback⟩
  · intro i hi j hj hsame
    rcases Nat.lt_succ_iff_lt_or_eq.mp hi with hi | rfl
    · rcases Nat.lt_succ_iff_lt_or_eq.mp hj with hj | rfl
      · rw [hold i hi, hold j hj] at hsame
        exact h.different i hi j hj hsame
      · rw [hold i hi, hlast] at hsame
        exact absurd hsame (hdiffers i hi)
    · rcases Nat.lt_succ_iff_lt_or_eq.mp hj with hj | rfl
      · rw [hlast, hold j hj] at hsame
        exact absurd hsame.symm (hdiffers j hj)
      · rfl
  · intro i hi
    have hne : i ≠ r.count := (Nat.lt_of_succ_le hi).ne'
    exact (Function.update_of_ne hne _ _).trans (h.cleared i (Nat.le_of_succ_le hi))

/-- Callbacks registered before and after are not further behind than they were. -/
def Settles (r s : EventRegistry) : Prop :=
  ∀ callback p q, r.find callback = some p → s.find callback = some q → q ≤ p

theorem Sheds.settles (h : r.Sheds s) : r.Settles s := by
  intro callback p q hp hq
  obtain ⟨p', hp', hle⟩ := h callback q hq
  rw [hp] at hp'
  cases hp'
  exact hle

theorem Tidy.settles_append (h : r.Tidy) {entry : CallbackEntry}
    (happended : (r.append entry).Tidy) (hnew : r.find entry.callback = none) :
    r.Settles (r.append entry) := by
  intro callback p q hp hq
  obtain ⟨hlt, hcallback⟩ := happended.find_eq_some_iff.mp hq
  rcases Nat.lt_succ_iff_lt_or_eq.mp hlt with hlt | rfl
  · have hsame : (r.append entry).callbacks q = r.callbacks q := Function.update_of_ne hlt.ne _ _
    rw [hsame] at hcallback
    have hq' := h.find_eq_some_iff.mpr ⟨hlt, hcallback⟩
    rw [hp] at hq'
    cases hq'
    exact le_refl _
  · have hlast : (r.append entry).callbacks r.count = entry := Function.update_self _ _ _
    rw [hlast] at hcallback
    rw [hcallback, hp] at hnew
    contradiction

/-- What a call does to a registry. -/
theorem Tidy.register (h : r.Tidy) (callback userData : Nat) (moduleName : Option String) :
    (EventManager.register callback userData moduleName r).2.Tidy ∧
      r.Settles (EventManager.register callback userData moduleName r).2 := by
  unfold EventManager.register
  split
  · exact ⟨h, (Sheds.refl r).settles⟩
  · rename_i hvalid
    split
    · exact ⟨h, (Sheds.refl r).settles⟩
    · rename_i hnew
      rw [Option.not_isSome_iff_eq_none] at hnew
      split
      · exact ⟨h, (Sheds.refl r).settles⟩
      · rename_i hroom
        have happended := h.append ⟨callback, userData, moduleName, true⟩
          (Nat.lt_of_not_le hroom) rfl (fun hnull => hvalid (Or.inl hnull)) hnew
        exact ⟨happended, h.settles_append happended hnew⟩

theorem Tidy.unregister (h : r.Tidy) (callback : Nat) :
    (EventManager.unregister callback r).2.Tidy ∧
      r.Settles (EventManager.unregister callback r).2 := by
  unfold EventManager.unregister
  split
  · exact ⟨h, (Sheds.refl r).settles⟩
  · split
    · exact ⟨h.removeIndex _, (h.sheds_removeIndex _).settles⟩
    · exact ⟨h, (Sheds.refl r).settles⟩

theorem Tidy.unregisterModule (h : r.Tidy) (moduleName : Option String) :
    (EventManager.unregisterModule moduleName r).Tidy ∧
      r.Settles (EventManager.unregisterModule moduleName r) := by
  unfold EventManager.unregisterModule
  split
  · split
    · exact ⟨h, (Sheds.refl r).settles⟩
    · obtain ⟨htidy, hsheds⟩ := h.removeModule _ r.count 0
      exact ⟨htidy, hsheds.settles⟩
  · exact ⟨h, (Sheds.refl r).settles⟩

end EventRegistry

/-! ## The records of a broadcast -/

namespace Broadcast

open EventRegistry

variable {b : Broadcast} {r s : EventRegistry}

/-- A callback that stands is still to be called, or was called once, or was passed. -/
structure Fair (r : EventRegistry) (b : Broadcast) : Prop where
  registered : ∀ c ∈ b.standing, ∃ p, r.find c = some p
  ahead : ∀ c ∈ b.standing, ∀ p, r.find c = some p → b.next ≤ p →
    p < b.count ∧ c ∉ b.called ∧ c ∉ b.passed
  behind : ∀ c ∈ b.standing, ∀ p, r.find c = some p → p < b.next →
    (c ∈ b.passed ∧ b.called.count c = 0) ∨ (c ∉ b.passed ∧ b.called.count c = 1)

theorem mem_passed_afterChange {c : Nat} :
    c ∈ (b.afterChange r s).passed ↔
      (c ∈ b.standing ∧ b.movedBehind r s c = true) ∨ c ∈ b.passed := by
  simp [afterChange]

theorem mem_standing_afterChange {c : Nat} :
    c ∈ (b.afterChange r s).standing ↔ c ∈ b.standing ∧ ∃ q, s.find c = some q := by
  simp [afterChange, Option.isSome_iff_exists]

theorem movedBehind_iff {c p q : Nat} (hp : r.find c = some p) (hq : s.find c = some q) :
    b.movedBehind r s c = true ↔ b.next ≤ p ∧ q < b.next := by
  simp [movedBehind, hp, hq]

/-- A change of the registry keeps the records right. -/
theorem Fair.afterChange (h : b.Fair r) (hsettles : r.Settles s) : (b.afterChange r s).Fair s := by
  refine ⟨?_, ?_, ?_⟩
  · intro c hc
    exact (mem_standing_afterChange.mp hc).2
  · intro c hc q hq hnext
    obtain ⟨hstands, -⟩ := mem_standing_afterChange.mp hc
    obtain ⟨p, hp⟩ := h.registered c hstands
    have hle := hsettles c p q hp hq
    have hnext' : b.next ≤ p := le_trans hnext hle
    obtain ⟨hcount, hcalled, hpassed⟩ := h.ahead c hstands p hp hnext'
    refine ⟨lt_of_le_of_lt hle hcount, hcalled, ?_⟩
    rw [mem_passed_afterChange, movedBehind_iff hp hq]
    rintro (⟨-, -, hlt⟩ | hbefore)
    · exact absurd hlt (not_lt.mpr hnext)
    · exact hpassed hbefore
  · intro c hc q hq hlt
    obtain ⟨hstands, -⟩ := mem_standing_afterChange.mp hc
    obtain ⟨p, hp⟩ := h.registered c hstands
    rw [mem_passed_afterChange, movedBehind_iff hp hq]
    rcases Nat.lt_or_ge p b.next with hbehind | hahead
    · have hstays : ¬ b.next ≤ p := not_le.mpr hbehind
      simp only [hstays, false_and, and_false, false_or]
      exact h.behind c hstands p hp hbehind
    · refine Or.inl ⟨Or.inl ⟨hstands, hahead, hlt⟩, ?_⟩
      exact List.count_eq_zero.mpr (h.ahead c hstands p hp hahead).2.1

/-- The return of a callback. -/
theorem Fair.returns (h : b.Fair r) (hruns : b.running = true) :
    Fair r { b with running := false, i := b.i + 1 } := by
  have hnext : next { b with running := false, i := b.i + 1 } = b.next := by
    simp [next, hruns]
  refine ⟨h.registered, ?_, ?_⟩
  · rw [hnext]
    exact h.ahead
  · rw [hnext]
    exact h.behind

/-- A call: the callback found at the place was still to be called. -/
theorem Fair.calls (h : b.Fair r) (hr : r.Tidy) (hloop : b.running = false)
    (hplace : b.i < r.count) :
    Fair r { b with
      running := true
      called := (r.callbacks b.i).callback :: b.called } := by
  have hnext : b.next = b.i := by simp [next, hloop]
  have hfound := hr.find_entry hplace
  have hother : ∀ c p, r.find c = some p → p ≠ b.i → c ≠ (r.callbacks b.i).callback := by
    rintro c p hp hne rfl
    rw [hfound] at hp
    cases hp
    exact hne rfl
  refine ⟨h.registered, ?_, ?_⟩
  · intro c hc p hp hahead
    change b.i + 1 ≤ p at hahead
    obtain ⟨hcount, hcalled, hpassed⟩ := h.ahead c hc p hp (by omega)
    refine ⟨hcount, ?_, hpassed⟩
    rw [List.mem_cons]
    rintro (hsame | hbefore)
    · exact hother c p hp (by omega) hsame
    · exact hcalled hbefore
  · intro c hc p hp hbehind
    change p < b.i + 1 at hbehind
    rcases Nat.lt_succ_iff_lt_or_eq.mp hbehind with hlt | rfl
    · rw [List.count_cons_of_ne (hother c p hp hlt.ne).symm]
      exact h.behind c hc p hp (by omega)
    · obtain ⟨-, hcalled, hpassed⟩ := h.ahead c hc b.i hp hnext.le
      obtain ⟨-, rfl⟩ := hr.find_eq_some_iff.mp hp
      refine Or.inr ⟨hpassed, ?_⟩
      rw [List.count_cons_self, List.count_eq_zero.mpr hcalled]

/-- A turn that finds no callback: there is none from there on. -/
theorem Fair.skips (h : b.Fair r) (hr : r.Tidy) (hloop : b.running = false)
    (hplace : r.count ≤ b.i) : Fair r { b with i := b.i + 1 } := by
  have hnext : b.next = b.i := by simp [next, hloop]
  have hnext' : next { b with i := b.i + 1 } = b.i + 1 := by simp [next, hloop]
  refine ⟨h.registered, ?_, ?_⟩
  · intro c hc p hp hahead
    rw [hnext'] at hahead
    have := (hr.find_eq_some_iff.mp hp).1
    omega
  · intro c hc p hp hbehind
    have := (hr.find_eq_some_iff.mp hp).1
    exact h.behind c hc p hp (by omega)

/-- The beginning of a broadcast. -/
theorem fair_begins (hr : r.Tidy) (event : EventType) :
    Fair r
      { event := event
        i := 0
        count := r.count
        running := false
        standing := (List.range r.count).map fun i => (r.callbacks i).callback
        called := []
        passed := [] } := by
  refine ⟨?_, ?_, ?_⟩
  · intro c hc
    obtain ⟨i, hi, rfl⟩ := List.mem_map.mp hc
    exact ⟨i, hr.find_entry (List.mem_range.mp hi)⟩
  · intro c _ p hp _
    exact ⟨(hr.find_eq_some_iff.mp hp).1, by simp, by simp⟩
  · intro c _ p _ hbehind
    exact absurd hbehind (Nat.not_lt_zero p)

/-- At the end of the loop a callback that stands was called once, unless it was passed. -/
theorem Fair.called_once_iff (h : b.Fair r) (hloop : b.running = false) (hend : b.count ≤ b.i)
    {c : Nat} (hc : c ∈ b.standing) : b.called.count c = 1 ↔ c ∉ b.passed := by
  have hnext : b.next = b.i := by simp [next, hloop]
  obtain ⟨p, hp⟩ := h.registered c hc
  rcases Nat.lt_or_ge p b.next with hbehind | hahead
  · rcases h.behind c hc p hp hbehind with ⟨hpassed, hcalled⟩ | ⟨hpassed, hcalled⟩
    · simp [hpassed, hcalled]
    · simp [hpassed, hcalled]
  · have := (h.ahead c hc p hp hahead).1
    omega

end Broadcast

/-! ## Runs -/

namespace EventManager

open EventRegistry

variable {m : EventManager}

/-- The registries are tidy, and the records of the broadcasts right. -/
structure Orderly (m : EventManager) : Prop where
  tidy : ∀ event, (m.registries event).Tidy
  fair : ∀ b ∈ m.broadcasts, b.Fair (m.registries b.event)

theorem orderly_init : init.Orderly := ⟨fun _ => tidy_clear, by simp [init]⟩

theorem Orderly.change (h : m.Orderly) {registries : EventType → EventRegistry}
    (htidy : ∀ event, (registries event).Tidy)
    (hsettles : ∀ event, (m.registries event).Settles (registries event)) :
    (m.change registries).Orderly := by
  refine ⟨htidy, ?_⟩
  intro b hb
  obtain ⟨before, hbefore, rfl⟩ := List.mem_map.mp hb
  exact (h.fair before hbefore).afterChange (hsettles before.event)

/-- A call that changes one registry. -/
theorem Orderly.update (h : m.Orderly) {event : EventType} {r : EventRegistry}
    (hr : r.Tidy ∧ (m.registries event).Settles r) :
    (m.change (Function.update m.registries event r)).Orderly := by
  apply h.change
  · intro other
    by_cases hother : other = event
    · rw [hother, Function.update_self]
      exact hr.1
    · rw [Function.update_of_ne hother]
      exact h.tidy other
  · intro other
    by_cases hother : other = event
    · rw [hother, Function.update_self]
      exact hr.2
    · rw [Function.update_of_ne hother]
      exact (Sheds.refl _).settles

theorem Orderly.replace (h : m.Orderly) {b b' : Broadcast} {outer : List Broadcast}
    (hm : m.broadcasts = b :: outer) (hevent : b'.event = b.event)
    (hb : b'.Fair (m.registries b.event)) : Orderly { m with broadcasts := b' :: outer } := by
  refine ⟨h.tidy, ?_⟩
  intro other hother
  rcases List.mem_cons.mp hother with rfl | houter
  · rw [hevent]
    exact hb
  · exact h.fair other (by simp [hm, houter])

/-- The place of an entry that is active. -/
theorem place_of_active {r : EventRegistry} (hr : r.Tidy) {i : Nat}
    (h : (r.callbacks i).active = true) : i < r.count := by
  by_contra hplace
  rw [hr.cleared i (Nat.le_of_not_lt hplace)] at h
  contradiction

theorem Orderly.resume (h : m.Orderly) : m.resume.2.Orderly := by
  unfold EventManager.resume
  split
  · exact h
  · rename_i b outer hm
    have hb := h.fair b (by simp [hm])
    have hr := h.tidy b.event
    split
    · rename_i hruns
      exact h.replace hm rfl (hb.returns hruns)
    · rename_i hloop
      have hloop := eq_false_of_ne_true hloop
      split
      · dsimp only
        split
        · rename_i hentry
          exact h.replace hm rfl (hb.calls hr hloop (place_of_active hr hentry.1))
        · rename_i hentry
          refine h.replace hm rfl (hb.skips hr hloop ?_)
          by_contra hplace
          exact hentry (hr.active b.i (Nat.lt_of_not_le hplace))
      · exact ⟨h.tidy, fun other hother => h.fair other (by simp [hm, hother])⟩

theorem Orderly.broadcast (h : m.Orderly) (event : EventType) (sourceModule : Option String) :
    (m.broadcast event sourceModule).2.Orderly := by
  unfold EventManager.broadcast
  dsimp only
  split
  · exact h
  · split
    · exact h
    · refine ⟨h.tidy, ?_⟩
      intro b hb
      rcases List.mem_cons.mp hb with rfl | houter
      · exact Broadcast.fair_begins (h.tidy event) event
      · exact h.fair b houter

theorem Orderly.step (h : m.Orderly) (call : EventCall) : (eventMachine.step m call).2.Orderly := by
  cases call with
  | register event callback userData moduleName =>
    simp only [eventMachine]
    split
    · exact h.update ((h.tidy event).register callback userData moduleName)
    · exact h
  | unregister event callback =>
    simp only [eventMachine]
    split
    · exact h.update ((h.tidy event).unregister callback)
    · exact h
  | unregisterModule moduleName =>
    simp only [eventMachine]
    split
    · exact h.change (fun event => ((h.tidy event).unregisterModule moduleName).1)
        (fun event => ((h.tidy event).unregisterModule moduleName).2)
    · exact h
  | broadcast event sourceModule =>
    simp only [eventMachine]
    split
    · exact h.broadcast event sourceModule
    · exact h
  | resume => exact h.resume

/-- The broadcast that ends with the step. -/
def ending (m : EventManager) (call : EventCall) : Option Broadcast :=
  match call, m.broadcasts with
  | .resume, b :: _ => if b.running = false ∧ b.count ≤ b.i then some b else none
  | _, _ => none

/-- A step calls only a callback that is registered, and leaves the registries tidy. -/
def Sound (m : EventManager) (call : EventCall) : Prop :=
  (∀ event callback userData, (eventMachine.step m call).1 = .called event callback userData →
    ((m.registries event).find callback).isSome) ∧
  ∀ event, ((eventMachine.step m call).2.registries event).Tidy

/-- A broadcast that ends has called each callback that stands since it began once. -/
def CallsEach (m : EventManager) (call : EventCall) : Prop :=
  ∀ b ∈ m.ending call, ∀ c ∈ b.standing, b.called.count c = 1

/-- No callback that stood to the end of a broadcast was moved behind its loop. -/
def SparesStanding (m : EventManager) (call : EventCall) : Prop :=
  ∀ b ∈ m.ending call, ∀ c ∈ b.standing, c ∉ b.passed

instance (m : EventManager) (call : EventCall) : Decidable (m.CallsEach call) :=
  inferInstanceAs (Decidable (∀ b ∈ m.ending call, _))

/-- Only a turn of the loop calls, and what it calls it found in the registry. -/
theorem Orderly.calls_registered (h : m.Orderly) {call : EventCall} {event : EventType}
    {callback userData : Nat}
    (hcalled : (eventMachine.step m call).1 = .called event callback userData) :
    ((m.registries event).find callback).isSome := by
  cases call with
  | register event callback userData moduleName =>
    simp only [eventMachine] at hcalled
    split at hcalled
    · contradiction
    · contradiction
  | unregister event callback =>
    simp only [eventMachine] at hcalled
    split at hcalled
    · contradiction
    · contradiction
  | unregisterModule moduleName =>
    simp only [eventMachine] at hcalled
    split at hcalled
    · contradiction
    · contradiction
  | broadcast event sourceModule =>
    simp only [eventMachine, EventManager.broadcast] at hcalled
    repeat' split at hcalled
    all_goals contradiction
  | resume =>
    simp only [eventMachine, EventManager.resume] at hcalled
    split at hcalled
    · contradiction
    · rename_i b outer hm
      split at hcalled
      · contradiction
      · split at hcalled
        · split at hcalled
          · rename_i hentry
            cases hcalled
            rw [(h.tidy b.event).find_entry (place_of_active (h.tidy b.event) hentry.1)]
            rfl
          · contradiction
        · contradiction

theorem of_mem_ending {call : EventCall} {b : Broadcast} (h : b ∈ m.ending call) :
    b ∈ m.broadcasts ∧ b.running = false ∧ b.count ≤ b.i := by
  unfold ending at h
  split at h
  · rename_i first outer hm
    split at h
    · rename_i hends
      cases h
      exact ⟨by simp [hm], hends⟩
    · contradiction
  · contradiction

/-- Each standing callback was called once if and only if none was moved behind the loop. -/
theorem Orderly.callsEach_iff (h : m.Orderly) (call : EventCall) :
    m.CallsEach call ↔ m.SparesStanding call := by
  apply forall₂_congr
  intro b hb
  obtain ⟨hunderWay, hloop, hend⟩ := of_mem_ending hb
  apply forall₂_congr
  intro c hc
  exact (h.fair b hunderWay).called_once_iff hloop hend hc

/-- In every run only registered callbacks are called and the registries stay tidy; and every
broadcast calls each callback that stands from its beginning to its end once, if and only if
no removal moves one from a place the loop has still to visit to one it has visited. -/
theorem broadcast_delivery (calls : List EventCall) :
    eventMachine.Along Sound init calls ∧
      (eventMachine.Along CallsEach init calls ↔ eventMachine.Along SparesStanding init calls) := by
  constructor
  · exact Machine.Along.mono_of_invariant (I := Orderly) (fun m call h _ => h.step call)
      (fun m call h _ => ⟨fun _ _ _ => h.calls_registered, (h.step call).tidy⟩) orderly_init
      (Machine.Along.trivial _ _ _)
  · exact eventMachine.along_congr (I := Orderly) (fun m call h _ => h.step call)
      (fun m call h => h.callsEach_iff call) orderly_init

/-- Three listeners; the first unregisters itself while it runs. -/
def oneShotListener : List EventCall :=
  [.register .simAvailable 1 0 (some "SMS"), .register .simAvailable 2 0 (some "Network"),
    .register .simAvailable 3 0 (some "GPS"), .broadcast .simAvailable (some "SIM"), .resume,
    .unregister .simAvailable 1, .resume, .resume, .resume, .resume, .resume]

/-- The third listener takes the place of the first and is not called. -/
theorem listener_skipped : ¬ ∀ calls, eventMachine.Along CallsEach init calls := by
  intro h
  have hrun := h oneShotListener
  revert hrun
  decide +kernel

end EventManager

end WalnutGateway
