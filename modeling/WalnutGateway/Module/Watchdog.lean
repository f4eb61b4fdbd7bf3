import WalnutGateway.Core.Machine
import Mathlib.Algebra.Group.Nat.Defs

/-!
# The task-stall watchdog

`module_manager_monitor_tasks` reads the uptime once and then the stamp of one
module after the other, while the tasks go on writing their stamps. Uptime is
the 32-bit millisecond counter divided by 1000. The time of the last stamp is
carried along beside the stamp itself, so that a verdict can be compared with
how long a task was silent.
-/

namespace WalnutGateway

/-- What the watchdog reads of a `Module`. -/
structure WatchedModule where
  enabled : Bool
  hasTask : Bool
  initialized : Bool
  taskUptimeSec : UInt32
  deriving DecidableEq

/-- The modules that `module_manager_monitor_tasks` does not skip. -/
def WatchedModule.watched (m : WatchedModule) : Bool := m.enabled && m.hasTask && m.initialized

/-- `wm_sdk_get_ticks`, `ms` milliseconds after power-on. -/
def wmSdkGetTicks (ms : Nat) : UInt32 := UInt32.ofNat ms

/-- `utils_get_uptime_seconds`. -/
def utilsGetUptimeSeconds (ms : Nat) : UInt32 := wmSdkGetTicks ms / 1000

/-- A call of `module_manager_monitor_tasks` that has not returned. -/
structure Scan where
  timeoutSec : UInt32
  now : UInt32
  /-- When `now` was read. -/
  since : Nat
  /-- The loop variable. -/
  next : Nat

/-- `g_modules` in time, with the time at which each stamp was written. -/
structure WatchState where
  /-- Milliseconds since power-on. -/
  clock : Nat
  modules : List (Option WatchedModule)
  fed : Nat → Nat
  scan : Option Scan

/-- What the tasks and the main loop do, one memory access at a time. -/
inductive WatchOp
  | elapse (ms : Nat)
  | updateUptime (i : Nat)
  | moduleReady (i : Nat)
  | monitorTasks (timeoutSec : UInt32)
  | monitorNext

namespace WatchState

/-- The stamp of a module is written, and perhaps its `initialized`. -/
def feed (s : WatchState) (i : Nat) (ready : Bool) : WatchState :=
  { s with
    modules := s.modules.modify i fun m => m.map fun m =>
      { m with
        initialized := ready || m.initialized
        taskUptimeSec := utilsGetUptimeSeconds s.clock }
    fed := fun j => if j = i then s.clock else s.fed j }

/-- One round of the loop of `module_manager_monitor_tasks`; the verdict where it returns. -/
def monitorNext (s : WatchState) : Option Bool × WatchState :=
  match s.scan with
  | none => (none, s)
  | some c =>
    match s.modules[c.next]? with
    | none => (some false, { s with scan := none })
    | some none => (none, { s with scan := some { c with next := c.next + 1 } })
    | some (some m) =>
      if m.watched ∧ c.now - m.taskUptimeSec > c.timeoutSec then
        (some true, { s with scan := none })
      else (none, { s with scan := some { c with next := c.next + 1 } })

end WatchState

/-- The watchdog and the tasks it watches. -/
def watchMachine : Machine WatchState WatchOp (Option Bool) where
  step s op :=
    match op with
    | .elapse ms => (none, { s with clock := s.clock + ms })
    | .updateUptime i => (none, s.feed i false)
    | .moduleReady i => (none, s.feed i true)
    | .monitorTasks timeoutSec =>
      (none, { s with scan := some ⟨timeoutSec, utilsGetUptimeSeconds s.clock, s.clock, 0⟩ })
    | .monitorNext => s.monitorNext

/-- Some watched module has been silent for more than a number of seconds. -/
def Stalled (s : WatchState) (sec : Nat) : Prop :=
  ∃ i m, s.modules[i]? = some (some m) ∧ m.watched = true ∧ 1000 * sec < s.clock - s.fed i

/-- The stamp that is compared next is not ahead of `now`: it was written before
`now` was read and is not greater, or it is the same second. -/
def StampBehind (s : WatchState) (op : WatchOp) : Prop :=
  op = .monitorNext → ∀ c m, s.scan = some c → s.modules[c.next]? = some (some m) →
    (s.fed c.next ≤ c.since ∧ m.taskUptimeSec ≤ c.now) ∨ m.taskUptimeSec = c.now

/-! ## Stamps and times -/

/-- Stamps and samples are readings of the uptime, none of them from the future. -/
structure WatchState.Timed (s : WatchState) : Prop where
  stamp : ∀ i m, s.modules[i]? = some (some m) →
    m.taskUptimeSec = utilsGetUptimeSeconds (s.fed i)
  fed_le : ∀ i, s.fed i ≤ s.clock
  scan : ∀ c, s.scan = some c → c.now = utilsGetUptimeSeconds c.since ∧ c.since ≤ s.clock

theorem utilsGetUptimeSeconds_toNat (ms : Nat) :
    (utilsGetUptimeSeconds ms).toNat = ms % 4294967296 / 1000 := by
  simp [utilsGetUptimeSeconds, wmSdkGetTicks]

/-- Seconds that differ without a wrap are apart in time. -/
theorem elapsed_of_uptime {before after : Nat} {sec : UInt32} (hle : before ≤ after)
    (hstamp : utilsGetUptimeSeconds before ≤ utilsGetUptimeSeconds after)
    (hover : utilsGetUptimeSeconds after - utilsGetUptimeSeconds before > sec) :
    1000 * sec.toNat < after - before := by
  have hsub := UInt32.toNat_sub_of_le _ _ hstamp
  have hover' := UInt32.lt_iff_toNat_lt.mp hover
  have hstamp' := UInt32.le_iff_toNat_le.mp hstamp
  rw [hsub] at hover'
  rw [utilsGetUptimeSeconds_toNat, utilsGetUptimeSeconds_toNat] at hover' hstamp'
  omega

namespace WatchState

variable {s : WatchState}

/-- What a stamp says is true when it is written. -/
theorem Timed.feed (h : s.Timed) (i : Nat) (ready : Bool) : (s.feed i ready).Timed where
  stamp := by
    intro j m hm
    simp only [WatchState.feed, List.getElem?_modify] at hm ⊢
    by_cases hj : i = j
    · subst hj
      simp only [ite_true, Option.map_eq_map, Option.map_eq_some_iff] at hm ⊢
      obtain ⟨o, -, m', -, rfl⟩ := hm
      rfl
    · rw [if_neg (Ne.symm hj)]
      apply h.stamp j m
      simpa [hj] using hm
  fed_le := by
    intro j
    simp only [WatchState.feed]
    split
    · exact Nat.le_refl _
    · exact h.fed_le j
  scan := h.scan

/-- Nothing is from the future, whatever happens next. -/
theorem Timed.step (h : s.Timed) (op : WatchOp) : (watchMachine.step s op).2.Timed := by
  cases op with
  | elapse ms =>
    refine ⟨h.stamp, fun i => Nat.le_trans (h.fed_le i) (Nat.le_add_right _ _), ?_⟩
    intro c hc
    exact ⟨(h.scan c hc).1, Nat.le_trans (h.scan c hc).2 (Nat.le_add_right _ _)⟩
  | updateUptime i => exact h.feed i false
  | moduleReady i => exact h.feed i true
  | monitorTasks timeoutSec =>
    refine ⟨h.stamp, h.fed_le, ?_⟩
    rintro c ⟨⟩
    exact ⟨rfl, Nat.le_refl _⟩
  | monitorNext =>
    have hnone : ({ s with scan := none } : WatchState).Timed := ⟨h.stamp, h.fed_le, nofun⟩
    simp only [watchMachine, WatchState.monitorNext]
    split
    · exact h
    · rename_i c hc
      have hnext : ({ s with scan := some { c with next := c.next + 1 } } : WatchState).Timed := by
        refine ⟨h.stamp, h.fed_le, ?_⟩
        rintro c' ⟨⟩
        exact h.scan c hc
      split
      · exact hnone
      · exact hnext
      · split
        · exact hnone
        · exact hnext

/-- The step lemma: a verdict about a stamp that is not ahead of `now` is right. -/
theorem Timed.monitorNext_sound (h : s.Timed) (hbehind : StampBehind s .monitorNext)
    (htrue : s.monitorNext.1 = some true) :
    ∃ c, s.scan = some c ∧ Stalled s c.timeoutSec.toNat := by
  unfold WatchState.monitorNext at htrue
  split at htrue
  · contradiction
  · rename_i c hc
    refine ⟨c, hc, ?_⟩
    split at htrue
    · cases htrue
    · contradiction
    · rename_i m hm
      split at htrue
      · rename_i hover
        obtain ⟨hnow, hsince⟩ := h.scan c hc
        have hstamp := h.stamp c.next m hm
        refine ⟨c.next, m, hm, hover.1, ?_⟩
        rcases hbehind rfl c m hc hm with ⟨hfed, hle⟩ | hsame
        · have helapsed : 1000 * c.timeoutSec.toNat < c.since - s.fed c.next := by
            apply elapsed_of_uptime hfed
            · rw [← hstamp, ← hnow]
              exact hle
            · rw [← hstamp, ← hnow]
              exact hover.2
          omega
        · have hzero := hover.2
          rw [hsame, UInt32.sub_self] at hzero
          exact absurd hzero (by simp)
      · contradiction

end WatchState

/-! ## The verdict of a whole scan -/

/-- In every run in which no stamp is ahead of the `now` it is compared with, the
watchdog reports a stall only if a watched module was silent for longer than the timeout. -/
theorem module_manager_monitor_tasks_sound {s : WatchState} (hs : s.Timed)
    (ops : List WatchOp) (op : WatchOp) (h : watchMachine.Along StampBehind s (ops ++ [op])) :
    let t := (watchMachine.run s ops).2
    (watchMachine.step t op).1 = some true →
      ∃ c, t.scan = some c ∧ Stalled t c.timeoutSec.toNat := by
  obtain ⟨hpast, hlast⟩ := Machine.along_append.mp h
  have htimed := watchMachine.invariant (I := WatchState.Timed)
    (fun _ op ht _ => ht.step op) hs hpast
  intro t htrue
  cases op with
  | monitorNext => exact htimed.monitorNext_sound hlast.1 htrue
  | elapse => contradiction
  | updateUptime => contradiction
  | moduleReady => contradiction
  | monitorTasks => contradiction

/-- One watched module, stamped just now. -/
def oneTask (clock : Nat) : WatchState :=
  ⟨clock, [some ⟨true, true, true, utilsGetUptimeSeconds clock⟩], fun _ => clock, none⟩

theorem oneTask_timed (clock : Nat) : (oneTask clock).Timed where
  stamp := by
    intro i m hm
    cases i with
    | zero =>
      cases hm
      rfl
    | succ i => simp [oneTask] at hm
  fed_le := fun _ => Nat.le_refl _
  scan := nofun

/-- Only the one task can be stalled. -/
theorem not_stalled_of_length {s : WatchState} (hlen : s.modules.length = 1) {sec : Nat}
    (h : s.clock - s.fed 0 ≤ 1000 * sec) : ¬ Stalled s sec := by
  rintro ⟨i, m, hm, -, hlate⟩
  have hi : i = 0 := by
    have hlt := (List.getElem?_eq_some_iff.mp hm).1
    omega
  subst hi
  omega

/-- A task that is silent for 62 seconds is reported. -/
theorem module_manager_monitor_tasks_sound_silent :
    ∃ c, (watchMachine.run (oneTask 5000) [.elapse 62000, .monitorTasks 60]).2.scan = some c ∧
      Stalled (watchMachine.run (oneTask 5000) [.elapse 62000, .monitorTasks 60]).2
        c.timeoutSec.toNat := by
  refine module_manager_monitor_tasks_sound (oneTask_timed 5000)
    [.elapse 62000, .monitorTasks 60] .monitorNext ⟨nofun, nofun, ?_, trivial⟩ rfl
  rintro - c m ⟨⟩ ⟨⟩
  exact Or.inl ⟨by decide, by decide⟩

/-- A task that stamps between the reading of `now` and the comparison is reported
as stalled, and so is one that stamps just before the counter wraps. -/
theorem module_manager_monitor_tasks_false_alarm :
    let race := (watchMachine.run (oneTask 5000)
      [.elapse 900, .monitorTasks 60, .elapse 200, .updateUptime 0]).2
    let wrap := (watchMachine.run (oneTask (2 ^ 32 - 1)) [.elapse 1, .monitorTasks 60]).2
    ((watchMachine.step race .monitorNext).1 = some true ∧ ¬ Stalled race 60) ∧
      ((watchMachine.step wrap .monitorNext).1 = some true ∧ ¬ Stalled wrap 60) := by
  refine ⟨⟨?_, not_stalled_of_length ?_ ?_⟩, ⟨?_, not_stalled_of_length ?_ ?_⟩⟩ <;>
    decide +kernel

end WalnutGateway
