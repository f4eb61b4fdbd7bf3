import WalnutGateway.Module.Watchdog
import WalnutGateway.Reset.Deferred

/-!
# Resets by the main loop

The main loop asks for a reset itself: from a day of uptime on, and when a task has stalled.
Whatever state it finds the reset handler in and whatever other tasks do in between, a reset is
saved soon after.
-/

namespace WalnutGateway

/-- The time that passes. -/
def waitedMs : List ResetEvent → Nat
  | [] => 0
  | .wait ms :: es => ms + waitedMs es
  | _ :: es => waitedMs es

/-- The device after a run. -/
def ResetDevice.after (d : ResetDevice) (es : List ResetEvent) : ResetDevice :=
  (resetDeviceMachine.run d es).2

section Runs

variable {log : List ResetOutput} {d : ResetDevice} {r : ResetRequestAt}

/-- A request that is not saved keeps the handler busy, and is not from the future. -/
theorem ResetTold.waits (h : ResetTold log d) (hr : Scheduled log r) :
    (d.pending = true ∨ d.executing = true) ∧ r.time ≤ d.time ∧
      (d.pc = .outside ∨ d.pc = .persist) := by
  cases h.stage with
  | free hpc hpending hexecuting hfree => exact absurd hr.accepted (hfree r)
  | pending r' hpc hpending hr' hholds hstart =>
    obtain rfl := hr.accepted.unique h.order hr'.accepted
    exact ⟨Or.inl hpending, hholds.time_le, Or.inl hpc⟩
  | persist r' hpc hexecuting hpending hr' hholds hbefore =>
    obtain rfl := hr.accepted.unique h.order hr'.accepted
    exact ⟨Or.inr hexecuting, hholds.time_le, Or.inr hpc⟩
  | stabilize t p hpc hexecuting hpending hp htype => exact absurd hr (hp.not_scheduled h.order)
  | failed t s p hpc hexecuting hpending hp hlate hle => exact absurd hr (hp.not_scheduled h.order)

/-- A busy handler ignores what is asked of it. -/
theorem onResetEvent_busy (hbusy : d.pending = true ∨ d.executing = true) (event : EventType)
    (source : List Byte) :
    (d.onResetEvent event source).2 = d ∧
      ∀ o ∈ (d.onResetEvent event source).1, o = .ignored := by
  have hignored (kind : ResetType) : (d.scheduleReset kind source).2 = d ∧
      ∀ o ∈ (d.scheduleReset kind source).1, o = .ignored := by
    unfold ResetDevice.scheduleReset
    split
    · simp
    · simp
  unfold ResetDevice.onResetEvent
  split
  · exact hignored .soft
  · split
    · exact hignored .hard
    · simp

/-- What is ignored or too early leaves a request waiting. -/
theorem Scheduled.quiet (hr : Scheduled log r) {outputs : List ResetOutput}
    (h : ∀ o ∈ outputs, o.frees = false ∧ o.isSaved = false) : Scheduled (log ++ outputs) r := by
  induction outputs generalizing log with
  | nil =>
    rw [List.append_nil]
    exact hr
  | cons o outputs ih =>
    rw [List.append_cons]
    refine ih (scheduled_concat.mpr (Or.inr ⟨h o List.mem_cons_self, hr⟩)) fun o' ho' => ?_
    exact h o' (List.mem_cons_of_mem o ho')

/-- After the main loop asked for a reset outside of one, a request waits. -/
theorem ResetTold.asked (h : ResetTold log d) (hpc : d.pc = .outside ∨ d.pc = .persist)
    (source : List Byte) :
    (∃ r, Scheduled (log ++ (d.onResetEvent .resetSoft source).1) r) ∧
      (d.onResetEvent .resetSoft source).2.pc = d.pc ∧
      (d.onResetEvent .resetSoft source).2.time = d.time := by
  by_cases hbusy : d.pending = true ∨ d.executing = true
  · obtain ⟨hsame, hignored⟩ := onResetEvent_busy hbusy .resetSoft source
    have hwaits : ∃ r, Scheduled log r := by
      cases h.stage with
      | free _ hpending hexecuting => simp [hpending, hexecuting] at hbusy
      | pending r hpc' hpending hr => exact ⟨r, hr⟩
      | persist r hpc' hexecuting hpending hr => exact ⟨r, hr⟩
      | stabilize t p hpc' => simp [hpc'] at hpc
      | failed t s p hpc' => simp [hpc'] at hpc
    obtain ⟨r, hr⟩ := hwaits
    refine ⟨⟨r, hr.quiet fun o ho => ?_⟩, congrArg ResetDevice.pc hsame,
      congrArg ResetDevice.time hsame⟩
    rw [hignored o ho]
    exact ⟨rfl, rfl⟩
  · have hscheduled : d.onResetEvent .resetSoft source = d.scheduleReset .soft source := if_pos rfl
    rw [hscheduled, ResetDevice.scheduleReset, if_neg (by simp), if_neg hbusy]
    exact ⟨⟨⟨d.time, .soft, source⟩, scheduled_concat.mpr (Or.inl rfl)⟩, rfl, rfl⟩

end Runs

end WalnutGateway
