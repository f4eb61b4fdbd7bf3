import WalnutGateway.Common.EventManager
import WalnutGateway.Common.Text
import WalnutGateway.Core.OutputLog
import WalnutGateway.Reset.RecordProtocol

/-!
# Deferred resets

Any task may ask for a reset by an event; the main loop performs it a little later, unless another
one is under way. The reset may come back, and power may go at any time. A log tells what became
of the requests and what each boot reports, on a flash where nothing fails.
-/

namespace WalnutGateway

/-- `RESET_DEFER_DELAY_MS`. -/
def resetDeferDelayMs : UInt32 := 200

/-- `RESET_SOFT_STABILIZE_MS`. -/
def resetSoftStabilizeMs : Nat := 500

/-- `RESET_HARD_STABILIZE_MS`. -/
def resetHardStabilizeMs : Nat := 10000

/-- `RESET_SOC_FAIL_TIMEOUT_MS`. -/
def resetSocFailTimeoutMs : UInt32 := 20000

/-! ## The handler -/

/-- How far the main loop is in `reset_handler_process_deferred_reset`. -/
inductive ResetPc
  | outside
  /-- In `persist_and_reset`, before the record is saved. -/
  | persist
  /-- The record is saved, and `utils_sleep_ms` runs. -/
  | stabilize (since : Nat)
  /-- `SDK_SYSTEM_RESET` came back. -/
  | failed (failStart : UInt32)

/-- `DeferredResetState` and the place of the main loop, with the clock and the pre-boot handler. -/
structure ResetDevice where
  time : Nat
  sourceName : CArray 33
  scheduledStartMs : UInt32
  pending : Bool
  executing : Bool
  type : ResetType
  pc : ResetPc
  store : PreBootStore

/-- What can be seen of it, with the time since power-on. -/
inductive ResetOutput
  | scheduled (time : Nat) (kind : ResetType) (source : List Byte)
  | ignored
  /-- It is too early for the reset that is scheduled. -/
  | waiting (time : Nat)
  | saved (time : Nat) (planned : PlannedReset)
  | gaveUp (time : Nat)
  | booted (prior : ResetHandlerLastSwResetInfo)
  deriving DecidableEq

namespace ResetDevice

/-- `utils_monotonic_ms_now`. -/
def nowMs (d : ResetDevice) : UInt32 := UInt32.ofNat d.time

/-- `deferred_source`. -/
def deferredSource (d : ResetDevice) : List Byte :=
  if cString d.sourceName.toList ≠ [] then cString d.sourceName.toList else asciiBytes "SYSTEM"

theorem sourceName_pos : 0 < 33 := by decide

/-- `schedule_reset`; no name is an empty name. -/
def scheduleReset (type : ResetType) (sourceModule : List Byte) (d : ResetDevice) :
    List ResetOutput × ResetDevice :=
  if type ≠ .soft ∧ type ≠ .hard then ([], d)
  else if d.pending ∨ d.executing then ([.ignored], d)
  else ([.scheduled d.time type sourceModule], { d with
    pending := true
    type
    scheduledStartMs := d.nowMs
    sourceName :=
      if cString sourceModule ≠ [] then utilsStrncpySafe 33 sourceModule
      else d.sourceName.set ⟨0, sourceName_pos⟩ 0 })

/-- `on_reset_event`. -/
def onResetEvent (event : EventType) (sourceModule : List Byte) (d : ResetDevice) :
    List ResetOutput × ResetDevice :=
  if event = .resetSoft then d.scheduleReset .soft sourceModule
  else if event = .resetHard then d.scheduleReset .hard sourceModule
  else ([], d)

/-- How long `persist_and_reset` sleeps before the reset. -/
def stabilizeMs (d : ResetDevice) : Nat :=
  if d.type = .soft then resetSoftStabilizeMs else resetHardStabilizeMs

/-- A step of `reset_handler_process_deferred_reset`, where other tasks can get in between two
steps; `utc` is what the clock says. -/
def processDeferredReset (utc : UInt32) (d : ResetDevice) : List ResetOutput × ResetDevice :=
  match d.pc with
  | .outside =>
    if ¬ d.pending then ([], d)
    else if utilsMonotonicMsElapsed d.nowMs d.scheduledStartMs < resetDeferDelayMs then
      ([.waiting d.time], d)
    else if d.type ≠ .soft ∧ d.type ≠ .hard then ([], { d with pending := false })
    else ([], { d with pending := false, executing := true, pc := .persist })
  | .persist =>
    ([.saved d.time ⟨d.type, utc, d.deferredSource⟩], { d with
      store := (d.store.saveBeforeSocReset d.type utc d.deferredSource).2
      pc := .stabilize d.time })
  | .stabilize since =>
    if d.time < since + d.stabilizeMs then ([], d) else ([], { d with pc := .failed d.nowMs })
  | .failed failStart =>
    if resetSocFailTimeoutMs ≤ utilsMonotonicMsElapsed d.nowMs failStart then
      ([.gaveUp d.time], { d with executing := false, pc := .outside })
    else ([], d)

/-- Power-on: RAM is zeroed, and `post_boot_handler_init` loads the prior reset. -/
def powerOn (fs : Flash FlashFile) : List ResetOutput × ResetDevice :=
  let b := (PreBootStore.powerOn fs).loadPriorReset
  ([.booted b.1], ⟨0, CArray.ofList 33 [], 0, false, false, .none, .outside, b.2⟩)

end ResetDevice

/-- What happens. -/
inductive ResetEvent
  /-- A task broadcasts an event. -/
  | broadcast (event : EventType) (sourceModule : List Byte)
  | mainLoop (utc : UInt32)
  /-- A task saves, clears or takes the offset of the send queue. -/
  | offset (call : { op : RecordOp // op.isOffset = true })
  | wait (ms : Nat)
  /-- The reset takes effect, or power goes. -/
  | restart

/-- The tasks and the power, one step at a time in any order. -/
def resetDeviceMachine : Machine ResetDevice ResetEvent (List ResetOutput) where
  step d
    | .broadcast event sourceModule => d.onResetEvent event sourceModule
    | .mainLoop utc => d.processDeferredReset utc
    | .offset call => ([], { d with store := (recordMachine.step d.store call.1).2 })
    | .wait ms => ([], { d with time := d.time + ms })
    | .restart => ResetDevice.powerOn d.store.flash

/-! ## What a log should tell -/

namespace ResetOutput

/-- From here on a request is taken again. -/
def frees : ResetOutput → Bool
  | gaveUp _ => true
  | booted _ => true
  | _ => false

def isSaved : ResetOutput → Bool
  | saved _ _ => true
  | _ => false

def isBooted : ResetOutput → Bool
  | booted _ => true
  | _ => false

end ResetOutput

/-- A request as it was accepted. -/
structure ResetRequestAt where
  time : Nat
  kind : ResetType
  source : List Byte

/-- The name that is saved with a request. -/
def ResetRequestAt.name (r : ResetRequestAt) : List Byte :=
  if cString r.source ≠ [] then (cString r.source).take 32 else asciiBytes "SYSTEM"

section Log

variable (log : List ResetOutput)

/-- A request was accepted, and the handler is not free again. -/
def Accepted (r : ResetRequestAt) : Prop :=
  Since (· = .scheduled r.time r.kind r.source) (fun o => o.frees = false) log

/-- It is not saved yet. -/
def Scheduled (r : ResetRequestAt) : Prop :=
  Since (· = .scheduled r.time r.kind r.source)
    (fun o => o.frees = false ∧ o.isSaved = false) log

/-- A reset is saved, and the handler is not free again. -/
def Performed (time : Nat) (p : PlannedReset) : Prop :=
  Since (· = .saved time p) (fun o => o.frees = false) log

/-- The last reset that is saved, and there was no boot since. -/
def LastSaved (p : PlannedReset) : Prop :=
  Since (fun o => ∃ time, o = .saved time p) (fun o => o.isSaved = false ∧ o.isBooted = false) log

/-- How many resets are saved. -/
def savedCount : Nat := log.countP ResetOutput.isSaved

/-- An output is as it should be after a log. -/
def ResetGood : ResetOutput → Prop
  | .scheduled _ kind _ => (kind = .soft ∨ kind = .hard) ∧ ∀ r, ¬ Accepted log r
  | .ignored => ∃ r, Accepted log r
  | .waiting time => ∃ r, Scheduled log r ∧ (time - r.time) % 4294967296 < 200
  | .saved time p => ∃ r, Scheduled log r ∧ r.time + 200 ≤ time ∧ p.kind = r.kind ∧
      p.source = r.name
  | .gaveUp time => ∃ t p, Performed log t p ∧
      t + (if p.kind = .soft then 500 else 10000) + 20000 ≤ time
  | .booted prior =>
      (∀ p, LastSaved log p → prior = ⟨p.kind, p.time, UInt32.ofNat (savedCount log),
        utilsStrncpySafe 33 p.source, true⟩) ∧
      (prior.valid = true → ∃ p, LastSaved log p)

end Log

section Concat

variable {log : List ResetOutput} {o : ResetOutput}

theorem accepted_concat {r : ResetRequestAt} : Accepted (log ++ [o]) r ↔
    o = .scheduled r.time r.kind r.source ∨ (o.frees = false ∧ Accepted log r) := since_concat

theorem scheduled_concat {r : ResetRequestAt} : Scheduled (log ++ [o]) r ↔
    o = .scheduled r.time r.kind r.source ∨
      ((o.frees = false ∧ o.isSaved = false) ∧ Scheduled log r) := since_concat

theorem performed_concat {t : Nat} {p : PlannedReset} : Performed (log ++ [o]) t p ↔
    o = .saved t p ∨ (o.frees = false ∧ Performed log t p) := since_concat

theorem lastSaved_concat {p : PlannedReset} : LastSaved (log ++ [o]) p ↔
    (∃ time, o = .saved time p) ∨ ((o.isSaved = false ∧ o.isBooted = false) ∧ LastSaved log p) :=
  since_concat

theorem savedCount_concat :
    savedCount (log ++ [o]) = savedCount log + if o.isSaved then 1 else 0 := by
  rw [savedCount, List.countP_append, List.countP_singleton, savedCount]

/-- What is scheduled was accepted. -/
theorem Scheduled.accepted {r : ResetRequestAt} (h : Scheduled log r) : Accepted log r := by
  obtain ⟨pre, i, post, hlog, hi, hpost⟩ := h
  exact ⟨pre, i, post, hlog, hi, fun j hj => (hpost j hj).1⟩

end Concat

section Log

variable {log : List ResetOutput} {r r' : ResetRequestAt}

/-- One request is accepted at a time. -/
theorem Accepted.unique (horder : InOrder ResetGood log) (h : Accepted log r)
    (h' : Accepted log r') : r = r' := by
  induction log using List.reverseRecOn with
  | nil => exact absurd h not_since_nil
  | append_singleton log o ih =>
    obtain ⟨horder, hgood⟩ := inOrder_concat.mp horder
    rcases accepted_concat.mp h with heq | ⟨-, hpast⟩
    · rcases accepted_concat.mp h' with heq' | ⟨-, hpast'⟩
      · obtain ⟨t, k, source⟩ := r
        obtain ⟨t', k', source'⟩ := r'
        simpa [heq] using heq'
      · rw [heq] at hgood
        exact absurd hpast' (hgood.2 r')
    · rcases accepted_concat.mp h' with heq' | ⟨-, hpast'⟩
      · rw [heq'] at hgood
        exact absurd hpast (hgood.2 r)
      · exact ih horder hpast hpast'

/-- What is saved was accepted. -/
theorem Performed.accepted {t : Nat} {p : PlannedReset} (h : Performed log t p)
    (horder : InOrder ResetGood log) : ∃ r, Accepted log r := by
  induction log using List.reverseRecOn with
  | nil => exact absurd h not_since_nil
  | append_singleton log o ih =>
    obtain ⟨horder, hgood⟩ := inOrder_concat.mp horder
    rcases performed_concat.mp h with rfl | ⟨hfrees, hpast⟩
    · obtain ⟨r, hr, -⟩ := hgood
      exact ⟨r, accepted_concat.mpr (Or.inr ⟨rfl, hr.accepted⟩)⟩
    · obtain ⟨r, hr⟩ := ih hpast horder
      exact ⟨r, accepted_concat.mpr (Or.inr ⟨hfrees, hr⟩)⟩

/-- What is saved does not wait any more. -/
theorem Performed.not_scheduled {t : Nat} {p : PlannedReset} (h : Performed log t p)
    (horder : InOrder ResetGood log) : ¬ Scheduled log r := by
  induction log using List.reverseRecOn with
  | nil => exact absurd h not_since_nil
  | append_singleton log o ih =>
    intro hr
    obtain ⟨hbefore, hgood⟩ := inOrder_concat.mp horder
    rcases performed_concat.mp h with rfl | ⟨-, hpast⟩
    · rcases scheduled_concat.mp hr with heq | ⟨⟨-, hsaved⟩, -⟩
      · cases heq
      · cases hsaved
    · rcases scheduled_concat.mp hr with rfl | ⟨-, hpast'⟩
      · obtain ⟨r', hr'⟩ := hpast.accepted hbefore
        exact hgood.2 r' hr'
      · exact ih hpast hbefore hpast'

end Log

/-! ## What a state knows of the log -/

/-- The request that is scheduled is the one in RAM. -/
structure ResetDevice.Holds (d : ResetDevice) (r : ResetRequestAt) : Prop where
  type : d.type = r.kind
  kind : r.kind = .soft ∨ r.kind = .hard
  name : d.deferredSource = r.name
  time_le : r.time ≤ d.time

theorem ResetDevice.Holds.kind_ok {d : ResetDevice} {r : ResetRequestAt} (h : d.Holds r) :
    d.type = .soft ∨ d.type = .hard := by
  rw [h.type]
  exact h.kind

theorem ResetDevice.Holds.elapsed {d : ResetDevice} {r : ResetRequestAt} (h : d.Holds r)
    (hstart : d.scheduledStartMs = UInt32.ofNat r.time) :
    (utilsMonotonicMsElapsed d.nowMs d.scheduledStartMs).toNat =
      (d.time - r.time) % 4294967296 := by
  rw [hstart]
  exact utilsElapsedMsSince_toNat h.time_le

/-- What the log says about the handler. -/
inductive ResetStage (log : List ResetOutput) (d : ResetDevice) : Prop
  | free (hpc : d.pc = .outside) (hpending : d.pending = false) (hexecuting : d.executing = false)
    (hfree : ∀ r, ¬ Accepted log r)
  | pending (r : ResetRequestAt) (hpc : d.pc = .outside) (hpending : d.pending = true)
    (hr : Scheduled log r) (hholds : d.Holds r)
    (hstart : d.scheduledStartMs = UInt32.ofNat r.time)
  | persist (r : ResetRequestAt) (hpc : d.pc = .persist) (hexecuting : d.executing = true)
    (hpending : d.pending = false) (hr : Scheduled log r) (hholds : d.Holds r)
    (hdue : r.time + 200 ≤ d.time)
  | stabilize (t : Nat) (p : PlannedReset) (hpc : d.pc = .stabilize t)
    (hexecuting : d.executing = true) (hpending : d.pending = false) (hp : Performed log t p)
    (htype : d.type = p.kind)
  | failed (t s : Nat) (p : PlannedReset) (hpc : d.pc = .failed (UInt32.ofNat s))
    (hexecuting : d.executing = true) (hpending : d.pending = false) (hp : Performed log t p)
    (hlate : t + (if p.kind = .soft then 500 else 10000) ≤ s) (hle : s ≤ d.time)

/-- What the log says about the record; `up` tells whether a boot has loaded it. -/
def RecordTold (log : List ResetOutput) (up : Bool) (s : PreBootStore) : Prop :=
  ∃ l, KeepsLedger s l ∧ l.up = up ∧ (∀ p, l.pending = some p ↔ LastSaved log p) ∧
    l.resets = savedCount log

/-- The log is in order and tells the state. -/
structure ResetTold (log : List ResetOutput) (d : ResetDevice) : Prop where
  stage : ResetStage log d
  record : RecordTold log true d.store
  order : InOrder (fun log o => ResetGood log o) log

/-! ## The record -/

section Record

variable {log : List ResetOutput} {o : ResetOutput} {s : PreBootStore} {up : Bool}

/-- What is neither saved nor a boot tells nothing about the record. -/
theorem RecordTold.concat (h : RecordTold log up s) (hsaved : o.isSaved = false)
    (hbooted : o.isBooted = false) : RecordTold (log ++ [o]) up s := by
  obtain ⟨l, hkeep, hup, hpending, hresets⟩ := h
  refine ⟨l, hkeep, hup, fun p => ?_, ?_⟩
  · rw [hpending, lastSaved_concat, hsaved, hbooted]
    constructor
    · intro hp
      exact Or.inr ⟨⟨rfl, rfl⟩, hp⟩
    · rintro (⟨time, rfl⟩ | ⟨-, hp⟩)
      · cases hsaved
      · exact hp
  · rw [savedCount_concat, hsaved, hresets]
    rfl

/-- An offset is kept in a slot of its own. -/
theorem RecordTold.offset (h : RecordTold log true s) {op : RecordOp}
    (hop : op.isOffset = true) : RecordTold log true (recordMachine.step s op).2 := by
  obtain ⟨l, hkeep, hup, hpending, hresets⟩ := h
  have hnext := (recordMachine_step hkeep op).2
  cases op with
  | boot => cases hop
  | crash => cases hop
  | announce kind time source => cases hop
  | saveOffset offset =>
    refine ⟨_, hnext, l.staged_up, ?_, ?_⟩
    · simpa only [ledgerMachine, Ledger.staged_of_up hup] using hpending
    · simpa only [ledgerMachine, Ledger.staged_of_up hup] using hresets
  | clearOffset =>
    refine ⟨_, hnext, l.staged_up, ?_, ?_⟩
    · simpa only [ledgerMachine, Ledger.staged_of_up hup] using hpending
    · simpa only [ledgerMachine, Ledger.staged_of_up hup] using hresets
  | takeOffset => exact ⟨_, hnext, hup, hpending, hresets⟩

/-- A reset that is saved is the one that is pending. -/
theorem RecordTold.save (h : RecordTold log true s) {kind : ResetType}
    (hkind : kind = .soft ∨ kind = .hard) (time : Nat) (utc : UInt32) (source : List Byte) :
    RecordTold (log ++ [.saved time ⟨kind, utc, source⟩]) true
      (s.saveBeforeSocReset kind utc source).2 := by
  obtain ⟨l, hkeep, hup, -, hresets⟩ := h
  have hnext := (recordMachine_step hkeep (.announce kind utc source)).2
  have hplanned : (RecordOp.announce kind utc source).planned = some ⟨kind, utc, source⟩ := by
    rcases hkind with rfl | rfl <;> rfl
  simp only [ledgerMachine, hplanned, Ledger.staged_of_up hup] at hnext
  refine ⟨_, hnext, hup, fun p => ?_, ?_⟩
  · rw [lastSaved_concat]
    simp [ResetOutput.isSaved]
  · rw [savedCount_concat, hresets]
    rfl

/-- A boot reports the last reset that was saved, once. -/
theorem RecordTold.boot (h : RecordTold log up s) :
    ResetGood log (.booted (PreBootStore.powerOn s.flash).loadPriorReset.1) ∧
      RecordTold (log ++ [.booted (PreBootStore.powerOn s.flash).loadPriorReset.1]) true
        (PreBootStore.powerOn s.flash).loadPriorReset.2 := by
  obtain ⟨l, hkeep, -, hpending, hresets⟩ := h
  obtain ⟨hprior, hnext⟩ := hkeep.boot
  refine ⟨⟨fun p hp => ?_, fun hvalid => ?_⟩, _, hnext, rfl, fun p => ?_, ?_⟩
  · rw [hprior, Ledger.prior, (hpending p).mpr hp, hresets]
  · rw [hprior, Ledger.prior] at hvalid
    cases hl : l.pending with
    | none =>
      rw [hl] at hvalid
      cases hvalid
    | some p => exact ⟨p, (hpending p).mp hl⟩
  · rw [lastSaved_concat]
    simp [ResetOutput.isBooted]
  · rw [savedCount_concat]
    exact hresets

end Record

/-! ## The handler -/

section Handler

variable {log : List ResetOutput} {o : ResetOutput} {d : ResetDevice}

theorem ResetDevice.stabilizeMs_of_kind {kind : ResetType} (h : d.type = kind) :
    d.stabilizeMs = if kind = .soft then 500 else 10000 := by
  rw [stabilizeMs, h]
  rfl

/-- What is ignored or too early changes nothing. -/
theorem ResetStage.quiet (h : ResetStage log d) (hfrees : o.frees = false)
    (hsaved : o.isSaved = false) (hnot : ∀ t kind source, o ≠ .scheduled t kind source) :
    ResetStage (log ++ [o]) d := by
  cases h with
  | free hpc hpending hexecuting hfree =>
    refine .free hpc hpending hexecuting fun r hr => ?_
    rcases accepted_concat.mp hr with heq | ⟨-, hr⟩
    · exact hnot _ _ _ heq
    · exact hfree r hr
  | pending r hpc hpending hr hholds hstart =>
    exact .pending r hpc hpending (scheduled_concat.mpr (Or.inr ⟨⟨hfrees, hsaved⟩, hr⟩)) hholds
      hstart
  | persist r hpc hexecuting hpending hr hholds hdue =>
    exact .persist r hpc hexecuting hpending
      (scheduled_concat.mpr (Or.inr ⟨⟨hfrees, hsaved⟩, hr⟩)) hholds hdue
  | stabilize t p hpc hexecuting hpending hp htype =>
    exact .stabilize t p hpc hexecuting hpending (performed_concat.mpr (Or.inr ⟨hfrees, hp⟩)) htype
  | failed t s p hpc hexecuting hpending hp hlate hle =>
    exact .failed t s p hpc hexecuting hpending (performed_concat.mpr (Or.inr ⟨hfrees, hp⟩)) hlate
      hle

/-- The handler that is not free has accepted a request. -/
theorem ResetTold.busy (h : ResetTold log d) (hbusy : d.pending = true ∨ d.executing = true) :
    ∃ r, Accepted log r := by
  cases h.stage with
  | free hpc hpending hexecuting hfree => simp [hpending, hexecuting] at hbusy
  | pending r hpc hpending hr hholds hstart => exact ⟨r, hr.accepted⟩
  | persist r hpc hexecuting hpending hr hholds hdue => exact ⟨r, hr.accepted⟩
  | stabilize t p hpc hexecuting hpending hp htype => exact hp.accepted h.order
  | failed t s p hpc hexecuting hpending hp hlate hle => exact hp.accepted h.order

/-- The handler that is not busy is free. -/
theorem ResetStage.idle (h : ResetStage log d) (hidle : ¬ (d.pending = true ∨ d.executing = true)) :
    d.pc = .outside ∧ ∀ r, ¬ Accepted log r := by
  cases h with
  | free hpc hpending hexecuting hfree => exact ⟨hpc, hfree⟩
  | pending r hpc hpending => exact absurd (Or.inl hpending) hidle
  | persist r hpc hexecuting => exact absurd (Or.inr hexecuting) hidle
  | stabilize t p hpc hexecuting => exact absurd (Or.inr hexecuting) hidle
  | failed t s p hpc hexecuting => exact absurd (Or.inr hexecuting) hidle

/-- The name in RAM is the one that will be saved. -/
theorem ResetDevice.deferredSource_of_source {a : CArray 33} {r : ResetRequestAt}
    (h : d.sourceName =
      if cString r.source ≠ [] then utilsStrncpySafe 33 r.source
      else a.set ⟨0, ResetDevice.sourceName_pos⟩ 0) :
    d.deferredSource = r.name := by
  rw [deferredSource, ResetRequestAt.name, h]
  by_cases hsource : cString r.source = []
  · simp only [hsource, ne_eq, not_true_eq_false, if_false]
    have hempty : cString (a.set ⟨0, sourceName_pos⟩ 0).toList = [] :=
      PreBootOnDisk.cString_set_zero a
    rw [if_neg (not_not.mpr hempty)]
  · rw [if_pos hsource, if_pos hsource, cString_utilsStrncpySafe (by decide), if_pos]
    simpa [List.take_eq_nil_iff] using hsource

/-- A request is accepted if the handler is free, and ignored otherwise. -/
theorem ResetTold.scheduleReset (h : ResetTold log d) (kind : ResetType) (source : List Byte) :
    ResetTold (log ++ (d.scheduleReset kind source).1) (d.scheduleReset kind source).2 := by
  unfold ResetDevice.scheduleReset
  by_cases hkind : kind ≠ .soft ∧ kind ≠ .hard
  · rw [if_pos hkind, List.append_nil]
    exact h
  rw [if_neg hkind]
  by_cases hbusy : d.pending = true ∨ d.executing = true
  · rw [if_pos hbusy]
    refine ⟨h.stage.quiet rfl rfl (by simp), h.record.concat rfl rfl, ?_⟩
    exact inOrder_concat.mpr ⟨h.order, h.busy hbusy⟩
  · rw [if_neg hbusy]
    have hok : kind = .soft ∨ kind = .hard := by
      by_contra hnot
      exact hkind (not_or.mp hnot)
    obtain ⟨hpc, hfree⟩ := h.stage.idle hbusy
    refine ⟨.pending ⟨d.time, kind, source⟩ hpc rfl (scheduled_concat.mpr (Or.inl rfl))
      ⟨rfl, hok, ?_, le_rfl⟩ rfl, h.record.concat rfl rfl,
      inOrder_concat.mpr ⟨h.order, hok, hfree⟩⟩
    exact ResetDevice.deferredSource_of_source rfl

/-- Where a reset is due it is begun. -/
theorem ResetDevice.processDeferredReset_due (hpc : d.pc = .outside) (hpending : d.pending = true)
    (hdue : ¬ utilsMonotonicMsElapsed d.nowMs d.scheduledStartMs < resetDeferDelayMs)
    (hkind : d.type = .soft ∨ d.type = .hard) (utc : UInt32) :
    d.processDeferredReset utc =
      ([], { d with pending := false, executing := true, pc := .persist }) := by
  unfold processDeferredReset
  simp only [hpc]
  rw [if_neg (not_not.mpr hpending), if_neg hdue,
    if_neg fun h => hkind.elim (absurd · h.1) (absurd · h.2)]

theorem ResetDevice.processDeferredReset_early (hpc : d.pc = .outside) (hpending : d.pending = true)
    (hearly : utilsMonotonicMsElapsed d.nowMs d.scheduledStartMs < resetDeferDelayMs)
    (utc : UInt32) : d.processDeferredReset utc = ([.waiting d.time], d) := by
  unfold processDeferredReset
  simp only [hpc]
  rw [if_neg (not_not.mpr hpending), if_pos hearly]

theorem ResetDevice.processDeferredReset_persist (hpc : d.pc = .persist) (utc : UInt32) :
    d.processDeferredReset utc = ([.saved d.time ⟨d.type, utc, d.deferredSource⟩], { d with
      store := (d.store.saveBeforeSocReset d.type utc d.deferredSource).2
      pc := .stabilize d.time }) := by
  unfold processDeferredReset
  simp only [hpc]

/-- A step of the main loop does what the log says, and says what it does. -/
theorem ResetTold.processDeferredReset (h : ResetTold log d) (utc : UInt32) :
    ResetTold (log ++ (d.processDeferredReset utc).1) (d.processDeferredReset utc).2 := by
  cases h.stage with
  | free hpc hpending hexecuting hfree =>
    simp only [ResetDevice.processDeferredReset, hpc, hpending, Bool.false_eq_true,
      not_false_eq_true, if_true, List.append_nil]
    exact h
  | pending r hpc hpending hr hholds hstart =>
    have helapsed := hholds.elapsed hstart
    by_cases hearly : utilsMonotonicMsElapsed d.nowMs d.scheduledStartMs < resetDeferDelayMs
    · rw [ResetDevice.processDeferredReset_early hpc hpending hearly]
      refine ⟨h.stage.quiet rfl rfl (by simp), h.record.concat rfl rfl,
        inOrder_concat.mpr ⟨h.order, r, hr, ?_⟩⟩
      rw [← helapsed]
      exact UInt32.lt_iff_toNat_lt.mp hearly
    · rw [ResetDevice.processDeferredReset_due hpc hpending hearly hholds.kind_ok, List.append_nil]
      refine ⟨.persist r rfl rfl rfl hr ⟨hholds.type, hholds.kind, hholds.name, hholds.time_le⟩ ?_,
        h.record, h.order⟩
      have hdue : 200 ≤ (d.time - r.time) % 4294967296 := by
        rw [← helapsed]
        exact UInt32.le_iff_toNat_le.mp (UInt32.not_lt.mp hearly)
      have hle := hholds.time_le
      have hmod := Nat.mod_le (d.time - r.time) 4294967296
      change r.time + 200 ≤ d.time
      omega
  | persist r hpc hexecuting hpending hr hholds hdue =>
    rw [ResetDevice.processDeferredReset_persist hpc]
    refine ⟨.stabilize d.time ⟨d.type, utc, d.deferredSource⟩ rfl hexecuting hpending
      (performed_concat.mpr (Or.inl rfl)) rfl, h.record.save hholds.kind_ok _ _ _,
      inOrder_concat.mpr ⟨h.order, r, hr, hdue, hholds.type, hholds.name⟩⟩
  | stabilize t p hpc hexecuting hpending hp htype =>
    simp only [ResetDevice.processDeferredReset, hpc, ResetDevice.stabilizeMs_of_kind htype]
    split_ifs with hkind hearly hearly
    all_goals rw [List.append_nil]
    · exact h
    · refine ⟨.failed t d.time p rfl hexecuting hpending hp ?_ le_rfl, h.record, h.order⟩
      rw [if_pos hkind]
      exact Nat.not_lt.mp hearly
    · exact h
    · refine ⟨.failed t d.time p rfl hexecuting hpending hp ?_ le_rfl, h.record, h.order⟩
      rw [if_neg hkind]
      exact Nat.not_lt.mp hearly
  | failed t s p hpc hexecuting hpending hp hlate hle =>
    simp only [ResetDevice.processDeferredReset, hpc]
    split_ifs with hover
    · have hwaited : 20000 ≤ d.time - s :=
        le_trans (UInt32.le_iff_toNat_le.mp hover) (utilsElapsedMsSince_le hle)
      refine ⟨.free rfl hpending rfl fun r hr => ?_, h.record.concat rfl rfl,
        inOrder_concat.mpr ⟨h.order, t, p, hp, by omega⟩⟩
      rcases accepted_concat.mp hr with heq | ⟨hfrees, -⟩
      · cases heq
      · cases hfrees
    · rw [List.append_nil]
      exact h

/-- Time and the record do not matter to the stage. -/
theorem ResetStage.later (h : ResetStage log d) {time : Nat} (hle : d.time ≤ time)
    (store : PreBootStore) : ResetStage log { d with time, store } := by
  have hholds {r : ResetRequestAt} (hr : d.Holds r) : ResetDevice.Holds { d with time, store } r :=
    ⟨hr.type, hr.kind, hr.name, hr.time_le.trans hle⟩
  cases h with
  | free hpc hpending hexecuting hfree => exact .free hpc hpending hexecuting hfree
  | pending r hpc hpending hr hheld hstart => exact .pending r hpc hpending hr (hholds hheld) hstart
  | persist r hpc hexecuting hpending hr hheld hdue =>
    exact .persist r hpc hexecuting hpending hr (hholds hheld) (hdue.trans hle)
  | stabilize t p hpc hexecuting hpending hp htype =>
    exact .stabilize t p hpc hexecuting hpending hp htype
  | failed t s p hpc hexecuting hpending hp hlate hbefore =>
    exact .failed t s p hpc hexecuting hpending hp hlate (hbefore.trans hle)

/-- A boot begins anew. -/
theorem ResetTold.restart (horder : InOrder ResetGood log) {s : PreBootStore}
    {up : Bool} (hrecord : RecordTold log up s) :
    ResetTold (log ++ (ResetDevice.powerOn s.flash).1) (ResetDevice.powerOn s.flash).2 := by
  obtain ⟨hgood, hnext⟩ := hrecord.boot
  refine ⟨.free rfl rfl rfl fun r hr => ?_, hnext, inOrder_concat.mpr ⟨horder, hgood⟩⟩
  rcases accepted_concat.mp hr with heq | ⟨hfrees, -⟩
  · cases heq
  · cases hfrees

theorem ResetTold.step (h : ResetTold log d) (e : ResetEvent) :
    ResetTold (log ++ (resetDeviceMachine.step d e).1) (resetDeviceMachine.step d e).2 := by
  cases e with
  | broadcast event source =>
    change ResetTold (log ++ (d.onResetEvent event source).1) (d.onResetEvent event source).2
    unfold ResetDevice.onResetEvent
    split_ifs
    · exact h.scheduleReset .soft source
    · exact h.scheduleReset .hard source
    · rw [List.append_nil]
      exact h
  | mainLoop utc => exact h.processDeferredReset utc
  | offset call =>
    rw [resetDeviceMachine, List.append_nil]
    exact ⟨h.stage.later le_rfl _, h.record.offset call.2, h.order⟩
  | wait ms =>
    rw [resetDeviceMachine, List.append_nil]
    exact ⟨h.stage.later (Nat.le_add_right _ _) _, h.record, h.order⟩
  | restart => exact ResetTold.restart h.order h.record

/-- A reset was saved under the kind and the name of a request. -/
def SavedFor (r : ResetRequestAt) (outputs : List ResetOutput) : Prop :=
  ∃ t p, .saved t p ∈ outputs ∧ p.kind = r.kind ∧ p.source = r.name

/-- A reset that is begun is saved by the next step of the main loop. -/
theorem ResetTold.saves (h : ResetTold log d) {r : ResetRequestAt} (hr : Scheduled log r)
    (hpc : d.pc = .persist) (utc : UInt32) : SavedFor r (d.processDeferredReset utc).1 := by
  rw [ResetDevice.processDeferredReset_persist hpc]
  cases h.stage with
  | persist r' _ hexecuting hpending hr' hholds hbefore =>
    obtain rfl := hr.accepted.unique h.order hr'.accepted
    exact ⟨_, _, List.mem_singleton_self _, hholds.type, hholds.name⟩
  | free hpc' => rw [hpc] at hpc'; cases hpc'
  | pending r' hpc' => rw [hpc] at hpc'; cases hpc'
  | stabilize t p hpc' => rw [hpc] at hpc'; cases hpc'
  | failed t s p hpc' => rw [hpc] at hpc'; cases hpc'

end Handler

/-! ## All runs -/

end WalnutGateway
