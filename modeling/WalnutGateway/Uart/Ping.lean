import WalnutGateway.Uart.Manager

/-!
# The ping test

A ping test has three probes and is meant to end in one verdict, which clears the flag
that another test is refused for. A probe ends with its reply, another frame, a failed
write or the timeout: of these only the reply and the timeout give a verdict, and neither
asks whether the test is still running.
-/

namespace WalnutGateway

/-- What a run shows of ping tests. -/
inductive PingMark
  | started
  | verdict
  deriving DecidableEq

/-- What is shown by an output. -/
def UartOutput.pingMark : UartOutput → Option PingMark
  | .verdict .. => some .verdict
  | .pingTest .success => some .started
  | _ => none

/-- The manager with what was shown of ping tests so far. -/
structure PingRun where
  manager : UartManager
  log : List PingMark

/-- The manager, step by step, with its log. -/
def pingMachine : Machine PingRun UartEvent (List UartOutput) where
  step r e :=
    let next := uartMachine.step r.manager e
    (next.1, { manager := next.2, log := r.log ++ next.1.filterMap UartOutput.pingMark })

namespace UartManager

/-- A test is running that no probe will end. -/
structure Stuck (m : UartManager) : Prop where
  active : m.pingActive = true
  idle : m.state = .idle
  noneLeft : m.pingAttemptsLeft = 0
  notInFlight : m.currentIsPing = false

/-- The steps that give a verdict. -/
inductive GivesVerdict (m : UartManager) : UartEvent → Prop
  | reply {frame : List Byte} (hping : m.currentIsPing = true)
    (hcmd : stmFrameCmd frame = stmCmdGetDevInfo ||| stmCmdRespBit) : GivesVerdict m (.frame frame)
  | timeout {pop : Option ModuleMessage} {malloc written : Bool} (hping : m.currentIsPing = true)
    (hlast : m.pingAttemptsLeft = 0) (hwrite : m.writeResult = none)
    (hwaiting : m.state = .waitingResponse) (hover : m.responseTimeoutCounter + 1 > m.limit) :
    GivesVerdict m (.task pop malloc written)

/-- The steps that end the last probe without one. -/
inductive GivesUp (m : UartManager) : UartEvent → Prop
  | writeFailed {pop : Option ModuleMessage} {malloc written : Bool}
    (hping : m.currentIsPing = true) (hlast : m.pingAttemptsLeft = 0)
    (hfailed : m.writeResult = some false) : GivesUp m (.task pop malloc written)
  | answered {pop : Option ModuleMessage} {malloc written : Bool}
    (hping : m.currentIsPing = true) (hlast : m.pingAttemptsLeft = 0)
    (hwrite : m.writeResult = none) (hreceived : m.state = .responseReceived) :
    GivesUp m (.task pop malloc written)

/-- A verdict is given while a test is running only, and the last probe of a running test is
not ended without one. -/
structure Clean (m : UartManager) (e : UartEvent) : Prop where
  verdict : m.GivesVerdict e → m.pingActive = true
  ended : m.GivesUp e → m.pingActive = false

end UartManager

/-- The test that the flag says is running. -/
def runningTest : Bool → Option Unit
  | true => some ()
  | false => none

/-- Tests and verdicts take turns, and the flag tells whether one is running. -/
def PingRun.Alternates (r : PingRun) : Prop :=
  Bracketed (fun _ : Unit => PingMark.started) (fun _ => .verdict)
    (runningTest r.manager.pingActive) r.log

/-- A step leaves no test hanging, clears the flag exactly when it gives a verdict, and gives
at most one for each test. -/
structure PingRun.Concludes (r : PingRun) (e : UartEvent) : Prop where
  notStuck : ¬ (pingMachine.step r e).2.manager.Stuck
  clears : (.verdict ∈ (pingMachine.step r e).1.filterMap UartOutput.pingMark) ↔
    r.manager.pingActive = true ∧ (pingMachine.step r e).2.manager.pingActive = false
  once : (pingMachine.step r e).2.Alternates

/-! ## What a step shows -/

namespace UartManager

variable {m : UartManager}

/-- What a step shows: nothing, a verdict, or that a test was started. -/
inductive Shows (m : UartManager) (e : UartEvent) : Prop
  | quiet (hmarks : (uartMachine.step m e).1.filterMap UartOutput.pingMark = [])
    (hactive : (uartMachine.step m e).2.pingActive = m.pingActive)
    (hverdict : ¬ m.GivesVerdict e)
  | verdict (hmarks : (uartMachine.step m e).1.filterMap UartOutput.pingMark = [.verdict])
    (hactive : (uartMachine.step m e).2.pingActive = false) (hverdict : m.GivesVerdict e)
  | started (hmarks : (uartMachine.step m e).1.filterMap UartOutput.pingMark = [.started])
    (hbefore : m.pingActive = false) (hactive : (uartMachine.step m e).2.pingActive = true)
    (hverdict : ¬ m.GivesVerdict e)

theorem taskIdle_pingActive (pop : Option ModuleMessage) (malloc : Bool) :
    (uartTaskIdle pop malloc m).pingActive = m.pingActive := by
  unfold uartTaskIdle
  cases pop with
  | some req =>
    dsimp only
    split
    · rfl
    · rfl
  | none =>
    dsimp only
    split
    · cases uartProbe with
      | some pm => rfl
      | none => rfl
    · rfl

theorem taskSending_quiet (m : UartManager) (written : Bool) :
    (uartTaskSending written m).1.filterMap UartOutput.pingMark = [] ∧
      (uartTaskSending written m).2.pingActive = m.pingActive := by
  unfold uartTaskSending
  split
  · exact ⟨rfl, rfl⟩
  · split
    · exact ⟨rfl, rfl⟩
    · split
      · exact ⟨rfl, rfl⟩
      · split
        · exact ⟨rfl, rfl⟩
        · exact ⟨rfl, rfl⟩

theorem taskWritten_pingActive (written : Bool) :
    (uartTaskWritten written m).pingActive = m.pingActive := by
  unfold uartTaskWritten
  split
  · rfl
  · rfl

/-- A step of the task that moves neither the flag nor the tests, and ends none. -/
theorem quiet_task {pop : Option ModuleMessage} {malloc written : Bool}
    {outputs : List UartOutput} {next : UartManager}
    (hentry : uartTaskEntry pop malloc written m = (outputs, next))
    (hmarks : outputs.filterMap UartOutput.pingMark = [])
    (hactive : next.pingActive = m.pingActive)
    (hverdict : ¬ m.GivesVerdict (.task pop malloc written)) :
    m.Shows (.task pop malloc written) := by
  have hstep : uartMachine.step m (.task pop malloc written) = (outputs, next) := hentry
  apply Shows.quiet
  · rw [hstep]
    exact hmarks
  · rw [hstep]
    exact hactive
  · exact hverdict

/-- Only a probe that waits for its answer is ended by the task. -/
theorem givesVerdict_task {pop : Option ModuleMessage} {malloc written : Bool}
    (h : m.GivesVerdict (.task pop malloc written)) :
    m.writeResult = none ∧ m.state = .waitingResponse := by
  cases h with
  | timeout hping hlast hwrite hstate hover => exact ⟨hwrite, hstate⟩

theorem shows_task (pop : Option ModuleMessage) (malloc written : Bool) :
    m.Shows (.task pop malloc written) := by
  cases hwrite : m.writeResult with
  | some result =>
    have hentry : uartTaskEntry pop malloc written m = ([], uartTaskWritten result m) := by
      simp only [uartTaskEntry, hwrite]
    apply quiet_task hentry rfl (taskWritten_pingActive result)
    intro hverdict
    have hnone := (givesVerdict_task hverdict).1
    rw [hwrite] at hnone
    contradiction
  | none =>
    cases hstate : m.state with
    | idle =>
      have hentry : uartTaskEntry pop malloc written m = ([], uartTaskIdle pop malloc m) := by
        simp only [uartTaskEntry, hwrite, hstate]
      apply quiet_task hentry rfl (taskIdle_pingActive pop malloc)
      intro hverdict
      have hwaiting := (givesVerdict_task hverdict).2
      rw [hstate] at hwaiting
      contradiction
    | sending =>
      have hentry : uartTaskEntry pop malloc written m = uartTaskSending written m := by
        simp only [uartTaskEntry, hwrite, hstate]
      obtain ⟨hmarks, hactive⟩ := taskSending_quiet m written
      apply quiet_task hentry hmarks hactive
      intro hverdict
      have hwaiting := (givesVerdict_task hverdict).2
      rw [hstate] at hwaiting
      contradiction
    | waitingResponse =>
      have hentry : uartTaskEntry pop malloc written m = uartTaskWaiting m := by
        simp only [uartTaskEntry, hwrite, hstate]
      rw [uartTaskWaiting] at hentry
      by_cases hover : m.responseTimeoutCounter + 1 > m.limit
      · rw [if_pos hover] at hentry
        by_cases hlast : m.currentIsPing = true ∧ m.pingAttemptsLeft = 0
        · rw [if_pos hlast] at hentry
          refine .verdict ?_ ?_ (.timeout hlast.1 hlast.2 hwrite hstate hover)
          · exact congrArg (fun r => r.1.filterMap UartOutput.pingMark) hentry
          · exact congrArg (fun r => r.2.pingActive) hentry
        · rw [if_neg hlast] at hentry
          apply quiet_task hentry rfl rfl
          rintro (_ | ⟨hping, hnone, -, -, -⟩)
          exact hlast ⟨hping, hnone⟩
      · rw [if_neg hover] at hentry
        apply quiet_task hentry rfl rfl
        rintro (_ | ⟨-, -, -, -, htimeout⟩)
        exact hover htimeout
    | responseReceived =>
      have hentry : uartTaskEntry pop malloc written m = ([], m.reset) := by
        simp only [uartTaskEntry, hwrite, hstate]
      apply quiet_task hentry rfl rfl
      intro hverdict
      have hwaiting := (givesVerdict_task hverdict).2
      rw [hstate] at hwaiting
      contradiction

/-- The state after a frame was dispatched shows nothing of ping tests. -/
theorem frameReceived_dispatched (frame : List Byte) :
    (uartFrameReceived frame m).1 = (uartDispatchBinaryFrame frame m).1 ∧
      (uartFrameReceived frame m).2.pingActive =
        (uartDispatchBinaryFrame frame m).2.pingActive := by
  unfold uartFrameReceived
  dsimp only
  split
  · exact ⟨rfl, rfl⟩
  · exact ⟨rfl, rfl⟩

theorem shows_frame (frame : List Byte) : m.Shows (.frame frame) := by
  obtain ⟨houtput, hactive⟩ := frameReceived_dispatched (m := m) frame
  have hmarks := congrArg (List.filterMap UartOutput.pingMark) houtput
  by_cases hping : m.currentIsPing = true
  · by_cases hcmd : stmFrameCmd frame = stmCmdGetDevInfo ||| stmCmdRespBit
    · have hdispatch : uartDispatchBinaryFrame frame m =
          ([.verdict m.pingRequester m.pingAddr stmOk], { m with pingActive := false }) := by
        simp [uartDispatchBinaryFrame, hping, hcmd]
      rw [hdispatch] at hmarks hactive
      exact .verdict hmarks hactive (.reply hping hcmd)
    · have hdispatch : uartDispatchBinaryFrame frame m = ([], m) := by
        simp [uartDispatchBinaryFrame, hping, hcmd]
      rw [hdispatch] at hmarks hactive
      refine .quiet hmarks hactive ?_
      rintro ⟨-, hreply⟩
      exact hcmd hreply
  · have hdispatch : (uartDispatchBinaryFrame frame m).2 = m ∧
        (uartDispatchBinaryFrame frame m).1.filterMap UartOutput.pingMark = [] := by
      rw [uartDispatchBinaryFrame, if_neg hping]
      split
      · split
        · exact ⟨rfl, rfl⟩
        · exact ⟨rfl, rfl⟩
      · exact ⟨rfl, rfl⟩
    rw [hdispatch.1] at hactive
    refine .quiet (hmarks.trans hdispatch.2) hactive ?_
    rintro ⟨hprobe, -⟩
    exact hping hprobe

theorem shows_startPing (initialized : Bool) (requester : ModuleId) (addr : List Byte) :
    m.Shows (.startPing initialized requester addr) := by
  have hverdict : ¬ m.GivesVerdict (.startPing initialized requester addr) := by
    rintro ⟨⟩
  cases initialized with
  | false => exact .quiet rfl rfl hverdict
  | true =>
    cases hactive : m.pingActive with
    | true =>
      have hbusy : uartManagerStartPingTest true requester addr m = (.busy, m) := by
        simp [uartManagerStartPingTest, hactive]
      refine .quiet ?_ ?_ hverdict
      · exact congrArg (fun r => [UartOutput.pingTest r.1].filterMap UartOutput.pingMark) hbusy
      · exact congrArg (fun r => r.2.pingActive) hbusy
    | false =>
      have hstarted : (uartManagerStartPingTest true requester addr m).1 = .success ∧
          (uartManagerStartPingTest true requester addr m).2.pingActive = true := by
        simp [uartManagerStartPingTest, hactive]
      refine .started ?_ hactive hstarted.2 hverdict
      exact congrArg (fun r => [UartOutput.pingTest r].filterMap UartOutput.pingMark) hstarted.1

theorem shows (m : UartManager) (e : UartEvent) : m.Shows e := by
  cases e with
  | task pop malloc written => exact shows_task pop malloc written
  | buffered c => exact .quiet rfl rfl (by rintro ⟨⟩)
  | frame frame => exact shows_frame frame
  | startPing initialized requester addr => exact shows_startPing initialized requester addr

/-! ## The last probe -/

/-- A running test without probes left has its last one in flight. -/
def LastInFlight (m : UartManager) : Prop :=
  m.pingActive = true → m.pingAttemptsLeft = 0 → m.currentIsPing = true

/-- A probe in flight can be written. -/
theorem Sound.taskSending_probe (h : m.Sound) (hping : m.currentIsPing = true) (written : Bool) :
    (uartTaskSending written m).2 = { m with writeResult := some written } := by
  obtain ⟨hprobe, hidle⟩ := h.probe hping
  cases hrequest : m.currentRequest with
  | none => exact absurd hrequest (h.request hidle)
  | some pm =>
    obtain ⟨hraw, hlen, hpayload, -⟩ := uartProbe_spec pm (hprobe.symm.trans hrequest)
    obtain ⟨payload, hptr⟩ := Option.isSome_iff_exists.mp hpayload
    simp [uartTaskSending, hrequest, h.opened, hraw, hlen, hptr]

/-- What is in flight either stays there or is given up. -/
theorem taskSending_snd (m : UartManager) (written : Bool) :
    (uartTaskSending written m).2 = m.reset ∨
      (uartTaskSending written m).2 = { m with writeResult := some written } := by
  unfold uartTaskSending
  split
  · exact Or.inl rfl
  · split
    · exact Or.inl rfl
    · split
      · exact Or.inl rfl
      · split
        · exact Or.inl rfl
        · exact Or.inr rfl

/-- Giving up a request that is not the last probe of a running test leaves none hanging. -/
theorem lastInFlight_reset (hlast : m.LastInFlight)
    (hended : m.currentIsPing = true → m.pingAttemptsLeft = 0 → m.pingActive = false) :
    m.reset.LastInFlight := by
  intro hactive hnone
  have hping := hlast hactive hnone
  exact absurd (hactive.symm.trans (hended hping hnone)) (by simp)

theorem lastInFlight_task (hsound : m.Sound) (hlast : m.LastInFlight) {pop : Option ModuleMessage}
    {malloc written : Bool}
    (hended : m.GivesUp (.task pop malloc written) → m.pingActive = false) :
    (uartTaskEntry pop malloc written m).2.LastInFlight := by
  unfold uartTaskEntry
  split
  · rename_i result hwrite
    cases result with
    | true => exact hlast
    | false =>
      exact lastInFlight_reset hlast
        (fun hping hnone => hended (.writeFailed hping hnone hwrite))
  · rename_i hwrite
    split
    · rename_i hidle
      have hnoPing : m.currentIsPing ≠ true := fun hping => (hsound.probe hping).2 hidle
      unfold uartTaskIdle
      split
      · split
        · exact fun hactive hnone => absurd (hlast hactive hnone) hnoPing
        · exact hlast
      · split
        · split
          · exact fun _ _ => rfl
          · exact hlast
        · exact hlast
    · rcases taskSending_snd m written with hreset | hkept
      · rw [hreset]
        refine lastInFlight_reset hlast ?_
        intro hping
        -- a probe is never given up here
        have hprobe := (hsound.taskSending_probe hping written).symm.trans hreset
        have hstate := congrArg UartManager.state hprobe
        exact absurd hstate (hsound.probe hping).2
      · rw [hkept]
        exact hlast
    · rename_i hwaiting
      unfold uartTaskWaiting
      split
      · split
        · intro hactive
          contradiction
        · rename_i hmore
          exact lastInFlight_reset hlast (fun hping hnone => absurd ⟨hping, hnone⟩ hmore)
      · exact hlast
    · rename_i hreceived
      exact lastInFlight_reset hlast
        (fun hping hnone => hended (.answered hping hnone hwrite hreceived))

theorem lastInFlight_frame (hlast : m.LastInFlight) (frame : List Byte) :
    (uartFrameReceived frame m).2.LastInFlight := by
  have hdispatched : (uartDispatchBinaryFrame frame m).2.LastInFlight := by
    rcases uartDispatchBinaryFrame_snd frame m with hsame | hended
    · rwa [hsame]
    · rw [hended]
      intro hactive
      contradiction
  unfold uartFrameReceived
  dsimp only
  split
  · exact hdispatched
  · exact hdispatched

theorem lastInFlight_startPing (hlast : m.LastInFlight) (initialized : Bool)
    (requester : ModuleId) (addr : List Byte) :
    (uartManagerStartPingTest initialized requester addr m).2.LastInFlight := by
  unfold uartManagerStartPingTest
  split
  · exact hlast
  · split
    · exact hlast
    · intro _ hnone
      contradiction

/-- A step that does not give up the last probe of a running test leaves none hanging. -/
theorem lastInFlight_step (hsound : m.Sound) (hlast : m.LastInFlight) {e : UartEvent}
    (hended : m.GivesUp e → m.pingActive = false) :
    (uartMachine.step m e).2.LastInFlight := by
  cases e with
  | task pop malloc written => exact lastInFlight_task hsound hlast hended
  | buffered c => exact hlast
  | frame frame => exact lastInFlight_frame hlast frame
  | startPing initialized requester addr =>
    exact lastInFlight_startPing hlast initialized requester addr

/-- A test whose last probe is in flight is not stuck. -/
theorem LastInFlight.not_stuck (hlast : m.LastInFlight) : ¬ m.Stuck := by
  intro h
  have hping := hlast h.active h.noneLeft
  exact absurd (hping.symm.trans h.notInFlight) (by simp)

/-- Giving up the last probe of a running test leaves it stuck. -/
theorem GivesUp.stuck {e : UartEvent} (h : m.GivesUp e) (hactive : m.pingActive = true) :
    (uartMachine.step m e).2.Stuck := by
  cases h with
  | writeFailed hping hlast hfailed =>
    change (uartTaskEntry _ _ _ m).2.Stuck
    simp only [uartTaskEntry, hfailed]
    exact ⟨hactive, rfl, hlast, rfl⟩
  | answered hping hlast hwrite hreceived =>
    change (uartTaskEntry _ _ _ m).2.Stuck
    simp only [uartTaskEntry, hwrite, hreceived]
    exact ⟨hactive, rfl, hlast, rfl⟩

/-! ## A test that hangs -/

/-- A test is running without a probe left or in flight. -/
structure Hung (m : UartManager) : Prop where
  active : m.pingActive = true
  noneLeft : m.pingAttemptsLeft = 0
  notInFlight : m.currentIsPing = false

theorem Stuck.hung (h : m.Stuck) : m.Hung := ⟨h.active, h.noneLeft, h.notInFlight⟩

theorem Hung.reset (h : m.Hung) : m.reset.Hung := ⟨h.active, h.noneLeft, rfl⟩

theorem Hung.task (h : m.Hung) (pop : Option ModuleMessage) (malloc written : Bool) :
    (uartTaskEntry pop malloc written m).2.Hung := by
  unfold uartTaskEntry
  split
  · unfold uartTaskWritten
    split
    · exact { h with active := h.active }
    · exact UartManager.Hung.reset { h with active := h.active }
  · split
    · unfold uartTaskIdle
      split
      · split
        · exact ⟨h.active, h.noneLeft, rfl⟩
        · exact { h with active := h.active }
      · rw [if_neg (by simp [h.noneLeft])]
        exact h
    · rcases taskSending_snd m written with hreset | hkept
      · rw [hreset]
        exact h.reset
      · rw [hkept]
        exact { h with active := h.active }
    · unfold uartTaskWaiting
      split
      · rw [if_neg (by simp [h.notInFlight])]
        exact h.reset
      · exact { h with active := h.active }
    · exact h.reset

theorem Hung.frame (h : m.Hung) (frame : List Byte) : (uartFrameReceived frame m).2.Hung := by
  have hdispatched : (uartDispatchBinaryFrame frame m).2.Hung := by
    rw [uartDispatchBinaryFrame, if_neg (by simp [h.notInFlight])]
    split
    · split
      · exact h
      · exact h
    · exact h
  unfold uartFrameReceived
  dsimp only
  split
  · exact { hdispatched with active := hdispatched.active }
  · exact hdispatched

theorem Hung.startPing (h : m.Hung) (initialized : Bool) (requester : ModuleId)
    (addr : List Byte) :
    (uartManagerStartPingTest initialized requester addr m).1 ≠ .success ∧
      (uartManagerStartPingTest initialized requester addr m).2 = m := by
  unfold uartManagerStartPingTest
  split
  · simp
  · rw [if_pos h.active]
    simp

theorem Hung.step (h : m.Hung) (e : UartEvent) : (uartMachine.step m e).2.Hung := by
  cases e with
  | task pop malloc written => exact h.task pop malloc written
  | buffered c => exact { h with active := h.active }
  | frame frame => exact h.frame frame
  | startPing initialized requester addr =>
    change (uartManagerStartPingTest initialized requester addr m).2.Hung
    rw [(h.startPing initialized requester addr).2]
    exact h

/-- Once a test is stuck, every later one is refused. -/
theorem Stuck.refused (h : m.Stuck) (es : List UartEvent) (initialized : Bool)
    (requester : ModuleId) (addr : List Byte) :
    (uartManagerStartPingTest initialized requester addr (uartMachine.run m es).2).1 ≠
      .success := by
  have hrun : (uartMachine.run m es).2.Hung :=
    Machine.invariant uartMachine (I := UartManager.Hung) (fun _ e hung _ => hung.step e) h.hung
      (Machine.Along.trivial uartMachine m es)
  exact (hrun.startPing initialized requester addr).1

end UartManager

/-! ## Runs -/

namespace PingRun

/-- The log of a run that has concluded so far, with its last probe. -/
structure Tracked (r : PingRun) : Prop where
  sound : r.manager.Sound
  last : r.manager.LastInFlight
  alternates : r.Alternates

/-- The manager has just been started. -/
def init : PingRun := ⟨.init, []⟩

variable {r : PingRun} {e : UartEvent}

theorem tracked_init : PingRun.init.Tracked where
  sound := .init
  last h := absurd h (by simp [PingRun.init, UartManager.init])
  alternates := .nil

theorem Tracked.alternates_step (h : r.Tracked)
    (hverdict : r.manager.GivesVerdict e → r.manager.pingActive = true) :
    (pingMachine.step r e).2.Alternates := by
  have halternates := h.alternates
  unfold Alternates at halternates ⊢
  simp only [pingMachine]
  cases r.manager.shows e with
  | quiet hmarks hactive =>
    rwa [hmarks, hactive, List.append_nil]
  | verdict hmarks hactive hgives =>
    rw [hverdict hgives] at halternates
    rw [hmarks, hactive]
    exact .closed halternates
  | started hmarks hbefore hactive =>
    rw [hbefore] at halternates
    rw [hmarks, hactive]
    exact .opened halternates ()

theorem Tracked.step (h : r.Tracked) (hclean : r.manager.Clean e) :
    (pingMachine.step r e).2.Tracked where
  sound := h.sound.step e
  last := UartManager.lastInFlight_step h.sound h.last hclean.ended
  alternates := h.alternates_step hclean.verdict

/-- The flag is cleared exactly when a verdict is given if and only if no verdict is given
without a test. -/
theorem clears_iff : ((.verdict ∈ (pingMachine.step r e).1.filterMap UartOutput.pingMark) ↔
      r.manager.pingActive = true ∧ (pingMachine.step r e).2.manager.pingActive = false) ↔
    (r.manager.GivesVerdict e → r.manager.pingActive = true) := by
  simp only [pingMachine]
  cases r.manager.shows e with
  | quiet hmarks hactive hverdict =>
    rw [hmarks, hactive]
    refine iff_of_true (iff_of_false List.not_mem_nil ?_) (fun hgives => absurd hgives hverdict)
    rintro ⟨hon, hoff⟩
    exact absurd (hon.symm.trans hoff) (by simp)
  | verdict hmarks hactive hgives =>
    rw [hmarks, hactive]
    simp [hgives]
  | started hmarks hbefore hactive hverdict =>
    rw [hmarks, hactive, hbefore]
    exact iff_of_true (by simp) (fun hgives => absurd hgives hverdict)

/-- A step of a run that has concluded so far concludes exactly when it is clean. -/
theorem Tracked.concludes_iff (h : r.Tracked) (e : UartEvent) :
    r.Concludes e ↔ r.manager.Clean e := by
  constructor
  · intro hconcludes
    constructor
    · exact clears_iff.mp hconcludes.clears
    · intro hgives
      by_contra hactive
      exact hconcludes.notStuck (hgives.stuck (eq_true_of_ne_false hactive))
  · intro hclean
    have hnext := h.step hclean
    exact ⟨hnext.last.not_stuck, clears_iff.mpr hclean.verdict, hnext.alternates⟩

end PingRun

/-- In a run every ping test concludes, with one verdict that clears the flag, exactly when
no verdict is given without a test and no last probe of a running test is given up. -/
theorem ping_concludes_iff (es : List UartEvent) :
    pingMachine.Along PingRun.Concludes .init es ↔
      pingMachine.Along (fun r e => r.manager.Clean e) .init es :=
  Machine.along_congr pingMachine (I := PingRun.Tracked) (fun _ _ h hclean => h.step hclean)
    (fun _ e h => h.concludes_iff e) PingRun.tracked_init

/-- A test whose three probes cannot be written, up to the last write. -/
def failedWrites : List UartEvent :=
  .startPing true .sms (asciiBytes "+911234567890") ::
    List.replicate 8 (.task none true false)

/-- The last failed write leaves the test hanging. -/
theorem ping_stuck_after_failed_writes :
    ¬ ∀ es : List UartEvent, pingMachine.Along PingRun.Concludes .init es := by
  intro hall
  have hrun := hall (failedWrites ++ [.task none true false])
  obtain ⟨-, hlast, -⟩ := Machine.along_append.mp hrun
  exact hlast.notStuck ⟨by decide +kernel, by decide +kernel, by decide +kernel,
    by decide +kernel⟩

end WalnutGateway
