import WalnutGateway.Uart.Manager

/-!
# Replies and their requests

A raw request is in flight while it is sent and waited for. Its transaction is meant to
end with the reply to it, a failed write or the timeout, and a frame with another opcode
to be dropped without a trace. The dispatcher drops such a frame, but the loop that called
it takes the request as answered all the same.
-/

namespace WalnutGateway

/-- The opcode of the reply to a request. -/
def replyCmd (req : ModuleMessage) : Byte := uartRequestCmd req ||| stmCmdRespBit

namespace UartManager

/-- A raw request is being sent or waited for. -/
structure InFlight (m : UartManager) (req : ModuleMessage) : Prop where
  state : m.state = .sending ∨ m.state = .waitingResponse
  current : m.currentRequest = some req
  raw : req.isRaw = true

/-- The steps that are meant to end a transaction. -/
inductive EndsBy (m : UartManager) (req : ModuleMessage) : UartEvent → Prop
  | reply {frame : List Byte} (h : stmFrameCmd frame = replyCmd req) : EndsBy m req (.frame frame)
  | writeFailed {pop : Option ModuleMessage} {malloc written : Bool}
    (h : m.writeResult = some false) : EndsBy m req (.task pop malloc written)
  | timeout {pop : Option ModuleMessage} {malloc written : Bool}
    (hwaiting : m.state = .waitingResponse) (hover : m.responseTimeoutCounter + 1 > m.limit) :
    EndsBy m req (.task pop malloc written)

/-- A step respects the request in flight. -/
structure Correlated (m : UartManager) (e : UartEvent) : Prop where
  /-- It ends for one of the three reasons only. -/
  ends : ∀ req, m.InFlight req → ¬ (uartMachine.step m e).2.InFlight req → m.EndsBy req e
  /-- Another frame is dropped, and the request is waited for as before. -/
  drops : ∀ req frame, m.InFlight req → e = .frame frame → stmFrameCmd frame ≠ replyCmd req →
    (uartMachine.step m e).1 = [] ∧ (uartMachine.step m e).2.state = m.state ∧
      (uartMachine.step m e).2.currentRequest = m.currentRequest ∧
      (uartMachine.step m e).2.responseTimeoutCounter = m.responseTimeoutCounter
  /-- The reply goes to the requester. -/
  delivers : ∀ req frame, m.InFlight req → e = .frame frame → stmFrameCmd frame = replyCmd req →
    m.currentIsPing = false →
    (uartMachine.step m e).1 = [.reply req.sourceModule req.address frame]

/-- A frame that comes while a request is in flight is the reply to it, and the task is not
given a request that it cannot write. -/
def Matching (m : UartManager) (e : UartEvent) : Prop :=
  match e with
  | .frame frame => ∀ req, m.InFlight req → stmFrameCmd frame = replyCmd req
  | .task .. => ∀ req, m.InFlight req → m.state = .sending → m.writeResult = none →
    req.dataLen ≠ 0 ∧ req.payloadPtr.isSome = true
  | .buffered _ => True
  | .startPing .. => True

variable {m : UartManager} {req : ModuleMessage}

/-! ## Frames -/

theorem InFlight.not_idle (h : m.InFlight req) : m.state ≠ .idle := by
  rcases h.state with hstate | hstate
  · rw [hstate]
    simp
  · rw [hstate]
    simp

/-- While a request is in flight every frame is taken for its reply. -/
theorem InFlight.frameReceived_state (h : m.InFlight req) (hsound : m.Sound) (frame : List Byte) :
    (uartFrameReceived frame m).2.state = .responseReceived := by
  have hpending : (uartDispatchBinaryFrame frame m).2.hasPendingRequest = true := by
    rcases uartDispatchBinaryFrame_snd frame m with hsame | hended
    · rw [hsame]
      exact hsound.pending.mpr h.not_idle
    · rw [hended]
      exact hsound.pending.mpr h.not_idle
  simp only [uartFrameReceived, hpending, if_true]

/-- The reply is routed to the requester. -/
theorem InFlight.frameReceived_fst (h : m.InFlight req) {frame : List Byte}
    (hcmd : stmFrameCmd frame = replyCmd req) (hping : m.currentIsPing = false) :
    (uartFrameReceived frame m).1 = [.reply req.sourceModule req.address frame] := by
  have hdispatched : uartDispatchBinaryFrame frame m =
      ([.reply req.sourceModule req.address frame], m) := by
    rw [replyCmd] at hcmd
    simp [uartDispatchBinaryFrame, hping, h.current, hcmd]
  rw [uartFrameReceived, hdispatched]
  dsimp only
  split
  · rfl
  · rfl

theorem InFlight.correlated_frame (h : m.InFlight req) (hsound : m.Sound) (frame : List Byte) :
    m.Correlated (.frame frame) ↔ m.Matching (.frame frame) := by
  have hstate := h.frameReceived_state hsound frame
  constructor
  · intro hcorrelated req hflight
    by_contra hother
    obtain ⟨-, hkept, -⟩ := hcorrelated.drops req frame hflight rfl hother
    rcases hflight.state with hsending | hwaiting
    · have hsame := hkept.symm.trans hstate
      rw [hsending] at hsame
      contradiction
    · have hsame := hkept.symm.trans hstate
      rw [hwaiting] at hsame
      contradiction
  · intro hmatching
    constructor
    · intro req hflight _
      exact .reply (hmatching req hflight)
    · rintro req _ hflight ⟨⟩ hother
      exact absurd (hmatching req hflight) hother
    · rintro req _ hflight ⟨⟩ hcmd hping
      exact hflight.frameReceived_fst hcmd hping

/-! ## The task -/

/-- A request that can be written stays in flight through its write. -/
theorem InFlight.taskSending (h : m.InFlight req) (hopened : m.uartOpened = true)
    (hlen : req.dataLen ≠ 0) (hpayload : req.payloadPtr.isSome = true) (written : Bool) :
    (uartTaskSending written m).2 = { m with writeResult := some written } := by
  obtain ⟨payload, hptr⟩ := Option.isSome_iff_exists.mp hpayload
  simp [uartTaskSending, h.current, hopened, h.raw, hlen, hptr]

/-- A request that cannot be written is dropped. -/
theorem InFlight.taskSending_reset (h : m.InFlight req)
    (hnone : ¬ (req.dataLen ≠ 0 ∧ req.payloadPtr.isSome = true)) (written : Bool) :
    (uartTaskSending written m).2 = m.reset := by
  simp only [uartTaskSending, h.current]
  split
  · rfl
  · split
    · rfl
    · rename_i hsendable
      rw [not_or] at hsendable
      have hptr : req.payloadPtr = none := by
        by_contra hsome
        exact hnone ⟨hsendable.2, Option.isSome_iff_ne_none.mpr hsome⟩
      rw [hptr]

theorem InFlight.of_state {m' : UartManager} (h : m.InFlight req)
    (hrequest : m'.currentRequest = m.currentRequest)
    (hstate : m'.state = .sending ∨ m'.state = .waitingResponse) : m'.InFlight req :=
  ⟨hstate, hrequest.trans h.current, h.raw⟩

theorem InFlight.correlated_task (h : m.InFlight req) (hsound : m.Sound)
    (pop : Option ModuleMessage) (malloc written : Bool) :
    m.Correlated (.task pop malloc written) ↔ m.Matching (.task pop malloc written) := by
  have hunique : ∀ other, m.InFlight other → other = req := by
    intro other hother
    exact Option.some.inj (hother.current.symm.trans h.current)
  constructor
  · intro hcorrelated other hother hsending hwrite
    by_contra hnone
    have hreset := hother.taskSending_reset hnone written
    have hstep : (uartMachine.step m (.task pop malloc written)).2 = m.reset := by
      change (uartTaskEntry pop malloc written m).2 = m.reset
      simp only [uartTaskEntry, hwrite, hsending]
      exact hreset
    have hended : ¬ (uartMachine.step m (.task pop malloc written)).2.InFlight other := by
      intro hflight
      exact hflight.not_idle (by rw [hstep]; rfl)
    cases hcorrelated.ends other hother hended with
    | writeFailed hfailed => exact absurd (hwrite.symm.trans hfailed) (by simp)
    | timeout hwaiting => exact absurd (hsending.symm.trans hwaiting) (by simp)
  · intro hmatching
    constructor
    · intro other hother hended
      obtain rfl := hunique other hother
      change ¬ (uartTaskEntry pop malloc written m).2.InFlight other at hended
      cases hwrite : m.writeResult with
      | some result =>
        cases result with
        | true =>
          refine absurd ?_ hended
          simp only [uartTaskEntry, hwrite]
          exact h.of_state rfl (Or.inr rfl)
        | false => exact .writeFailed hwrite
      | none =>
        rcases h.state with hsending | hwaiting
        · obtain ⟨hlen, hpayload⟩ := hmatching other h hsending hwrite
          refine absurd ?_ hended
          simp only [uartTaskEntry, hwrite, hsending]
          rw [h.taskSending hsound.opened hlen hpayload]
          exact h.of_state rfl (Or.inl hsending)
        · by_cases hover : m.responseTimeoutCounter + 1 > m.limit
          · exact .timeout hwaiting hover
          · refine absurd ?_ hended
            simp only [uartTaskEntry, hwrite, hwaiting, uartTaskWaiting, if_neg hover]
            exact h.of_state rfl (Or.inr rfl)
    · intro _ _ _ hframe
      cases hframe
    · intro _ _ _ hframe
      cases hframe

/-! ## Every step, every run -/

theorem correlated_of_idle (h : ∀ req, ¬ m.InFlight req) (e : UartEvent) : m.Correlated e where
  ends req hflight := absurd hflight (h req)
  drops req _ hflight := absurd hflight (h req)
  delivers req _ hflight := absurd hflight (h req)

theorem matching_of_idle (h : ∀ req, ¬ m.InFlight req) (e : UartEvent) : m.Matching e := by
  cases e with
  | task pop malloc written => exact fun req hflight => absurd hflight (h req)
  | frame frame => exact fun req hflight => absurd hflight (h req)
  | buffered c => trivial
  | startPing initialized requester addr => trivial

/-- A step of the task or the callback that leaves the request alone respects it. -/
theorem correlated_of_same {e : UartEvent} (hframe : ∀ frame, e ≠ .frame frame)
    (hstate : (uartMachine.step m e).2.state = m.state)
    (hrequest : (uartMachine.step m e).2.currentRequest = m.currentRequest) : m.Correlated e where
  ends _ h hended := absurd (h.of_state hrequest (hstate ▸ h.state)) hended
  drops _ frame _ he := absurd he (hframe frame)
  delivers _ frame _ he := absurd he (hframe frame)

/-- Asking for a ping test leaves the request in flight alone. -/
theorem startPing_request (initialized : Bool) (requester : ModuleId) (addr : List Byte) :
    (uartManagerStartPingTest initialized requester addr m).2.state = m.state ∧
      (uartManagerStartPingTest initialized requester addr m).2.currentRequest =
        m.currentRequest := by
  unfold uartManagerStartPingTest
  split
  · exact ⟨rfl, rfl⟩
  · split
    · exact ⟨rfl, rfl⟩
    · exact ⟨rfl, rfl⟩

theorem Sound.correlated_iff (hsound : m.Sound) (e : UartEvent) :
    m.Correlated e ↔ m.Matching e := by
  by_cases hflight : ∃ req, m.InFlight req
  · obtain ⟨req, h⟩ := hflight
    cases e with
    | task pop malloc written => exact h.correlated_task hsound pop malloc written
    | frame frame => exact h.correlated_frame hsound frame
    | buffered c => exact iff_of_true (correlated_of_same (by simp) rfl rfl) trivial
    | startPing initialized requester addr =>
      obtain ⟨hstate, hrequest⟩ := startPing_request (m := m) initialized requester addr
      exact iff_of_true (correlated_of_same (by simp) hstate hrequest) trivial
  · have hidle := not_exists.mp hflight
    exact iff_of_true (correlated_of_idle hidle e) (matching_of_idle hidle e)

end UartManager

/-- A run respects every request in flight exactly when every frame that comes while one is
in flight is the reply to it, and no request is given to the task that it cannot write. -/
theorem correlated_run_iff (es : List UartEvent) :
    uartMachine.Along UartManager.Correlated .init es ↔
      uartMachine.Along UartManager.Matching .init es :=
  Machine.along_congr uartMachine (I := UartManager.Sound) (fun _ e h _ => h.step e)
    (fun _ e h => h.correlated_iff e) UartManager.Sound.init

/-- A request of an SMS to scan for peripherals. -/
def scanRequest : ModuleMessage :=
  { ModuleMessage.ofPayload .sms .uart
      [0xAA, 0x55, 0x01, 0x01, 0x04, 0x00, 0x20, 0x00, 0x00, 0x00, 0x00] with isRaw := true }

/-- The request is written and waited for. -/
def scanSteps : List UartEvent :=
  [.task (some scanRequest) true true, .task none true true, .task none true true]

theorem scanRequest_inFlight : (uartMachine.run .init scanSteps).2.InFlight scanRequest :=
  ⟨by decide +kernel, by decide +kernel, rfl⟩

/-- The device information, as one chunk. -/
def staleChunk : RxChunk := ⟨emptyReply.bytes, true⟩

theorem staleChunk_frames : (uartRxCallback staleChunk ⟨[], 1024⟩).1 = [emptyReply.bytes] := by
  decide +kernel

/-- A late reply with the device information ends the wait for the reply about the scan. -/
theorem stale_frame_ends_request :
    ¬ ∀ es : List UartEvent, uartMachine.Along UartManager.Correlated .init es := by
  intro hall
  have hrun := hall (scanSteps ++ chunkEvents staleChunk ⟨[], 1024⟩)
  rw [chunkEvents, staleChunk_frames] at hrun
  obtain ⟨-, -, hstale, -⟩ := Machine.along_append.mp hrun
  have hsound := UartManager.Sound.run scanSteps
  have hflight := scanRequest_inFlight
  generalize (uartMachine.run .init scanSteps).2 = m at hstale hsound hflight
  have hbuffered := hsound.step (.buffered staleChunk)
  have hmatching := (hbuffered.correlated_iff _).mp hstale
  have hcmd := hmatching scanRequest (hflight.of_state rfl hflight.state)
  exact absurd hcmd (by decide +kernel)

end WalnutGateway
