import WalnutGateway.Queue.Fifo
import WalnutGateway.Tcp.ClientInvariant

/-!
# Login before data

A connection is not logged in, waits for the acknowledgement of its login, or is logged in. In any
order of cycles, events, timeouts and requests to start over, rows are handed to a socket only
after a login packet was handed to the same socket and its bytes were acknowledged.
-/

namespace WalnutGateway

/-! ## The phase of a connection -/

/-- How far the login on a socket is. -/
inductive LoginPhase
  | out
  | sent
  | up
  deriving DecidableEq

/-- The phase that a state stands for. -/
def TcpState.phase : TcpState → LoginPhase
  | .waitAckLogin => .sent
  | .ackReceived | .sendingData | .waitAckData | .receiving => .up
  | _ => .out

/-- A step of a run: the state it starts from, and the operation. -/
abbrev ClientStep := ClientRun × ClientOp

/-- The client after the step. -/
def ClientStep.after (t : ClientStep) : ClientRun := (clientMachine.step t.1 t.2).2

/-- In the step the handler of a state hands bytes to the socket. -/
def ClientStep.SendsIn (state : TcpState) (t : ClientStep) : Prop :=
  ∃ env poll, t.2 = .cycle env poll ∧ Sends env (tcpCyclePrelude env t.1.sys) ∧
    (tcpCyclePrelude env t.1.sys).client.state = state

/-- In the step a login packet is handed to the socket, alone or with a position behind it. -/
structure ClientStep.HandsLogin (t : ClientStep) : Prop where
  sends : t.SendsIn .sendingLogin
  packet : ∃ env poll, t.2 = .cycle env poll ∧ env.loginPacket.length = loginPacketTotalSize ∧
    env.loginPacket <+: (clientMachine.step t.1 t.2).2.sys.loginPacketBuffer

/-- The step leaves the client on its socket. -/
def ClientStep.KeepsSocket (t : ClientStep) : Prop :=
  t.after.sys.client.tcpFd = t.1.sys.client.tcpFd

/-- In the step the bytes of the login are all acknowledged. -/
structure ClientStep.Acknowledges (t : ClientStep) : Prop where
  waiting : t.1.sys.client.state = .waitAckLogin
  received : t.after.sys.client.state = .ackReceived
  sent : 0 < t.after.sys.client.tcpBytesSent
  acked : t.after.sys.client.tcpBytesSent ≤ t.after.sys.client.tcpBytesAcked

/-- A login was handed to the socket that the client still has. -/
def LoginSent : List ClientStep → Prop :=
  Since (fun t => t.HandsLogin ∧ t.KeepsSocket) ClientStep.KeepsSocket

/-- Such a login was also acknowledged. -/
def LoggedIn (past : List ClientStep) : Prop :=
  ∃ before ack later, past = before ++ ack :: later ∧ LoginSent before ∧ ack.Acknowledges ∧
    ack.KeepsSocket ∧ ∀ t ∈ later, t.KeepsSocket

theorem LoginSent.concat {past : List ClientStep} (h : LoginSent past) {t : ClientStep}
    (ht : t.KeepsSocket) : LoginSent (past ++ [t]) := since_concat.mpr (Or.inr ⟨ht, h⟩)

theorem LoggedIn.concat {past : List ClientStep} (h : LoggedIn past) {t : ClientStep}
    (ht : t.KeepsSocket) : LoggedIn (past ++ [t]) := by
  obtain ⟨before, ack, later, rfl, hsent, hack, hkeeps, hlater⟩ := h
  refine ⟨before, ack, later ++ [t], by simp, hsent, hack, hkeeps, fun t' ht' => ?_⟩
  rcases List.mem_append.mp ht' with hold | hnew
  · exact hlater t' hold
  · rw [List.mem_singleton.mp hnew]
    exact ht

/-! ## What a step can do to the phase -/

/-- From one state of the client to another: a phase other than `out` is reached on the socket
that is there, and from the phase before it; `login` tells that a login was handed over. -/
structure Advances (login : Prop) (s s' : TcpSystem) : Prop where
  fd : s'.client.state.phase ≠ .out → s'.client.tcpFd = s.client.tcpFd
  sent : s'.client.state.phase = .sent → s.client.state.phase = .sent ∨ login
  up : s'.client.state.phase = .up → s.client.state.phase = .up ∨
    (s.client.state = .waitAckLogin ∧ s'.client.state = .ackReceived)

/-- A state that is not logged in needs no reason. -/
theorem advances_of_out {login : Prop} {s s' : TcpSystem} (h : s'.client.state.phase = .out) :
    Advances login s s' where
  fd hne := absurd h hne
  sent hsent := by
    rw [h] at hsent
    cases hsent
  up hup := by
    rw [h] at hup
    cases hup

/-- The state is kept, and so is the socket. -/
theorem advances_of_state_eq {login : Prop} {s s' : TcpSystem}
    (hstate : s'.client.state = s.client.state) (hfd : s'.client.tcpFd = s.client.tcpFd) :
    Advances login s s' where
  fd _ := hfd
  sent hsent := Or.inl (hstate ▸ hsent)
  up hup := Or.inl (hstate ▸ hup)

theorem advances_tcpCheckStateTimeout (env : TcpEnv) (s : TcpSystem) :
    Advances False s (tcpCheckStateTimeout env s) := by
  rcases tcpCheckStateTimeout_cases env s with heq | ⟨state, hstate, ticks, heq⟩
  · rw [heq]
    exact advances_of_state_eq rfl rfl
  · rw [heq]
    rcases hstate with rfl | ⟨-, rfl⟩ <;> exact advances_of_out rfl

theorem advances_tcpCheckOverallTimeout (env : TcpEnv) (s : TcpSystem) :
    Advances False s (tcpCheckOverallTimeout env s) := by
  unfold tcpCheckOverallTimeout
  split
  · exact advances_of_state_eq rfl rfl
  · split
    · exact advances_of_state_eq rfl rfl
    · exact advances_of_out rfl

/-- Events from the socket: the state is kept, or the client starts again, or it waited for an
acknowledgement. -/
structure EventMoves (s s' : TcpSystem) : Prop where
  fd : s'.client.tcpFd = s.client.tcpFd
  state : s'.client.state = s.client.state ∨ s'.client.state = .connected ∨
    s'.client.state = .closed ∨ (s'.client.state = .ackReceived ∧
      (s.client.state = .waitAckLogin ∨ s.client.state = .waitAckData))

theorem eventMoves_tcpSocketEventCallback (fd : Int) (evt : NetconnEvent) (len : Nat)
    (s : TcpSystem) : EventMoves s (tcpSocketEventCallback fd evt len s) := by
  unfold tcpSocketEventCallback
  split
  · exact ⟨rfl, Or.inl rfl⟩
  split
  · exact ⟨rfl, Or.inl rfl⟩
  cases evt
  case connected => exact ⟨rfl, Or.inr (Or.inl rfl)⟩
  case sendacked =>
    dsimp only
    split
    · split
      · rename_i hacked
        exact ⟨rfl, Or.inr (Or.inr (Or.inr ⟨rfl, hacked.2⟩))⟩
      · exact ⟨rfl, Or.inl rfl⟩
    · exact ⟨rfl, Or.inl rfl⟩
  case rcvplus | rcvminus | sendplus | sendminus | acceptplus => exact ⟨rfl, Or.inl rfl⟩
  all_goals
    refine ⟨?_, Or.inr (Or.inr (Or.inl rfl))⟩
    dsimp only
    split <;> rfl

/-- Events one after the other are like one event. -/
theorem eventMoves_deliver (fd : Int) (events : List (NetconnEvent × Nat)) (s : TcpSystem) :
    EventMoves s (deliver fd events s) := by
  induction events generalizing s with
  | nil => exact ⟨rfl, Or.inl rfl⟩
  | cons e events ih =>
    obtain ⟨hfd, hstate⟩ := eventMoves_tcpSocketEventCallback fd e.1 e.2 s
    obtain ⟨hfd', hstate'⟩ := ih (tcpSocketEventCallback fd e.1 e.2 s)
    change EventMoves s (deliver fd events (tcpSocketEventCallback fd e.1 e.2 s))
    refine ⟨hfd'.trans hfd, ?_⟩
    rcases hstate' with hkept | hconnected | hclosed | ⟨hreceived, hwaits⟩
    · rw [hkept]
      exact hstate
    · exact Or.inr (Or.inl hconnected)
    · exact Or.inr (Or.inr (Or.inl hclosed))
    · refine Or.inr (Or.inr (Or.inr ⟨hreceived, ?_⟩))
      -- a state that waits was there before the first event
      rcases hstate with heq | heq | heq | ⟨heq, -⟩
      · rwa [← heq]
      all_goals
        rw [heq] at hwaits
        rcases hwaits with h | h <;> cases h

theorem EventMoves.advances {s s' : TcpSystem} (h : EventMoves s s') : Advances False s s' := by
  obtain ⟨hfd, hstate | hstate | hstate | ⟨hreceived, hwaits⟩⟩ := h
  · exact advances_of_state_eq hstate hfd
  · exact advances_of_out (by rw [hstate]; rfl)
  · exact advances_of_out (by rw [hstate]; rfl)
  · refine ⟨fun _ => hfd, fun hsent => ?_, fun _ => ?_⟩
    · rw [hreceived] at hsent
      cases hsent
    · rcases hwaits with h | h
      · exact Or.inr ⟨h, hreceived⟩
      · exact Or.inl (by rw [h]; rfl)

theorem SendOutcome.tcpFd {s : TcpSystem} {r : Result × TcpSystem} (h : SendOutcome s r) :
    r.2.client.tcpFd = s.client.tcpFd := by
  cases h <;> rfl

theorem tcpFd_tcpStateHandleWaitAck (env : TcpEnv) (s : TcpSystem) :
    (tcpStateHandleWaitAck env s).2.client.tcpFd = s.client.tcpFd := by
  unfold tcpStateHandleWaitAck
  split_ifs <;> rfl

/-- A handler of a state on the way to a session keeps the socket. -/
theorem tcpFd_tcpStateHandler (env : TcpEnv) {s : TcpSystem}
    (h : s.client.state = .sendingLogin ∨ s.client.state.phase ≠ .out) :
    (tcpStateHandler env s).2.client.tcpFd = s.client.tcpFd := by
  unfold tcpStateHandler
  cases hstate : s.client.state <;> simp only [hstate, TcpState.phase] at h ⊢
  case sendingLogin => exact (tcpStateHandleSendingLogin_outcome env s).tcpFd
  case waitAckLogin => exact tcpFd_tcpStateHandleWaitAck env s
  case ackReceived => rfl
  case sendingData => exact (tcpStateHandleSendingData_outcome env hstate).tcpFd
  case waitAckData => exact tcpFd_tcpStateHandleWaitAck env s
  case receiving => rfl
  all_goals simp at h

/-- A handler leads to the phase of its state, out of it, or one phase on. -/
theorem phase_next (state : TcpState) (r : Result) :
    (state.next r).phase = .out ∨ (state.next r).phase = state.phase ∨
      (state = .sendingLogin ∧ r = .success ∧ state.next r = .waitAckLogin) ∨
      (state = .waitAckLogin ∧ state.next r = .ackReceived) := by
  cases state <;> cases r <;> simp [TcpState.next, TcpState.onSuccess, TcpState.phase]

theorem advances_tcpDispatch (env : TcpEnv) (s : TcpSystem) :
    Advances (Sends env s ∧ s.client.state = .sendingLogin) s (tcpDispatch env s) := by
  rw [tcpDispatch_eq_setState]
  by_cases hout : (s.client.state.next (tcpStateHandler env s).1).phase = .out
  · exact advances_of_out hout
  rcases (phase_next s.client.state (tcpStateHandler env s).1).resolve_left hout with
    hsame | ⟨hlogin, hsuccess, hnext⟩ | ⟨hwaits, hnext⟩
  · have hfd := tcpFd_tcpStateHandler env (s := s) (Or.inr (hsame ▸ hout))
    exact ⟨fun _ => hfd, fun hsent => Or.inl (hsame ▸ hsent), fun hup => Or.inl (hsame ▸ hup)⟩
  · have hfd := tcpFd_tcpStateHandler env (s := s) (Or.inl hlogin)
    refine ⟨fun _ => hfd, fun _ => Or.inr ⟨⟨Or.inl hlogin, hsuccess⟩, hlogin⟩, fun hup => ?_⟩
    simp only [TcpSystem.setState, hnext, TcpState.phase] at hup
    cases hup
  · have hfd := tcpFd_tcpStateHandler env (s := s) (Or.inr (by rw [hwaits]; decide))
    refine ⟨fun _ => hfd, fun hsent => ?_, fun _ => Or.inr ⟨hwaits, hnext⟩⟩
    simp only [TcpSystem.setState, hnext, TcpState.phase] at hsent
    cases hsent

/-- The state that a cycle hands to its handler: the one before, or one without a socket. -/
theorem tcpCyclePrelude_state (env : TcpEnv) (s : TcpSystem) :
    (tcpCyclePrelude env s).client.tcpFd = s.client.tcpFd ∧
      ((tcpCyclePrelude env s).client.state = s.client.state ∨
        (tcpCyclePrelude env s).client.state.phase = .out) := by
  have hstate (s : TcpSystem) : (tcpCheckStateTimeout env s).client.tcpFd = s.client.tcpFd ∧
      ((tcpCheckStateTimeout env s).client.state = s.client.state ∨
        (tcpCheckStateTimeout env s).client.state.phase = .out) := by
    rcases tcpCheckStateTimeout_cases env s with heq | ⟨state, hstate, ticks, heq⟩
    · rw [heq]
      exact ⟨rfl, Or.inl rfl⟩
    · rw [heq]
      rcases hstate with rfl | ⟨-, rfl⟩ <;> exact ⟨rfl, Or.inr rfl⟩
  have hoverall (s : TcpSystem) : (tcpCheckOverallTimeout env s).client.tcpFd = s.client.tcpFd ∧
      ((tcpCheckOverallTimeout env s).client.state = s.client.state ∨
        (tcpCheckOverallTimeout env s).client.state.phase = .out) := by
    unfold tcpCheckOverallTimeout
    split_ifs <;> first | exact ⟨rfl, Or.inl rfl⟩ | exact ⟨rfl, Or.inr rfl⟩
  unfold tcpCyclePrelude
  generalize hentry : (if s.lastState ≠ s.client.state then _ else s : TcpSystem) = entry
  have hsame : entry.client.tcpFd = s.client.tcpFd ∧ entry.client.state = s.client.state := by
    rw [← hentry]
    split <;> exact ⟨rfl, rfl⟩
  obtain ⟨hfd, htimeout⟩ := hstate entry
  obtain ⟨hfd', htimeout'⟩ := hoverall (tcpCheckStateTimeout env entry)
  have hall : (tcpCheckOverallTimeout env (tcpCheckStateTimeout env entry)).client.tcpFd =
      s.client.tcpFd ∧
      ((tcpCheckOverallTimeout env (tcpCheckStateTimeout env entry)).client.state =
        s.client.state ∨
        (tcpCheckOverallTimeout env (tcpCheckStateTimeout env entry)).client.state.phase =
          .out) := by
    refine ⟨hfd'.trans (hfd.trans hsame.1), ?_⟩
    rcases htimeout' with h | h
    · rw [h, ← hsame.2]
      exact htimeout
    · exact Or.inr h
  dsimp only
  split
  · exact hall
  · exact hall

/-- A handler that hands a login over hands over a whole packet. -/
theorem loginPacket_of_sends {env : TcpEnv} {s : TcpSystem}
    (hstate : s.client.state = .sendingLogin) (hsends : Sends env s) :
    env.loginPacket.length = loginPacketTotalSize ∧
      env.loginPacket <+: (tcpDispatch env s).loginPacketBuffer := by
  have hsuccess := hsends.2
  rw [tcpDispatch_eq_setState]
  change _ ∧ env.loginPacket <+: (tcpStateHandler env s).2.loginPacketBuffer
  unfold tcpStateHandler at hsuccess ⊢
  rw [hstate] at hsuccess ⊢
  dsimp only at hsuccess ⊢
  unfold tcpStateHandleSendingLogin at hsuccess ⊢
  split at hsuccess
  · cases hsuccess
  rename_i hvalid
  rw [if_neg hvalid]
  split at hsuccess
  · cases hsuccess
  rename_i hlength
  rw [if_neg hlength]
  refine ⟨not_not.mp hlength, ?_⟩
  dsimp only
  generalize hpacket : (if (s.client.config.any fun c => c.loginWithGps) = true ∧
    env.lastValidPosition.length = loginPositionSize then
    env.loginPacket ++ env.lastValidPosition else env.loginPacket) = packet
  have hbuffer :
      (tcpSendData env { s with loginPacketBuffer := packet } packet).2.loginPacketBuffer =
        packet := by
    rcases tcpSendData_cases env { s with loginPacketBuffer := packet } packet with
      ⟨-, heq⟩ | ⟨-, heq⟩ | ⟨-, heq⟩
    · rw [heq]
    · rw [heq]
    · rw [heq]
      rfl
  rw [hbuffer, ← hpacket]
  split
  · exact List.prefix_append _ _
  · exact List.prefix_refl _

/-- What any step of a run can do to the phase. -/
theorem advances_step (t : ClientStep) : Advances t.HandsLogin t.1.sys t.after.sys := by
  obtain ⟨s, op⟩ := t
  have hnever {s' : TcpSystem} {login : Prop} (h : Advances False s.sys s') :
      Advances login s.sys s' := ⟨h.fd, fun hsent => (h.sent hsent).imp id False.elim, h.up⟩
  cases op with
  | cycle env poll =>
    obtain ⟨hfd, hstate⟩ := tcpCyclePrelude_state env s.sys
    obtain ⟨hfd', hsent, hup⟩ := advances_tcpDispatch env (tcpCyclePrelude env s.sys)
    have hphase : (tcpCyclePrelude env s.sys).client.state.phase ≠ .out →
        (tcpCyclePrelude env s.sys).client.state = s.sys.client.state :=
      fun hne => hstate.resolve_right hne
    refine ⟨fun hne => (hfd' hne).trans hfd, fun h => ?_, fun h => ?_⟩
    · rcases hsent h with hwas | ⟨hsends, hlogin⟩
      · exact Or.inl (hphase (by rw [hwas]; decide) ▸ hwas)
      · exact Or.inr ⟨⟨env, poll, rfl, hsends, hlogin⟩, env, poll, rfl,
          loginPacket_of_sends hlogin hsends⟩
    · rcases hup h with hwas | ⟨hwaits, hreceived⟩
      · exact Or.inl (hphase (by rw [hwas]; decide) ▸ hwas)
      · exact Or.inr ⟨hphase (by rw [hwaits]; decide) ▸ hwaits, hreceived⟩
  | event env part => exact hnever (eventMoves_deliver s.slot.fd _ s.sys).advances
  | stateTimeout env => exact hnever (advances_tcpCheckStateTimeout env s.sys)
  | overallTimeout env => exact hnever (advances_tcpCheckOverallTimeout env s.sys)
  | resetConnection => exact advances_of_out rfl

/-! ## Whole runs -/

/-- The phase of a state has its reason in the past. -/
structure LoginTraced (past : List ClientStep) (s : ClientRun) : Prop where
  held : s.Held
  sent : s.sys.client.state.phase = .sent → LoginSent past
  up : s.sys.client.state.phase = .up → LoggedIn past

theorem LoginTraced.step {past : List ClientStep} {s : ClientRun} (h : LoginTraced past s)
    (op : ClientOp) : LoginTraced (past ++ [(s, op)]) (clientMachine.step s op).2 := by
  have hheld := h.held.step op
  obtain ⟨hfd, hsent, hup⟩ := advances_step (s, op)
  refine ⟨hheld, fun hphase => ?_, fun hphase => ?_⟩
  · have hkeeps : ClientStep.KeepsSocket (s, op) := hfd fun hout => by
      cases hphase.symm.trans hout
    rcases hsent hphase with hwas | hlogin
    · exact (h.sent hwas).concat hkeeps
    · exact since_concat.mpr (Or.inl ⟨hlogin, hkeeps⟩)
  · have hkeeps : ClientStep.KeepsSocket (s, op) := hfd fun hout => by
      cases hphase.symm.trans hout
    rcases hup hphase with hwas | ⟨hwaits, hreceived⟩
    · exact (h.up hwas).concat hkeeps
    · have hacked := hheld.acked hreceived
      rw [TcpSystem.checkAckReceived, decide_eq_true_eq] at hacked
      exact ⟨past, (s, op), [], rfl, h.sent (by rw [hwaits]; rfl),
        ⟨hwaits, hreceived, hacked.1, hacked.2⟩, hkeeps, fun _ hmem => absurd hmem List.not_mem_nil⟩

end WalnutGateway
