import WalnutGateway.Tcp.SendAcked

/-!
# The except flag

The kernel raises the except flag of a socket also without an error, and the poll
layer ends the pass of a slot there: an errno is looked at only until a latch is
set, and the other events of the pass are not looked for at all. A socket is
followed over the passes after its connect was started, with the sends noted in
between.
-/

namespace WalnutGateway

/-! ## What a pass finds -/

/-- `ERROR_*`. -/
def NetconnEvent.isError : NetconnEvent → Bool
  | .errorClsd | .errorRst | .errorAbrt | .error => true
  | _ => false

/-- One of the events satisfies `p`. -/
def emits (p : NetconnEvent → Bool) (events : List (NetconnEvent × Nat)) : Bool :=
  events.any fun e => p e.1

/-- `SO_ERROR` is nonzero. -/
def PollEnv.SoErrorSet (env : PollEnv) : Prop := env.soErrorRet = 0 ∧ env.soError ≠ 0

/-- A pending connect is writable and its peer is known. -/
def ConnectMade (env : PollEnv) (slot : SocketPollSlot) : Prop :=
  slot.connectPending = true ∧ env.writable = true ∧ env.getpeername = 0

/-- Received data is buffered. -/
def PollEnv.DataBuffered (env : PollEnv) : Prop :=
  env.readable = true ∧ env.fionreadRet = 0 ∧ env.fionreadAvail > 0

/-- The send buffer shows that bytes noted as sent were drained. -/
def SndbufDrained (env : PollEnv) (slot : SocketPollSlot) : Prop :=
  slot.sndbufSupported = true ∧ slot.unacked > 0 ∧
    (sndbufAvail env > slot.sndbufLast ∨ sndbufAvail env = slot.sndbufCapacity)

/-- Bytes noted as sent were drained, in either way of acknowledging them. -/
def BytesDrained (env : PollEnv) (slot : SocketPollSlot) : Prop :=
  SndbufDrained env slot ∨ slot.synthAckPending > 0

instance (env : PollEnv) : Decidable env.SoErrorSet :=
  inferInstanceAs (Decidable (_ ∧ _))

instance (env : PollEnv) (slot : SocketPollSlot) : Decidable (ConnectMade env slot) :=
  inferInstanceAs (Decidable (_ ∧ _))

instance (env : PollEnv) : Decidable env.DataBuffered :=
  inferInstanceAs (Decidable (_ ∧ _))

instance (env : PollEnv) (slot : SocketPollSlot) : Decidable (SndbufDrained env slot) :=
  inferInstanceAs (Decidable (_ ∧ _))

instance (env : PollEnv) (slot : SocketPollSlot) : Decidable (BytesDrained env slot) :=
  inferInstanceAs (Decidable (_ ∨ _))

/-! ## A socket over the passes -/

/-- The slot, and whether an error was emitted for its socket. -/
structure ExceptState where
  slot : SocketPollSlot
  errorEmitted : Bool

/-- What happens to the slot after its connect was started. -/
inductive ExceptOp
  | pass (selectRet : Int) (env : PollEnv)
  | noteSent (env : PollEnv) (len : Int)
  | markConnecting

/-- A new socket whose connect was just started. -/
def ExceptState.start (env : PollEnv) (fd : Int) : ExceptState where
  slot := sdkWalnutSocketPollMarkConnecting fd (sdkWalnutSocketWithCallback env fd)
  errorEmitted := false

/-- The slot under TCPMON and the client; the answers are the events. -/
def exceptMachine : Machine ExceptState ExceptOp (List (NetconnEvent × Nat)) where
  step s
    | .pass selectRet env =>
      let r := socketPollLoop selectRet env s.slot
      (r.1, ⟨r.2, s.errorEmitted || emits NetconnEvent.isError r.1⟩)
    | .noteSent env len =>
      ([], { s with slot := sdkWalnutSocketPollNoteSent env s.slot.fd len s.slot })
    | .markConnecting =>
      ([], { s with slot := sdkWalnutSocketPollMarkConnecting s.slot.fd s.slot })

namespace ExceptState

/-- On a serviced pass no event is hidden: a nonzero `SO_ERROR` under the except
flag has an error emitted by then, and what else the pass finds has its event. -/
def Unhidden (s : ExceptState) (op : ExceptOp) : Prop :=
  match op with
  | .pass selectRet env =>
    let events := (exceptMachine.step s op).1
    0 < selectRet →
      (env.excepted = true → env.SoErrorSet →
        s.errorEmitted = true ∨ emits NetconnEvent.isError events = true) ∧
      (ConnectMade env s.slot → emits (· = .connected) events = true) ∧
      (env.DataBuffered → emits (· = .rcvplus) events = true) ∧
      (BytesDrained env s.slot → emits (· = .sendacked) events = true)
  | _ => True

/-- The except flag comes when the pass would find nothing else and, with a nonzero
`SO_ERROR`, before the latch is set or after an error. A connect is pending when the pass
would find no data and no drained bytes, and an errno only while the peer is not known. -/
def Clear (s : ExceptState) : ExceptOp → Prop
  | .pass selectRet env =>
    0 < selectRet →
      (env.excepted = true →
        (env.SoErrorSet → s.slot.errEmitted = true → s.errorEmitted = true) ∧
        ¬ ConnectMade env s.slot ∧ ¬ env.DataBuffered ∧ ¬ SndbufDrained env s.slot) ∧
      (env.excepted = false → s.slot.connectPending = true →
        (ConnectMade env s.slot → ¬ env.SoErrorSet) ∧
        ¬ env.DataBuffered ∧ ¬ SndbufDrained env s.slot)
  | _ => True

instance (s : ExceptState) : (op : ExceptOp) → Decidable (s.Unhidden op)
  | .pass .. => inferInstanceAs (Decidable (_ → _))
  | .noteSent .. => inferInstanceAs (Decidable True)
  | .markConnecting => inferInstanceAs (Decidable True)

instance (s : ExceptState) : (op : ExceptOp) → Decidable (s.Clear op)
  | .pass .. => inferInstanceAs (Decidable (_ → _))
  | .noteSent .. => inferInstanceAs (Decidable True)
  | .markConnecting => inferInstanceAs (Decidable True)

/-- The slot stays in use, and acknowledges in one way only. -/
structure Served (s : ExceptState) : Prop where
  fd_nonneg : 0 ≤ s.slot.fd
  one_way : s.slot.sndbufSupported = true → s.slot.synthAckPending ≤ 0

end ExceptState

/-! ## The sections of a pass -/

section Emits

variable {p : NetconnEvent → Bool}

@[simp] theorem emits_nil : emits p [] = false := rfl

@[simp] theorem emits_cons (e : NetconnEvent × Nat) (es : List (NetconnEvent × Nat)) :
    emits p (e :: es) = (p e.1 || emits p es) := rfl

@[simp] theorem emits_append (xs ys : List (NetconnEvent × Nat)) :
    emits p (xs ++ ys) = (emits p xs || emits p ys) := List.any_append

@[simp] theorem isError_errnoToErrorEvent (err : Int) :
    (errnoToErrorEvent err).isError = true := by
  unfold errnoToErrorEvent
  split_ifs <;> rfl

@[simp] theorem isError_sendacked : NetconnEvent.sendacked.isError = false := rfl

/-- An errno is mapped to none of the events that are no errors. -/
theorem errnoToErrorEvent_ne_connected_rcvplus_sendacked (err : Int) :
    errnoToErrorEvent err ≠ .connected ∧ errnoToErrorEvent err ≠ .rcvplus ∧
      errnoToErrorEvent err ≠ .sendacked := by
  have h := isError_errnoToErrorEvent err
  refine ⟨?_, ?_, ?_⟩ <;>
    · intro he
      rw [he] at h
      contradiction

end Emits

section Service

variable {env : PollEnv} {slot : SocketPollSlot}

/-- Under the except flag an errno is reported, once. -/
theorem socketPollServiceSlot_excepted (hfd : 0 ≤ slot.fd) (h : env.excepted = true) :
    (socketPollServiceSlot env slot).1 =
      if slot.errEmitted = false ∧ env.SoErrorSet then [(errnoToErrorEvent env.soError, 0)]
      else [] := by
  rw [socketPollServiceSlot, if_neg (by omega), if_pos h]
  unfold PollEnv.SoErrorSet
  cases slot.errEmitted with
  | true => simp
  | false =>
    by_cases herror : env.soErrorRet = 0 ∧ env.soError ≠ 0
    · simp [herror]
    · simp only [Bool.false_eq_true, if_false, if_neg herror, true_and]

/-- A connect in flight ends in an error or in `CONNECTED`. -/
theorem socketPollServiceSlot_pending (hfd : 0 ≤ slot.fd) (h : env.excepted = false)
    (hpending : slot.connectPending = true) :
    (socketPollServiceSlot env slot).1 =
      if env.writable = true ∧ env.SoErrorSet then [(errnoToErrorEvent env.soError, 0)]
      else if ConnectMade env slot then [(.connected, 0)]
      else [] := by
  rw [socketPollServiceSlot, if_neg (by omega), if_neg (by simp [h]), if_pos hpending,
    SocketPollSlot.serviceConnect]
  unfold PollEnv.SoErrorSet ConnectMade
  by_cases hw : env.writable = true
  · by_cases herror : env.soErrorRet = 0 ∧ env.soError ≠ 0
    · simp [hw, herror]
    · simp only [hw, hpending, true_and, not_true_eq_false, if_false, if_neg herror]
      split_ifs <;> first | rfl | contradiction
  · simp [hw]

variable (env slot)

/-- `RCVPLUS` is for buffered data. -/
theorem emits_serviceReadable (p : NetconnEvent → Bool) :
    emits p (slot.serviceReadable env).1 = (decide env.DataBuffered && p .rcvplus) := by
  unfold SocketPollSlot.serviceReadable PollEnv.DataBuffered
  by_cases hr : env.readable = true
  · by_cases hdata : env.fionreadRet = 0 ∧ env.fionreadAvail > 0
    · simp [hr, hdata]
    · simp only [hr, not_true_eq_false, if_false, if_neg hdata, true_and]
      simp [hdata]
  · simp [hr]

/-- `SENDACKED` is for drained bytes. -/
theorem emits_serviceAcked (p : NetconnEvent → Bool) :
    emits p (slot.serviceAcked env).1 = (decide (SndbufDrained env slot) && p .sendacked) := by
  unfold SocketPollSlot.serviceAcked
  by_cases hsent : slot.sndbufSupported = true ∧ slot.unacked > 0
  · rw [if_neg (not_not.mpr hsent)]
    by_cases hgrown : sndbufAvail env > slot.sndbufLast
    · have hdrained : SndbufDrained env slot := ⟨hsent.1, hsent.2, Or.inl hgrown⟩
      simp [hgrown, hdrained]
    · by_cases hfull : sndbufAvail env = slot.sndbufCapacity
      · have hdrained : SndbufDrained env slot := ⟨hsent.1, hsent.2, Or.inr hfull⟩
        simp only [if_neg hgrown, if_pos hfull]
        simp [hdrained]
      · have hdrained : ¬ SndbufDrained env slot := fun h => h.2.2.elim hgrown hfull
        simp only [if_neg hgrown, if_neg hfull]
        simp [hdrained]
  · have hdrained : ¬ SndbufDrained env slot := fun h => hsent ⟨h.1, h.2.1⟩
    rw [if_pos hsent, decide_eq_false hdrained]
    rfl

/-- The section about writability edges emits nothing else. -/
theorem emits_serviceWritable {p : NetconnEvent → Bool} (hplus : p .sendplus = false)
    (hminus : p .sendminus = false) : emits p (slot.serviceWritable env).1 = false := by
  unfold SocketPollSlot.serviceWritable
  split
  · rfl
  · cases env.writable with
    | true => simp [hplus]
    | false => simp [hminus]

variable {env slot}

/-- The `SENDACKED` section sees the slot as it was before the pass. -/
theorem sndbufDrained_serviceReadable :
    SndbufDrained env (slot.serviceReadable env).2 ↔ SndbufDrained env slot := by
  unfold SocketPollSlot.serviceReadable
  split_ifs <;> rfl

/-- Neither the except flag nor a connect ends the pass: data and drained bytes are
what it reports. -/
theorem emits_socketPollServiceSlot (hfd : 0 ≤ slot.fd) (h : env.excepted = false)
    (hpending : slot.connectPending = false) :
    emits (· = .rcvplus) (socketPollServiceSlot env slot).1 = decide env.DataBuffered ∧
      emits (· = .sendacked) (socketPollServiceSlot env slot).1 =
        decide (SndbufDrained env slot) := by
  rw [socketPollServiceSlot, if_neg (by omega), if_neg (by simp [h]), if_neg (by simp [hpending])]
  dsimp only
  simp only [emits_append]
  constructor
  · rw [emits_serviceReadable, emits_serviceAcked, emits_serviceWritable _ _ rfl rfl]
    simp
  · rw [emits_serviceReadable, emits_serviceAcked, emits_serviceWritable _ _ rfl rfl]
    simp [sndbufDrained_serviceReadable]

/-- What the deferred acknowledgement changes in the slot. -/
theorem socketPollDeliverSynth_eq (slot : SocketPollSlot) :
    ∃ n, n ≤ max slot.synthAckPending 0 ∧
      (socketPollDeliverSynth slot).2 = { slot with synthAckPending := n } := by
  unfold socketPollDeliverSynth
  split
  · exact ⟨0, le_max_right _ _, rfl⟩
  · exact ⟨slot.synthAckPending, le_max_left _ _, rfl⟩

/-- The deferred acknowledgement is the first event of a pass. -/
theorem emits_socketPollDeliverSynth (hfd : 0 ≤ slot.fd) (p : NetconnEvent → Bool) :
    emits p (socketPollDeliverSynth slot).1 =
      (decide (slot.synthAckPending > 0) && p .sendacked) := by
  unfold socketPollDeliverSynth
  by_cases hsynth : slot.synthAckPending > 0
  · simp [hfd, hsynth]
  · simp [hsynth]

/-- Servicing a slot defers no acknowledgement. -/
theorem socketPollServiceSlot_synthAckPending (env : PollEnv) (slot : SocketPollSlot) :
    (socketPollServiceSlot env slot).2.synthAckPending = slot.synthAckPending := by
  have hread (slot : SocketPollSlot) :
      (slot.serviceReadable env).2.synthAckPending = slot.synthAckPending := by
    unfold SocketPollSlot.serviceReadable
    split_ifs <;> rfl
  have hacked (slot : SocketPollSlot) :
      (slot.serviceAcked env).2.synthAckPending = slot.synthAckPending := by
    unfold SocketPollSlot.serviceAcked
    dsimp only
    split_ifs <;> rfl
  have hwrite (slot : SocketPollSlot) :
      (slot.serviceWritable env).2.synthAckPending = slot.synthAckPending := by
    unfold SocketPollSlot.serviceWritable
    split_ifs <;> rfl
  have hconnect : (slot.serviceConnect env).2.synthAckPending = slot.synthAckPending := by
    unfold SocketPollSlot.serviceConnect
    split_ifs <;> rfl
  unfold socketPollServiceSlot
  split_ifs
  · rfl
  · rfl
  · rfl
  · rfl
  · exact hconnect
  · exact (hwrite _).trans ((hacked _).trans (hread slot))

/-- Two slots that the service of a pass finds alike. -/
structure AlikeFor (env : PollEnv) (slot slot' : SocketPollSlot) : Prop where
  fd : slot'.fd = slot.fd
  errEmitted : slot'.errEmitted = slot.errEmitted
  connectPending : slot'.connectPending = slot.connectPending
  made : ConnectMade env slot' ↔ ConnectMade env slot
  drained : SndbufDrained env slot' ↔ SndbufDrained env slot

/-- A serviced pass delivers the deferred acknowledgement and then services the slot. -/
theorem emits_socketPollLoop (env : PollEnv) (hfd : 0 ≤ slot.fd) {selectRet : Int}
    (hret : 0 < selectRet) :
    ∃ slot', AlikeFor env slot slot' ∧
      ∀ p, emits p (socketPollLoop selectRet env slot).1 =
        ((decide (slot.synthAckPending > 0) && p .sendacked) ||
          emits p (socketPollServiceSlot env slot').1) := by
  obtain ⟨n, -, hslot⟩ := socketPollDeliverSynth_eq slot
  refine ⟨{ slot with synthAckPending := n }, ⟨rfl, rfl, rfl, Iff.rfl, Iff.rfl⟩, fun p => ?_⟩
  rw [socketPollLoop]
  dsimp only
  rw [if_neg (by omega), emits_append, emits_socketPollDeliverSynth hfd, hslot]

end Service

/-! ## Runs -/

namespace ExceptState

variable {s : ExceptState}

theorem served_start (env : PollEnv) {fd : Int} (hfd : 0 ≤ fd) : (start env fd).Served := by
  have hslot : (start env fd).slot =
      { sdkWalnutSocketWithCallback env fd with
        finEmitted := false, errEmitted := false, connectPending := true } := by
    rw [start, sdkWalnutSocketPollMarkConnecting, if_neg]
    simp [sdkWalnutSocketWithCallback, hfd]
  constructor
  · rw [hslot]
    exact hfd
  · rw [hslot]
    intro _
    exact le_refl 0

/-- A turn of the loop leaves the socket and its way of acknowledging alone. -/
theorem Served.loop (h : s.Served) (selectRet : Int) (env : PollEnv) (errorEmitted : Bool) :
    (ExceptState.mk (socketPollLoop selectRet env s.slot).2 errorEmitted).Served := by
  obtain ⟨n, hn, hslot⟩ := socketPollDeliverSynth_eq s.slot
  have hway : s.slot.sndbufSupported = true → n ≤ 0 := by
    intro hsupported
    have := h.one_way hsupported
    omega
  unfold socketPollLoop
  dsimp only
  rw [hslot]
  split
  · rw [hslot]
    exact ⟨h.fd_nonneg, hway⟩
  · obtain ⟨hkept, -⟩ :=
      SocketPollSlot.socketPollServiceSlot_acks env { s.slot with synthAckPending := n }
    constructor
    · rw [hkept.fd]
      exact h.fd_nonneg
    · rw [hkept.supported, socketPollServiceSlot_synthAckPending]
      exact hway

theorem Served.step (h : s.Served) (op : ExceptOp) : (exceptMachine.step s op).2.Served := by
  cases op with
  | pass selectRet env => exact h.loop selectRet env _
  | noteSent env len =>
    simp only [exceptMachine, sdkWalnutSocketPollNoteSent]
    split
    · exact h
    · split
      · exact ⟨h.fd_nonneg, h.one_way⟩
      · rename_i hsupported
        exact ⟨h.fd_nonneg, fun hs => absurd hs hsupported⟩
  | markConnecting =>
    simp only [exceptMachine, sdkWalnutSocketPollMarkConnecting]
    split
    · exact h
    · exact ⟨h.fd_nonneg, h.one_way⟩

/-- Drained bytes have their event exactly when it is the deferred one or the send
buffer shows nothing. -/
theorem Served.drained_imp (h : s.Served) (env : PollEnv) :
    (BytesDrained env s.slot → s.slot.synthAckPending > 0) ↔ ¬ SndbufDrained env s.slot := by
  constructor
  · intro hsynth hdrained
    have hpos := hsynth (Or.inl hdrained)
    have hway := h.one_way hdrained.1
    omega
  · rintro hnot (hdrained | hpos)
    · exact absurd hdrained hnot
    · exact hpos

variable {selectRet : Int} {env : PollEnv}

/-- A pass with the except flag hides nothing exactly when there is nothing to hide. -/
theorem Served.unhidden_excepted (h : s.Served) (hret : 0 < selectRet)
    (hexcepted : env.excepted = true) :
    s.Unhidden (.pass selectRet env) ↔ s.Clear (.pass selectRet env) := by
  obtain ⟨slot', halike, hevents⟩ := emits_socketPollLoop env h.fd_nonneg hret
  have hfd : 0 ≤ slot'.fd := h.fd_nonneg.trans_eq halike.fd.symm
  have hservice := socketPollServiceSlot_excepted hfd hexcepted
  rw [halike.errEmitted] at hservice
  simp only [Unhidden, Clear, exceptMachine, hevents, hservice, hret, hexcepted, forall_true_left,
    Bool.true_eq_false, false_imp_iff, and_true, ← h.drained_imp env]
  have herrno := errnoToErrorEvent_ne_connected_rcvplus_sendacked env.soError
  by_cases herror : env.SoErrorSet
  · cases herrEmitted : s.slot.errEmitted with
    | false => simp [herror, herrno]
    | true => simp
  · simp [herror]

/-- While a connect is pending, a pass without the flag reports the connect alone. -/
theorem Served.unhidden_pending (h : s.Served) (hret : 0 < selectRet)
    (hexcepted : env.excepted = false) (hpending : s.slot.connectPending = true) :
    s.Unhidden (.pass selectRet env) ↔ s.Clear (.pass selectRet env) := by
  obtain ⟨slot', halike, hevents⟩ := emits_socketPollLoop env h.fd_nonneg hret
  have hfd : 0 ≤ slot'.fd := h.fd_nonneg.trans_eq halike.fd.symm
  have hservice := socketPollServiceSlot_pending hfd hexcepted
    (halike.connectPending.trans hpending)
  simp only [Unhidden, Clear, exceptMachine, hevents, hservice, hret, hexcepted, hpending,
    forall_true_left, Bool.false_eq_true, false_imp_iff, true_and, halike.made, ← h.drained_imp env]
  have herrno := errnoToErrorEvent_ne_connected_rcvplus_sendacked env.soError
  by_cases hfailed : env.writable = true ∧ env.SoErrorSet
  · simp [hfailed, herrno]
  · have hnot : ConnectMade env s.slot → ¬ env.SoErrorSet := fun hm he => hfailed ⟨hm.2.1, he⟩
    by_cases hm : ConnectMade env s.slot
    · simp [hm, hnot hm]
    · simp [hm, hfailed]

/-- Otherwise a pass without the flag reports all there is. -/
theorem Served.unhidden_settled (h : s.Served) (hret : 0 < selectRet)
    (hexcepted : env.excepted = false) (hpending : s.slot.connectPending = false) :
    s.Unhidden (.pass selectRet env) ↔ s.Clear (.pass selectRet env) := by
  obtain ⟨slot', halike, hevents⟩ := emits_socketPollLoop env h.fd_nonneg hret
  have hfd : 0 ≤ slot'.fd := h.fd_nonneg.trans_eq halike.fd.symm
  obtain ⟨hdata, hdrained⟩ := emits_socketPollServiceSlot hfd hexcepted
    (halike.connectPending.trans hpending)
  simp only [Unhidden, Clear, exceptMachine, hevents, hdata, hdrained, hexcepted, hpending,
    ConnectMade, halike.drained, BytesDrained]
  simp [or_comm]

theorem Served.unhidden_iff (h : s.Served) (op : ExceptOp) : s.Unhidden op ↔ s.Clear op := by
  cases op with
  | pass selectRet env =>
    by_cases hret : 0 < selectRet
    · cases hexcepted : env.excepted with
      | true => exact h.unhidden_excepted hret hexcepted
      | false =>
        cases hpending : s.slot.connectPending with
        | true => exact h.unhidden_pending hret hexcepted hpending
        | false => exact h.unhidden_settled hret hexcepted hpending
    · exact iff_of_true (fun hpos => absurd hpos hret) (fun hpos => absurd hpos hret)
  | noteSent => exact Iff.rfl
  | markConnecting => exact Iff.rfl

end ExceptState

/-- No pass of a run hides an event exactly when the except flag never comes in the way
of one, and a pending connect of none but its own. -/
theorem unhidden_run_iff (env : PollEnv) {fd : Int} (hfd : 0 ≤ fd) (ops : List ExceptOp) :
    exceptMachine.Along ExceptState.Unhidden (.start env fd) ops ↔
      exceptMachine.Along ExceptState.Clear (.start env fd) ops :=
  Machine.along_congr exceptMachine (I := ExceptState.Served) (fun _ op h _ => h.step op)
    (fun _ op h => h.unhidden_iff op) (ExceptState.served_start env hfd)

/-- The answers of the kernel about a healthy socket with a free buffer of 5840 bytes. -/
def freePoll : PollEnv := ⟨false, true, false, 0, 0, 0, 0, 0, 0, 5840⟩

/-- The connection comes up, a row is sent and acknowledged, data comes in, the peer
resets. -/
def plainPasses : List ExceptOp :=
  [.pass 1 freePoll, .noteSent { freePoll with sndbufValue := 5328 } 512, .pass 1 freePoll,
    .pass 1 { freePoll with readable := true, fionreadAvail := 20 },
    .pass 1 { freePoll with excepted := true, soError := 104 }]

theorem unhidden_run_iff_plain :
    exceptMachine.Along ExceptState.Unhidden (.start freePoll 3) plainPasses :=
  (unhidden_run_iff freePoll (by decide) plainPasses).mpr (by decide)

/-- The flag without an error on the pass that finds the connection made, and again
with the reset of the peer: neither is reported. -/
theorem except_flag_hides :
    ¬ ∀ (env : PollEnv) (fd : Int) (_ : 0 ≤ fd) (ops : List ExceptOp),
      exceptMachine.Along ExceptState.Unhidden (.start env fd) ops := by
  intro h
  have hrun := h freePoll 3 (by decide)
    [.pass 1 { freePoll with excepted := true }, .pass 1 freePoll,
      .pass 1 { freePoll with excepted := true, soError := 104 }]
  revert hrun
  decide

end WalnutGateway
