import WalnutGateway.Tcp.ConnectEvent
import WalnutGateway.Tcp.ExceptFlag

/-!
# The window of a send

`tcp_send_data` hands bytes to the socket, whose layer notes them as sent. Only then
does the client write down the send it waits for, and clear the count of acknowledged
bytes. TCPMON may make a pass between any two of these steps, and what it reports in
the meantime is not counted.
-/

namespace WalnutGateway

/-! ## The steps of a send -/

/-- How far `tcp_send_data` has come with the bytes that were accepted. -/
inductive SendPhase
  | begin
  | accepted (n : Nat)
  | noted (n : Nat)
  | counted (n : Nat)
  | returned (n : Nat)
  deriving DecidableEq

/-- Bytes are noted as sent and the count of acknowledged bytes is still to be cleared. -/
def SendPhase.inWindow : SendPhase → Bool
  | .noted _ | .counted _ => true
  | _ => false

/-- The events that close the connection. -/
def NetconnEvent.closes (evt : NetconnEvent) : Bool :=
  evt.isError || evt = .closeWait || evt = .closeNormal

/-- The client in a send, the slot of its socket, and what TCPMON has emitted since the
send began. -/
structure SendState where
  sys : TcpSystem
  slot : SocketPollSlot
  phase : SendPhase
  /-- Lengths of the `SENDACKED` events. -/
  emitted : Nat
  /-- Those among them that came in the window. -/
  missed : Nat
  /-- A close or an error was emitted. -/
  broken : Bool

/-- A step of `tcp_send_data`, whose first accepts `n` bytes, or a turn of TCPMON. -/
inductive SendOp
  | task (n : Nat) (env : PollEnv)
  | pass (selectRet : Int) (env : PollEnv)

namespace SendState

/-- `lwip_send` and `note_sent` inside `sdk_tcp_send`, then the writes of
`tcp_bytes_sent` and `tcp_bytes_acked`. -/
def task (n : Nat) (env : PollEnv) (s : SendState) : SendState :=
  match s.phase with
  | .begin => if n = 0 then s else { s with phase := .accepted n }
  | .accepted n =>
    { s with
      slot := sdkWalnutSocketPollNoteSent env s.sys.client.tcpFd n s.slot, phase := .noted n }
  | .noted n =>
    { s with
      sys := { s.sys with client := { s.sys.client with tcpBytesSent := n } }
      phase := .counted n }
  | .counted n =>
    { s with
      sys := { s.sys with client := { s.sys.client with tcpBytesAcked := 0 } }
      phase := .returned n }
  | .returned _ => s

/-- A turn of `socket_poll_loop` with its callbacks. -/
def pass (selectRet : Int) (env : PollEnv) (s : SendState) : SendState :=
  let r := socketPollLoop selectRet env s.slot
  { s with
    sys := deliver s.slot.fd r.1 s.sys
    slot := r.2
    emitted := s.emitted + ackedLength r.1
    missed := if s.phase.inWindow then s.missed + ackedLength r.1 else s.missed
    broken := s.broken || emits NetconnEvent.closes r.1 }

/-- A send begins: nothing is in flight on the open socket, in the client or in the slot. -/
structure Ready (s : SendState) : Prop where
  fd_nonneg : 0 ≤ s.slot.fd
  same_fd : s.slot.fd = s.sys.client.tcpFd
  state : s.sys.client.state = .sendingLogin ∨ s.sys.client.state = .sendingData
  unsent : s.sys.client.tcpBytesSent ≤ 0
  unacked : s.slot.unacked = 0
  synth : s.slot.synthAckPending = 0
  phase : s.phase = .begin
  emitted : s.emitted = 0
  missed : s.missed = 0
  broken : s.broken = false

end SendState

/-- The two tasks in any order. -/
def sendMachine : Machine SendState SendOp Unit where
  step s op := ((),
    match op with
    | .task n env => s.task n env
    | .pass selectRet env => s.pass selectRet env)

/-- A turn of TCPMON has bytes to report. -/
def Acknowledges (selectRet : Int) (env : PollEnv) (slot : SocketPollSlot) : Prop :=
  slot.synthAckPending > 0 ∨
    (0 < selectRet ∧ env.excepted = false ∧ slot.connectPending = false ∧ SndbufDrained env slot)

instance (selectRet : Int) (env : PollEnv) (slot : SocketPollSlot) :
    Decidable (Acknowledges selectRet env slot) :=
  inferInstanceAs (Decidable (_ ∨ _))

/-- No turn of TCPMON that has bytes to report comes in the window. -/
def SendState.OutsideWindow (s : SendState) : SendOp → Prop
  | .task .. => True
  | .pass selectRet env => Acknowledges selectRet env s.slot → s.phase.inWindow = false

instance (s : SendState) : (op : SendOp) → Decidable (s.OutsideWindow op)
  | .task .. => inferInstanceAs (Decidable True)
  | .pass .. => inferInstanceAs (Decidable (_ → _))

/-- Without a pass in between, the steps are `tcp_send_data`. -/
theorem run_tasks (s : SendState) {n : Nat} (hn : 0 < n) (hphase : s.phase = .begin)
    (hfd : 0 ≤ s.sys.client.tcpFd) {tcp : TcpEnv} (hsend : tcp.lwipSend = n) {buffer : List Byte}
    (hbuffer : buffer.length ≠ 0) (env : PollEnv) :
    (sendMachine.run s (List.replicate 4 (.task n env))).2 =
      { s with
        sys := (tcpSendData tcp s.sys buffer).2
        slot := sdkWalnutSocketPollNoteSent env s.sys.client.tcpFd n s.slot
        phase := .returned n } := by
  have hsdk : sdkTcpSend tcp = n := by
    rw [sdkTcpSend, if_neg (by omega), hsend]
  have hdata : (tcpSendData tcp s.sys buffer).2 =
      { s.sys with client := { s.sys.client with tcpBytesSent := n, tcpBytesAcked := 0 } } := by
    rw [tcpSendData, if_neg (by omega)]
    dsimp only
    rw [hsdk, if_neg (by omega), if_neg (by omega)]
  rw [hdata]
  simp only [List.replicate, Machine.run, sendMachine, SendState.task, hphase,
    if_neg (Nat.pos_iff_ne_zero.mp hn)]

/-! ## What TCPMON reports -/

theorem eventLength_le {n : Int} (h : 0 ≤ n) : (eventLength n : Int) ≤ n := by
  unfold eventLength
  split <;> omega

theorem eventLength_pos {n : Int} (h : 0 < n) : 0 < eventLength n := by
  unfold eventLength
  split <;> omega

/-- What a section that acknowledges nothing leaves to the others. -/
theorem ackedLength_eq_zero {events : List (NetconnEvent × Nat)}
    (h : emits (· = .sendacked) events = false) : ackedLength events = 0 := by
  induction events with
  | nil => rfl
  | cons e events ih =>
    rw [emits_cons, Bool.or_eq_false_iff] at h
    have he : e.1 ≠ .sendacked := by simpa using h.1
    have hcons := SocketPollSlot.ackedLength_append [e] events
    rw [List.singleton_append] at hcons
    rw [hcons, ih h.2, SocketPollSlot.ackedLength_singleton_of_ne he]

section Reported

variable {env : PollEnv} {slot : SocketPollSlot}

/-- Drained bytes are reported with a positive length. -/
theorem ackedLength_serviceAcked_pos (h : SndbufDrained env slot) :
    0 < ackedLength (slot.serviceAcked env).1 := by
  obtain ⟨hsupported, hunacked, hdrained⟩ := h
  unfold SocketPollSlot.serviceAcked
  rw [if_neg (not_not.mpr ⟨hsupported, hunacked⟩)]
  dsimp only
  by_cases hgrown : sndbufAvail env > slot.sndbufLast
  · rw [if_pos hgrown, SocketPollSlot.ackedLength_sendacked]
    apply eventLength_pos
    split <;> omega
  · rw [if_neg hgrown, if_pos (hdrained.resolve_left hgrown),
      SocketPollSlot.ackedLength_sendacked]
    exact eventLength_pos hunacked

/-- Servicing a slot reports bytes exactly when its send buffer shows some drained. -/
theorem ackedLength_socketPollServiceSlot_pos (hfd : 0 ≤ slot.fd) :
    0 < ackedLength (socketPollServiceSlot env slot).1 ↔
      env.excepted = false ∧ slot.connectPending = false ∧ SndbufDrained env slot := by
  have herrno := errnoToErrorEvent_ne_connected_rcvplus_sendacked env.soError
  constructor
  · intro hpos
    have hemits : emits (· = .sendacked) (socketPollServiceSlot env slot).1 = true := by
      by_contra hnot
      rw [ackedLength_eq_zero (by simpa using hnot)] at hpos
      contradiction
    cases hexcepted : env.excepted with
    | true =>
      rw [socketPollServiceSlot_excepted hfd hexcepted] at hemits
      split at hemits <;> simp [herrno] at hemits
    | false =>
      cases hpending : slot.connectPending with
      | true =>
        rw [socketPollServiceSlot_pending hfd hexcepted hpending] at hemits
        split at hemits
        · simp [herrno] at hemits
        · split at hemits <;> simp at hemits
      | false =>
        rw [(emits_socketPollServiceSlot hfd hexcepted hpending).2, decide_eq_true_eq] at hemits
        exact ⟨rfl, rfl, hemits⟩
  · rintro ⟨hexcepted, hpending, hdrained⟩
    have hpos := ackedLength_serviceAcked_pos (sndbufDrained_serviceReadable.mpr hdrained)
    rw [socketPollServiceSlot, if_neg (by omega), if_neg (by simp [hexcepted]),
      if_neg (by simp [hpending])]
    dsimp only
    rw [SocketPollSlot.ackedLength_append, SocketPollSlot.ackedLength_append]
    omega

/-- A turn of TCPMON reports bytes exactly when it has some to report. -/
theorem ackedLength_socketPollLoop_pos (env : PollEnv) (hfd : 0 ≤ slot.fd) (selectRet : Int) :
    0 < ackedLength (socketPollLoop selectRet env slot).1 ↔ Acknowledges selectRet env slot := by
  unfold socketPollLoop Acknowledges
  have hsynth : 0 < ackedLength (socketPollDeliverSynth slot).1 ↔ slot.synthAckPending > 0 := by
    unfold socketPollDeliverSynth
    by_cases hpos : slot.synthAckPending > 0
    · rw [if_pos ⟨hfd, hpos⟩, SocketPollSlot.ackedLength_sendacked]
      exact iff_of_true (eventLength_pos hpos) hpos
    · rw [if_neg (fun h => hpos h.2)]
      exact iff_of_false (lt_irrefl 0) hpos
  obtain ⟨n, -, hslot⟩ := socketPollDeliverSynth_eq slot
  dsimp only
  by_cases hret : selectRet ≤ 0
  · rw [if_pos hret, hsynth]
    constructor
    · exact Or.inl
    · rintro (hpos | ⟨hpos, -⟩)
      · exact hpos
      · omega
  · have hservice :
        0 < ackedLength (socketPollServiceSlot env { slot with synthAckPending := n }).1 ↔
          env.excepted = false ∧ slot.connectPending = false ∧ SndbufDrained env slot :=
      ackedLength_socketPollServiceSlot_pos hfd
    have hpos : 0 < selectRet := by omega
    rw [if_neg hret, SocketPollSlot.ackedLength_append, Nat.add_pos_iff_pos_or_pos, hsynth, hslot,
      hservice]
    simp only [hpos, true_and]

/-- What is reported, the slot no longer holds as sent. -/
theorem socketPollLoop_pool (env : PollEnv) (hunacked : 0 ≤ slot.unacked)
    (hsynth : 0 ≤ slot.synthAckPending) (selectRet : Int) :
    0 ≤ (socketPollLoop selectRet env slot).2.unacked ∧
      0 ≤ (socketPollLoop selectRet env slot).2.synthAckPending ∧
      (ackedLength (socketPollLoop selectRet env slot).1 : Int) +
        (socketPollLoop selectRet env slot).2.unacked +
        (socketPollLoop selectRet env slot).2.synthAckPending ≤
        slot.unacked + slot.synthAckPending := by
  have hdeliver : (socketPollDeliverSynth slot).2.unacked = slot.unacked ∧
      0 ≤ (socketPollDeliverSynth slot).2.synthAckPending ∧
      (ackedLength (socketPollDeliverSynth slot).1 : Int) +
        (socketPollDeliverSynth slot).2.synthAckPending ≤ slot.synthAckPending := by
    unfold socketPollDeliverSynth
    split
    · rw [SocketPollSlot.ackedLength_sendacked]
      have hle := eventLength_le hsynth
      exact ⟨rfl, le_refl _, by simpa using hle⟩
    · exact ⟨rfl, hsynth, by simp⟩
  unfold socketPollLoop
  dsimp only
  generalize socketPollDeliverSynth slot = d at hdeliver
  split
  · omega
  · have hacks := (SocketPollSlot.socketPollServiceSlot_acks env d.2).2
    have hkeeps := socketPollServiceSlot_synthAckPending env d.2
    dsimp only
    rw [SocketPollSlot.ackedLength_append, hkeeps]
    generalize (socketPollServiceSlot env d.2).2 = slot' at hacks ⊢
    generalize ackedLength (socketPollServiceSlot env d.2).1 = len at hacks
    push_cast
    cases hacks with
    | quiet last unacked => omega
    | drain pos grown last unacked =>
      have hle : (eventLength (min d.2.unacked (sndbufAvail env - d.2.sndbufLast)) : Int) ≤
          min d.2.unacked (sndbufAvail env - d.2.sndbufLast) := eventLength_le (by omega)
      omega
    | topUp pos still full last unacked =>
      have hle := eventLength_le pos.le
      omega

end Reported

/-- Bytes noted as sent are held by the slot, in one way or the other. -/
theorem noteSent_pool (env : PollEnv) {slot : SocketPollSlot} {fd : Int} {n : Nat}
    (hfd : 0 ≤ slot.fd) (hsame : fd = slot.fd) (hn : 0 < n) (hunacked : 0 ≤ slot.unacked)
    (hsynth : 0 ≤ slot.synthAckPending) :
    let slot' := sdkWalnutSocketPollNoteSent env fd n slot
    slot'.fd = slot.fd ∧ 0 ≤ slot'.unacked ∧ 0 ≤ slot'.synthAckPending ∧
      slot'.unacked + slot'.synthAckPending = slot.unacked + slot.synthAckPending + n := by
  unfold sdkWalnutSocketPollNoteSent
  rw [if_neg (by omega)]
  split
  · refine ⟨rfl, ?_, hsynth, ?_⟩ <;>
    · dsimp only
      omega
  · refine ⟨rfl, hunacked, ?_, ?_⟩ <;>
    · dsimp only
      omega

theorem socketPollLoop_fd (selectRet : Int) (env : PollEnv) (slot : SocketPollSlot) :
    (socketPollLoop selectRet env slot).2.fd = slot.fd := by
  obtain ⟨n, -, hslot⟩ := socketPollDeliverSynth_eq slot
  unfold socketPollLoop
  dsimp only
  rw [hslot]
  split
  · rw [hslot]
  · exact (SocketPollSlot.socketPollServiceSlot_acks env { slot with synthAckPending := n }).1.fd

/-! ## What the client counts -/

/-- How events without an error move the client: it stays open, and counts what is
acknowledged while it waits for a send. -/
structure CountedBy (len : Nat) (sys sys' : TcpSystem) : Prop where
  fd : sys'.client.tcpFd = sys.client.tcpFd
  opened : sys'.client.state ≠ .closed
  sent : sys'.client.tcpBytesSent = sys.client.tcpBytesSent
  acked : 0 < sys.client.tcpBytesSent →
    sys'.client.tcpBytesAcked = sys.client.tcpBytesAcked + len

theorem tcpSocketEventCallback_fd (fd : Int) (evt : NetconnEvent) (len : Nat) (sys : TcpSystem) :
    (tcpSocketEventCallback fd evt len sys).client.tcpFd = sys.client.tcpFd := by
  unfold tcpSocketEventCallback
  cases evt <;> dsimp only <;> split_ifs <;> rfl

theorem deliver_fd (fd : Int) (events : List (NetconnEvent × Nat)) (sys : TcpSystem) :
    (deliver fd events sys).client.tcpFd = sys.client.tcpFd := by
  induction events generalizing sys with
  | nil => rfl
  | cons e events ih => exact (ih _).trans (tcpSocketEventCallback_fd fd e.1 e.2 sys)

theorem tcpSocketEventCallback_counted {fd : Int} {evt : NetconnEvent} (len : Nat)
    {sys : TcpSystem} (hfd : fd = sys.client.tcpFd) (hpos : 0 ≤ fd)
    (hopened : sys.client.state ≠ .closed) (hevt : evt.closes = false) :
    CountedBy (if evt = .sendacked then len else 0) sys
      (tcpSocketEventCallback fd evt len sys) := by
  have hcurrent : ¬ (fd ≠ sys.client.tcpFd ∨ sys.client.tcpFd < 0) := by omega
  unfold tcpSocketEventCallback
  rw [if_neg hcurrent, if_neg hopened]
  cases evt <;> dsimp only
  case sendacked =>
    rw [if_pos (rfl : NetconnEvent.sendacked = .sendacked)]
    split
    · split
      · exact ⟨rfl, by simp [TcpSystem.setState], rfl, fun _ => rfl⟩
      · exact ⟨rfl, hopened, rfl, fun _ => rfl⟩
    · rename_i hsent
      exact ⟨rfl, hopened, rfl, fun hs => absurd hs hsent⟩
  case connected =>
    exact ⟨rfl, by simp [TcpSystem.setState], rfl, fun _ => by simp [TcpSystem.setState]⟩
  case rcvplus | rcvminus | sendplus | sendminus | acceptplus =>
    exact ⟨rfl, hopened, rfl, fun _ => by simp⟩
  all_goals contradiction

theorem CountedBy.trans {m n : Nat} {sys sys' sys'' : TcpSystem} (h : CountedBy m sys sys')
    (h' : CountedBy n sys' sys'') : CountedBy (m + n) sys sys'' where
  fd := h'.fd.trans h.fd
  opened := h'.opened
  sent := h'.sent.trans h.sent
  acked hs := by
    rw [h'.acked (by rw [h.sent]; exact hs), h.acked hs]
    push_cast
    omega

/-- A list of events without a close. -/
theorem deliver_counted {fd : Int} {events : List (NetconnEvent × Nat)} {sys : TcpSystem}
    (hfd : fd = sys.client.tcpFd) (hpos : 0 ≤ fd) (hopened : sys.client.state ≠ .closed)
    (hevents : emits NetconnEvent.closes events = false) :
    CountedBy (ackedLength events) sys (deliver fd events sys) := by
  induction events generalizing sys with
  | nil => exact ⟨rfl, hopened, rfl, fun _ => by simp [deliver]⟩
  | cons e events ih =>
    rw [emits_cons, Bool.or_eq_false_iff] at hevents
    have hfirst := tcpSocketEventCallback_counted e.2 hfd hpos hopened hevents.1
    have hrest := ih (hfd.trans hfirst.fd.symm) hfirst.opened hevents.2
    have hlength : ackedLength (e :: events) =
        (if e.1 = .sendacked then e.2 else 0) + ackedLength events := by
      simp [ackedLength]
    rw [hlength]
    exact hfirst.trans hrest

/-! ## The count of a send -/

namespace SendState

/-- What holds between two steps: nothing is reported of bytes that were not noted, and
what is reported after the window is what the client counts. -/
structure Counts (s : SendState) : Prop where
  fd_nonneg : 0 ≤ s.slot.fd
  same_fd : s.slot.fd = s.sys.client.tcpFd
  opened : s.broken = false → s.sys.client.state ≠ .closed
  unacked_nonneg : 0 ≤ s.slot.unacked
  synth_nonneg : 0 ≤ s.slot.synthAckPending
  size_pos : ∀ n, s.phase = .accepted n ∨ s.phase = .noted n ∨ s.phase = .counted n ∨
    s.phase = .returned n → 0 < n
  pool_start : s.phase = .begin ∨ (∃ n, s.phase = .accepted n) →
    (s.emitted : Int) + s.slot.unacked + s.slot.synthAckPending ≤ 0
  pool : ∀ n, s.phase = .noted n ∨ s.phase = .counted n ∨ s.phase = .returned n →
    (s.emitted : Int) + s.slot.unacked + s.slot.synthAckPending ≤ n
  missed : (∀ n, s.phase ≠ .returned n) → s.missed = s.emitted
  sent : s.broken = false → ∀ n, s.phase = .counted n ∨ s.phase = .returned n →
    s.sys.client.tcpBytesSent = n
  acked : s.broken = false → ∀ n, s.phase = .returned n →
    s.sys.client.tcpBytesAcked + s.missed = s.emitted

variable {s : SendState}

theorem Ready.counts (h : s.Ready) : s.Counts where
  fd_nonneg := h.fd_nonneg
  same_fd := h.same_fd
  opened _ := by rcases h.state with hs | hs <;> rw [hs] <;> simp
  unacked_nonneg := h.unacked.ge
  synth_nonneg := h.synth.ge
  size_pos n hn := by simp [h.phase] at hn
  pool_start _ := by simp [h.emitted, h.unacked, h.synth]
  pool n hn := by simp [h.phase] at hn
  missed _ := h.missed.trans h.emitted.symm
  sent _ n hn := by simp [h.phase] at hn
  acked _ n hn := by simp [h.phase] at hn

theorem Counts.task (h : s.Counts) (n : Nat) (env : PollEnv) : (s.task n env).Counts := by
  unfold SendState.task
  cases hphase : s.phase with
  | begin =>
    dsimp only
    split
    · exact h
    · rename_i hn
      have hstart := h.pool_start (Or.inl hphase)
      have hmissed := h.missed (by simp [hphase])
      exact { h with
        size_pos := fun m hm => by
          simp at hm
          omega
        pool_start := fun _ => hstart
        pool := fun m hm => by simp at hm
        missed := fun _ => hmissed
        sent := fun _ m hm => by simp at hm
        acked := fun _ m hm => by simp at hm }
  | accepted m =>
    have hstart := h.pool_start (Or.inr ⟨m, hphase⟩)
    have hpos := h.size_pos m (by simp [hphase])
    have hmissed := h.missed (by simp [hphase])
    obtain ⟨hfd, hunacked, hsynth, hsum⟩ := noteSent_pool env h.fd_nonneg h.same_fd.symm hpos
      h.unacked_nonneg h.synth_nonneg
    exact { h with
      fd_nonneg := by
        change 0 ≤ (sdkWalnutSocketPollNoteSent env s.sys.client.tcpFd m s.slot).fd
        rw [hfd]
        exact h.fd_nonneg
      same_fd := hfd.trans h.same_fd
      unacked_nonneg := hunacked
      synth_nonneg := hsynth
      size_pos := fun k hk => by
        simp at hk
        omega
      pool_start := fun hk => by simp at hk
      pool := fun k hk => by
        simp at hk
        dsimp only
        omega
      missed := fun _ => hmissed
      sent := fun _ k hk => by simp at hk
      acked := fun _ k hk => by simp at hk }
  | noted m =>
    have hpool := h.pool m (by simp [hphase])
    have hpos := h.size_pos m (by simp [hphase])
    have hmissed := h.missed (by simp [hphase])
    exact { h with
      size_pos := fun k hk => by
        simp at hk
        omega
      pool_start := fun hk => by simp at hk
      pool := fun k hk => by
        simp at hk
        rw [← hk]
        exact hpool
      missed := fun _ => hmissed
      sent := fun _ k hk => by
        simp at hk
        simp [hk]
      acked := fun _ k hk => by simp at hk }
  | counted m =>
    have hpool := h.pool m (by simp [hphase])
    have hpos := h.size_pos m (by simp [hphase])
    have hmissed := h.missed (by simp [hphase])
    have hsent (hb : s.broken = false) := h.sent hb m (by simp [hphase])
    exact { h with
      size_pos := fun k hk => by
        simp at hk
        omega
      pool_start := fun hk => by simp at hk
      pool := fun k hk => by
        simp at hk
        rw [← hk]
        exact hpool
      missed := fun hk => absurd rfl (hk m)
      sent := fun hb k hk => by
        simp at hk
        rw [← hk]
        exact hsent hb
      acked := fun _ k hk => by simp [hmissed] }
  | returned m => exact h

/-- A turn of TCPMON without a close, as the client counts it. -/
theorem Counts.counted (h : s.Counts) {selectRet : Int} {env : PollEnv}
    (hb : (s.pass selectRet env).broken = false) : s.broken = false ∧
      CountedBy (ackedLength (socketPollLoop selectRet env s.slot).1) s.sys
        (s.pass selectRet env).sys := by
  obtain ⟨hbefore, hevents⟩ := Bool.or_eq_false_iff.mp hb
  exact ⟨hbefore, deliver_counted h.same_fd h.fd_nonneg (h.opened hbefore) hevents⟩

theorem Counts.pass (h : s.Counts) (selectRet : Int) (env : PollEnv) :
    (s.pass selectRet env).Counts := by
  obtain ⟨hunacked, hsynth, hpool⟩ :=
    socketPollLoop_pool env h.unacked_nonneg h.synth_nonneg selectRet
  have hfd := socketPollLoop_fd selectRet env s.slot
  constructor
  · exact hfd.symm ▸ h.fd_nonneg
  · exact hfd.trans (h.same_fd.trans (deliver_fd _ _ _).symm)
  · intro hb
    exact (h.counted hb).2.opened
  · exact hunacked
  · exact hsynth
  · exact h.size_pos
  · intro hstart
    have := h.pool_start hstart
    simp only [SendState.pass, Nat.cast_add]
    omega
  · intro n hn
    have := h.pool n hn
    simp only [SendState.pass, Nat.cast_add]
    omega
  · intro hn
    have hmissed := h.missed hn
    simp only [SendState.pass]
    cases hphase : s.phase with
    | begin =>
      have := h.pool_start (Or.inl hphase)
      rw [if_neg (by simp [SendPhase.inWindow])]
      omega
    | accepted n =>
      have := h.pool_start (Or.inr ⟨n, hphase⟩)
      rw [if_neg (by simp [SendPhase.inWindow])]
      omega
    | noted n => simp [SendPhase.inWindow, hmissed]
    | counted n => simp [SendPhase.inWindow, hmissed]
    | returned n => exact absurd hphase (hn n)
  · intro hb n hn
    obtain ⟨hbefore, hcounted⟩ := h.counted hb
    rw [hcounted.sent]
    exact h.sent hbefore n hn
  · intro hb n hn
    obtain ⟨hbefore, hcounted⟩ := h.counted hb
    change s.phase = .returned n at hn
    have hsent := h.sent hbefore n (Or.inr hn)
    have hpos := h.size_pos n (by simp [hn])
    have hacked := h.acked hbefore n hn
    rw [hcounted.acked (by omega)]
    simp only [SendState.pass, hn, SendPhase.inWindow]
    push_cast
    rw [← hacked]
    omega

theorem Counts.step (h : s.Counts) (op : SendOp) : (sendMachine.step s op).2.Counts := by
  cases op with
  | task n env => exact h.task n env
  | pass selectRet env => exact h.pass selectRet env

/-- What is missed grows with every turn that reports bytes in the window, and no other. -/
theorem Counts.missed_step (h : s.Counts) (op : SendOp) :
    s.missed ≤ (sendMachine.step s op).2.missed ∧
      ((sendMachine.step s op).2.missed = s.missed ↔ s.OutsideWindow op) := by
  cases op with
  | task n env =>
    have heq : (s.task n env).missed = s.missed := by
      unfold SendState.task
      cases s.phase <;> dsimp only
      split <;> rfl
    exact ⟨heq.ge, iff_of_true heq trivial⟩
  | pass selectRet env =>
    have hpos := ackedLength_socketPollLoop_pos env h.fd_nonneg selectRet
    simp only [sendMachine, SendState.pass, OutsideWindow, ← hpos]
    cases s.phase.inWindow with
    | true => simp
    | false => simp

theorem Counts.missed_run (h : s.Counts) (ops : List SendOp) :
    s.missed ≤ (sendMachine.run s ops).2.missed ∧
      ((sendMachine.run s ops).2.missed = s.missed ↔ sendMachine.Along OutsideWindow s ops) := by
  induction ops generalizing s with
  | nil => exact ⟨le_refl _, iff_of_true rfl trivial⟩
  | cons op ops ih =>
    obtain ⟨hle, hhere⟩ := h.missed_step op
    obtain ⟨hle', hrest⟩ := ih (h.step op)
    refine ⟨hle.trans hle', ?_⟩
    simp only [Machine.run, Machine.Along, ← hhere, ← hrest]
    omega

end SendState

/-- When every accepted byte was reported acknowledged and no close came, the send is seen
as acknowledged exactly when nothing was reported in the window. -/
theorem ack_received_iff {s : SendState} (hs : s.Ready) (ops : List SendOp) {n : Nat}
    (hphase : (sendMachine.run s ops).2.phase = .returned n)
    (hbroken : (sendMachine.run s ops).2.broken = false)
    (hall : n ≤ (sendMachine.run s ops).2.emitted) :
    (sendMachine.run s ops).2.sys.checkAckReceived = true ↔
      sendMachine.Along SendState.OutsideWindow s ops := by
  have hcounts : (sendMachine.run s ops).2.Counts :=
    sendMachine.invariant (fun _ op h _ => h.step op) hs.counts
      (Machine.Along.trivial sendMachine s ops)
  obtain ⟨-, hmissed⟩ := hs.counts.missed_run ops
  rw [← hmissed, hs.missed, TcpSystem.checkAckReceived, decide_eq_true_eq]
  have hpos := hcounts.size_pos n (by simp [hphase])
  have hsent := hcounts.sent hbroken n (Or.inr hphase)
  have hacked := hcounts.acked hbroken n hphase
  have hpool := hcounts.pool n (by simp [hphase])
  have hunacked := hcounts.unacked_nonneg
  have hsynth := hcounts.synth_nonneg
  omega

/-- A client about to send its login on a socket that tells its send buffer, or not. -/
def sendStart (supported : Bool) : SendState where
  sys := { creatingSystem with
    client := { creatingSystem.client with state := .sendingLogin, tcpFd := 3 } }
  slot := sdkWalnutSocketWithCallback
    { freePoll with sndbufRet := if supported then 0 else -1 } 3
  phase := .begin
  emitted := 0
  missed := 0
  broken := false

theorem ready_sendStart (supported : Bool) : (sendStart supported).Ready where
  fd_nonneg := Int.le_of_lt (by decide : (0 : Int) < 3)
  same_fd := rfl
  state := Or.inl rfl
  unsent := (Int.negSucc_lt_zero 0).le
  unacked := rfl
  synth := rfl
  phase := rfl
  emitted := rfl
  missed := rfl
  broken := rfl

/-- 24 bytes are accepted, and show in the send buffer until they are acknowledged. -/
def sendTask : SendOp := .task 24 { freePoll with sndbufValue := 5816 }

/-- The turn after the send counts. -/
theorem ack_received_iff_after :
    (sendMachine.run (sendStart true)
      [sendTask, sendTask, sendTask, sendTask, .pass 1 freePoll]).2.sys.checkAckReceived = true :=
  (ack_received_iff (ready_sendStart true)
    [sendTask, sendTask, sendTask, sendTask, .pass 1 freePoll] (n := 24) (by decide) (by decide)
    (by decide)).mpr (by decide)

/-- A turn between the note and the two writes, whichever way bytes are acknowledged:
all of them are reported, and none is counted. -/
theorem not_counted_in_window (supported : Bool) :
    ¬ ∀ (s : SendState) (ops : List SendOp) (n : Nat), s.Ready →
    s.slot.sndbufSupported = supported →
    (sendMachine.run s ops).2.phase = .returned n → (sendMachine.run s ops).2.broken = false →
    n ≤ (sendMachine.run s ops).2.emitted →
    (sendMachine.run s ops).2.sys.checkAckReceived = true := by
  intro h
  have hlate := h (sendStart supported)
    [sendTask, sendTask, .pass 1 freePoll, sendTask, sendTask, .pass 1 freePoll] 24
    (ready_sendStart supported)
  revert hlate
  cases supported <;> decide

/-- Bytes acknowledged in the window between the note and the writes are not counted. -/
theorem ack_lost_in_window : ¬ ∀ (s : SendState) (ops : List SendOp) (n : Nat), s.Ready →
    (sendMachine.run s ops).2.phase = .returned n → (sendMachine.run s ops).2.broken = false →
    n ≤ (sendMachine.run s ops).2.emitted →
    (sendMachine.run s ops).2.sys.checkAckReceived = true := by
  intro h
  apply not_counted_in_window true
  intro s ops n hready _
  exact h s ops n hready

end WalnutGateway
