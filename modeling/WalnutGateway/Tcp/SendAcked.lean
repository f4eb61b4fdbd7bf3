import WalnutGateway.Tcp.SocketPoll

/-!
# Acknowledged bytes

A socket whose free send buffer the kernel tells: the capacity less the bytes in
flight. Sends add to these, acknowledgements of the peer take away, and the poll
layer infers from its samples how much of what was noted as sent is acknowledged.
The sums of the run are carried along.
-/

namespace WalnutGateway

/-- The kernel's send buffer, the slot, and the sums of the run. -/
structure AckState where
  capacity : Nat
  inFlight : Nat
  slot : SocketPollSlot
  /-- Taken by `lwip_send` and not noted yet. -/
  accepted : Option Nat
  /-- Bytes noted as sent. -/
  noted : Nat
  /-- Lengths of the `SENDACKED` events. -/
  reported : Nat
  /-- Bytes the peer acknowledged. -/
  peerAcked : Nat

/-- What the client, the peer and TCPMON do. -/
inductive AckOp
  | lwipSend (n : Nat)
  | noteSent (env : PollEnv)
  | peerAck (n : Nat)
  | pass (env : PollEnv)

namespace AckState

/-- The kernel's answer to `SO_SNDBUF`. -/
def sample (s : AckState) (env : PollEnv) : PollEnv :=
  { env with sndbufRet := 0, sndbufValue := s.capacity - s.inFlight }

/-- A new socket with an empty buffer. -/
def start (capacity : Nat) (fd : Int) (env : PollEnv) : AckState where
  capacity := capacity
  inFlight := 0
  slot := sdkWalnutSocketWithCallback { env with sndbufRet := 0, sndbufValue := capacity } fd
  accepted := none
  noted := 0
  reported := 0
  peerAcked := 0

end AckState

/-- The bytes that a list of events acknowledges. -/
def ackedLength (events : List (NetconnEvent × Nat)) : Nat :=
  (events.map fun e => if e.1 = .sendacked then e.2 else 0).sum

/-- One step of the socket and the poll layer. -/
def ackMachine : Machine AckState AckOp Unit where
  step s op := ((),
    match op with
    | .lwipSend n => { s with inFlight := s.inFlight + n, accepted := some n }
    | .noteSent env =>
      match s.accepted with
      | none => s
      | some n =>
        { s with
          slot := sdkWalnutSocketPollNoteSent (s.sample env) s.slot.fd n s.slot
          accepted := none
          noted := s.noted + n }
    | .peerAck n => { s with inFlight := s.inFlight - n, peerAcked := s.peerAcked + n }
    | .pass env =>
      let r := socketPollServiceSlot (s.sample env) s.slot
      { s with slot := r.2, reported := s.reported + ackedLength r.1 })

/-- The kernel takes what fits into its buffer, one send after the other, and the
peer acknowledges what is in flight. -/
def AckState.Offers (s : AckState) : AckOp → Prop
  | .lwipSend n => s.accepted = none ∧ 0 < n ∧ s.inFlight + n ≤ s.capacity
  | .peerAck n => n ≤ s.inFlight
  | _ => True

/-- What a pass has to report fits into the 16 bits of an event: the smaller of
the unacknowledged bytes and of the growth of the free space, or the
unacknowledged bytes when the buffer is empty and the space has not grown. -/
def AckState.Reportable (s : AckState) : AckOp → Prop
  | .pass _ =>
    let avail : Int := s.capacity - s.inFlight
    if avail > s.slot.sndbufLast then min s.slot.unacked (avail - s.slot.sndbufLast) ≤ 65535
    else s.inFlight = 0 → s.slot.unacked ≤ 65535
  | _ => True

/-! ## What a pass does to the counts -/

/-- A pass leaves the identity of the slot alone and arms no connect. -/
structure SocketPollSlot.Kept (slot slot' : SocketPollSlot) : Prop where
  fd : slot'.fd = slot.fd
  supported : slot'.sndbufSupported = slot.sndbufSupported
  capacity : slot'.sndbufCapacity = slot.sndbufCapacity
  settled : slot.connectPending = false → slot'.connectPending = false

/-- How a pass that reports `len` bytes moves the sample and the unacknowledged bytes. -/
inductive SocketPollSlot.Acks (cur : Int) (slot slot' : SocketPollSlot) : Nat → Prop
  | quiet (last : slot'.sndbufLast = slot.sndbufLast) (unacked : slot'.unacked = slot.unacked) :
    Acks cur slot slot' 0
  | drain (pos : 0 < slot.unacked) (grown : slot.sndbufLast < cur) (last : slot'.sndbufLast = cur)
    (unacked : slot'.unacked = slot.unacked - min slot.unacked (cur - slot.sndbufLast)) :
    Acks cur slot slot' (eventLength (min slot.unacked (cur - slot.sndbufLast)))
  | topUp (pos : 0 < slot.unacked) (still : cur ≤ slot.sndbufLast)
    (full : cur = slot.sndbufCapacity) (last : slot'.sndbufLast = cur)
    (unacked : slot'.unacked = 0) :
    Acks cur slot slot' (eventLength slot.unacked)

namespace SocketPollSlot

variable {slot slot' : SocketPollSlot} {env : PollEnv}

theorem Kept.refl (slot : SocketPollSlot) : slot.Kept slot := ⟨rfl, rfl, rfl, id⟩

@[simp] theorem ackedLength_nil : ackedLength [] = 0 := rfl

theorem ackedLength_append (xs ys : List (NetconnEvent × Nat)) :
    ackedLength (xs ++ ys) = ackedLength xs + ackedLength ys := by
  simp [ackedLength]

theorem ackedLength_singleton_of_ne {e : NetconnEvent} (h : e ≠ .sendacked) (n : Nat) :
    ackedLength [(e, n)] = 0 := by
  simp [ackedLength, h]

theorem ackedLength_sendacked (n : Nat) : ackedLength [(.sendacked, n)] = n := by
  simp [ackedLength]

theorem errnoToErrorEvent_ne (err : Int) : errnoToErrorEvent err ≠ .sendacked := by
  unfold errnoToErrorEvent
  split
  · simp
  · split
    · simp
    · split <;> simp

/-- While a connect is in flight nothing is acknowledged. -/
theorem serviceConnect_acks (env : PollEnv) (slot : SocketPollSlot) (cur : Int) :
    slot.Kept (slot.serviceConnect env).2 ∧
      Acks cur slot (slot.serviceConnect env).2 (ackedLength (slot.serviceConnect env).1) := by
  unfold serviceConnect
  split
  · exact ⟨⟨rfl, rfl, rfl, id⟩, .quiet rfl rfl⟩
  · split
    · rw [ackedLength_singleton_of_ne (errnoToErrorEvent_ne _)]
      exact ⟨⟨rfl, rfl, rfl, fun _ => rfl⟩, .quiet rfl rfl⟩
    · split
      · exact ⟨⟨rfl, rfl, rfl, id⟩, .quiet rfl rfl⟩
      · rw [ackedLength_singleton_of_ne (by simp)]
        exact ⟨⟨rfl, rfl, rfl, fun _ => rfl⟩, .quiet rfl rfl⟩

/-- The three cases of the `SENDACKED` section. -/
theorem serviceAcked_acks (env : PollEnv) (slot : SocketPollSlot) :
    slot.Kept (slot.serviceAcked env).2 ∧
      Acks (sndbufAvail env) slot (slot.serviceAcked env).2
        (ackedLength (slot.serviceAcked env).1) := by
  unfold serviceAcked
  split
  · exact ⟨.refl slot, .quiet rfl rfl⟩
  · rename_i hpos
    rw [not_not] at hpos
    dsimp only
    split
    · rename_i hgrown
      have hdelta : (if sndbufAvail env - slot.sndbufLast > slot.unacked then slot.unacked
          else sndbufAvail env - slot.sndbufLast) =
          min slot.unacked (sndbufAvail env - slot.sndbufLast) := by
        split <;> omega
      rw [hdelta, ackedLength_sendacked]
      exact ⟨⟨rfl, rfl, rfl, id⟩, .drain hpos.2 hgrown rfl rfl⟩
    · rename_i hstill
      split
      · rename_i hfull
        rw [ackedLength_sendacked]
        exact ⟨⟨rfl, rfl, rfl, id⟩, .topUp hpos.2 (not_lt.mp hstill) hfull rfl rfl⟩
      · exact ⟨.refl slot, .quiet rfl rfl⟩

/-- Only the sample, the capacity and the unacknowledged bytes matter. -/
theorem Acks.congr {cur : Int} {n : Nat} {other other' : SocketPollSlot}
    (h : Acks cur slot slot' n) (hlast : other.sndbufLast = slot.sndbufLast)
    (hunacked : other.unacked = slot.unacked)
    (hcapacity : other.sndbufCapacity = slot.sndbufCapacity)
    (hlast' : other'.sndbufLast = slot'.sndbufLast) (hunacked' : other'.unacked = slot'.unacked) :
    Acks cur other other' n := by
  cases h with
  | quiet last unacked =>
    exact .quiet (by rw [hlast', last, hlast]) (by rw [hunacked', unacked, hunacked])
  | drain pos grown last unacked =>
    rw [← hunacked, ← hlast] at *
    exact .drain pos grown (hlast'.trans last) (hunacked'.trans unacked)
  | topUp pos still full last unacked =>
    rw [← hunacked] at *
    exact .topUp pos (hlast ▸ still) (full.trans hcapacity.symm) (hlast'.trans last)
      (hunacked'.trans unacked)

/-- The sections about reading and about writability edges acknowledge nothing. -/
theorem serviceReadable_eq (env : PollEnv) (slot : SocketPollSlot) :
    ackedLength (slot.serviceReadable env).1 = 0 ∧
      ∃ fin, (slot.serviceReadable env).2 = { slot with finEmitted := fin } := by
  unfold serviceReadable
  split
  · exact ⟨rfl, slot.finEmitted, rfl⟩
  · split
    · exact ⟨ackedLength_singleton_of_ne (by simp) _, slot.finEmitted, rfl⟩
    · exact ⟨rfl, true, rfl⟩

theorem serviceWritable_eq (env : PollEnv) (slot : SocketPollSlot) :
    ackedLength (slot.serviceWritable env).1 = 0 ∧
      ∃ w, (slot.serviceWritable env).2 = { slot with lastWritable := w } := by
  unfold serviceWritable
  split
  · exact ⟨rfl, slot.lastWritable, rfl⟩
  · refine ⟨ackedLength_singleton_of_ne ?_ _, env.writable, rfl⟩
    split <;> simp

/-- A pass over one slot. -/
theorem socketPollServiceSlot_acks (env : PollEnv) (slot : SocketPollSlot) :
    slot.Kept (socketPollServiceSlot env slot).2 ∧
      Acks (sndbufAvail env) slot (socketPollServiceSlot env slot).2
        (ackedLength (socketPollServiceSlot env slot).1) := by
  unfold socketPollServiceSlot
  split
  · exact ⟨.refl slot, .quiet rfl rfl⟩
  · split
    · split
      · exact ⟨.refl slot, .quiet rfl rfl⟩
      · split
        · rw [ackedLength_singleton_of_ne (errnoToErrorEvent_ne _)]
          exact ⟨⟨rfl, rfl, rfl, id⟩, .quiet rfl rfl⟩
        · exact ⟨⟨rfl, rfl, rfl, id⟩, .quiet rfl rfl⟩
    · split
      · exact slot.serviceConnect_acks env _
      · dsimp only
        obtain ⟨hread, fin, hslot⟩ := slot.serviceReadable_eq env
        rw [hslot, ackedLength_append, ackedLength_append, hread, Nat.zero_add]
        obtain ⟨hkept, hacks⟩ := serviceAcked_acks env { slot with finEmitted := fin }
        obtain ⟨hwrite, w, hslot'⟩ :=
          (({ slot with finEmitted := fin } : SocketPollSlot).serviceAcked
            env).2.serviceWritable_eq env
        rw [hwrite, hslot', Nat.add_zero]
        exact ⟨⟨hkept.fd, hkept.supported, hkept.capacity, hkept.settled⟩,
          hacks.congr rfl rfl rfl rfl rfl⟩

/-- A pass that gets as far as the `SENDACKED` section. -/
theorem socketPollServiceSlot_settled (hfd : 0 ≤ slot.fd) (hexcepted : env.excepted = false)
    (hpending : slot.connectPending = false) :
    ∃ fin w, (socketPollServiceSlot env slot).2 =
      { (({ slot with finEmitted := fin } : SocketPollSlot).serviceAcked env).2 with
        lastWritable := w } := by
  obtain ⟨-, fin, hslot⟩ := slot.serviceReadable_eq env
  obtain ⟨-, w, hslot'⟩ :=
    (({ slot with finEmitted := fin } : SocketPollSlot).serviceAcked env).2.serviceWritable_eq env
  refine ⟨fin, w, ?_⟩
  rw [socketPollServiceSlot, if_neg (by omega), if_neg (by simp [hexcepted]),
    if_neg (by simp [hpending])]
  dsimp only
  rw [hslot, hslot']

/-- A slot that has something to report does so when the buffer is empty, and all of it
once the last sample was of an empty buffer. -/
theorem unacked_of_empty (hfd : 0 ≤ slot.fd) (hsupported : slot.sndbufSupported = true)
    (hsettled : 0 < slot.unacked → slot.connectPending = false) (hunacked : 0 ≤ slot.unacked)
    (hempty : sndbufAvail env = slot.sndbufCapacity) (hexcepted : env.excepted = false) :
    0 ≤ (socketPollServiceSlot env slot).2.unacked ∧
      (socketPollServiceSlot env slot).2.unacked ≤ slot.unacked ∧
      ((socketPollServiceSlot env slot).2.unacked = 0 ∨ (slot.sndbufLast < slot.sndbufCapacity ∧
        (socketPollServiceSlot env slot).2.sndbufLast = slot.sndbufCapacity)) := by
  by_cases hpos : 0 < slot.unacked
  · obtain ⟨fin, w, heq⟩ := socketPollServiceSlot_settled hfd hexcepted (hsettled hpos)
    rw [heq, serviceAcked, if_neg (by rw [not_not]; exact ⟨hsupported, hpos⟩)]
    dsimp only
    rw [hempty]
    by_cases hgrown : slot.sndbufCapacity > slot.sndbufLast
    · rw [if_pos hgrown]
      dsimp only
      refine ⟨?_, ?_, Or.inr ⟨hgrown, rfl⟩⟩
      · split <;> omega
      · split <;> omega
    · rw [if_neg hgrown, if_pos rfl]
      exact ⟨le_refl _, hunacked, Or.inl rfl⟩
  · have hzero : slot.unacked = 0 := by omega
    have hacks := (socketPollServiceSlot_acks env slot).2
    generalize (socketPollServiceSlot env slot).2 = slot' at hacks ⊢
    generalize ackedLength (socketPollServiceSlot env slot).1 = len at hacks
    cases hacks with
    | quiet last unacked => omega
    | drain pos => omega
    | topUp pos => omega

end SocketPollSlot

/-! ## What holds throughout -/

/-- Nothing is counted twice: what is reported, with what the next sample may
add, the peer has acknowledged. -/
structure AckState.Accounts (s : AckState) : Prop where
  capacity_pos : 0 < s.capacity
  inFlight_le : s.inFlight ≤ s.capacity
  fd_nonneg : 0 ≤ s.slot.fd
  supported : s.slot.sndbufSupported = true
  capacity_eq : s.slot.sndbufCapacity = s.capacity
  last_nonneg : 0 ≤ s.slot.sndbufLast
  unacked_nonneg : 0 ≤ s.slot.unacked
  settled : 0 < s.slot.unacked → s.slot.connectPending = false
  accepted_le : ∀ n, s.accepted = some n → 0 < n ∧ n ≤ s.capacity
  sent_eq : s.inFlight + s.peerAcked = s.noted + s.accepted.getD 0
  noted_eq : (s.reported : Int) + s.slot.unacked = s.noted
  reported_le : s.reported ≤ s.peerAcked
  growth_le : (s.reported : Int) + (s.capacity - s.inFlight - s.slot.sndbufLast) ≤ s.peerAcked

theorem eventLength_of_le {n : Int} (h0 : 0 ≤ n) (h : n ≤ 65535) : (eventLength n : Int) = n := by
  unfold eventLength
  rw [if_neg (by omega)]
  omega

namespace AckState

variable {s : AckState}

theorem sndbufAvail_sample (s : AckState) (env : PollEnv) :
    sndbufAvail (s.sample env) =
      if (s.capacity : Int) - s.inFlight > 0 then (s.capacity : Int) - s.inFlight else -1 := rfl

theorem accounts_start {capacity : Nat} (hc : 0 < capacity) {fd : Int} (hfd : 0 ≤ fd)
    (env : PollEnv) : (start capacity fd env).Accounts := by
  have havail : sndbufAvail { env with sndbufRet := 0, sndbufValue := (capacity : Int) } =
      (capacity : Int) := by
    simp [sndbufAvail, hc]
  constructor <;> simp [start, sdkWalnutSocketWithCallback, havail, hc, hfd]

/-- The kernel takes a send. -/
theorem Accounts.lwipSend (h : s.Accounts) {n : Nat} (ho : s.Offers (.lwipSend n)) :
    (ackMachine.step s (.lwipSend n)).2.Accounts := by
  obtain ⟨hnone, hpos, hfits⟩ := ho
  have hsent := h.sent_eq
  have hgrowth := h.growth_le
  rw [hnone] at hsent
  refine { h with inFlight_le := hfits, accepted_le := ?_, sent_eq := ?_, growth_le := ?_ }
  · rintro m ⟨⟩
    exact ⟨hpos, Nat.le_trans (Nat.le_add_left _ _) hfits⟩
  · simp only [ackMachine, Option.getD_some, Option.getD_none] at hsent ⊢
    omega
  · simp only [ackMachine]
    omega

/-- The peer acknowledges some of what is in flight. -/
theorem Accounts.peerAck (h : s.Accounts) {n : Nat} (ho : s.Offers (.peerAck n)) :
    (ackMachine.step s (.peerAck n)).2.Accounts := by
  have hn : n ≤ s.inFlight := ho
  have hle := h.inFlight_le
  have hsent := h.sent_eq
  have hreported := h.reported_le
  have hgrowth := h.growth_le
  refine { h with inFlight_le := ?_, sent_eq := ?_, reported_le := ?_, growth_le := ?_ }
  · simp only [ackMachine]
    omega
  · simp only [ackMachine]
    omega
  · simp only [ackMachine]
    omega
  · simp only [ackMachine]
    omega

/-- A send is noted, with a new sample of the free space. -/
theorem Accounts.noteSent (h : s.Accounts) (env : PollEnv) :
    (ackMachine.step s (.noteSent env)).2.Accounts := by
  cases ha : s.accepted with
  | none =>
    simp only [ackMachine, ha]
    exact h
  | some n =>
    obtain ⟨hpos, hfits⟩ := h.accepted_le n ha
    have hslot : sdkWalnutSocketPollNoteSent (s.sample env) s.slot.fd n s.slot =
        { s.slot with
          connectPending := false
          sndbufLast := if sndbufAvail (s.sample env) ≥ 0 then sndbufAvail (s.sample env)
            else s.slot.sndbufCapacity - n
          unacked := s.slot.unacked + n } := by
      have hfd := h.fd_nonneg
      rw [sdkWalnutSocketPollNoteSent, if_neg (by omega), if_pos h.supported]
    have hle := h.inFlight_le
    have hsent := h.sent_eq
    have hreported := h.reported_le
    have hnoted := h.noted_eq
    have hunacked := h.unacked_nonneg
    have hcapacity := h.capacity_eq
    have hlast : 0 ≤ (if sndbufAvail (s.sample env) ≥ 0 then sndbufAvail (s.sample env)
          else s.slot.sndbufCapacity - n) ∧
        (s.capacity : Int) - s.inFlight ≤ (if sndbufAvail (s.sample env) ≥ 0 then
          sndbufAvail (s.sample env) else s.slot.sndbufCapacity - n) := by
      rw [sndbufAvail_sample]
      split
      · split <;> omega
      · rw [if_neg (by omega)]
        omega
    rw [ha, Option.getD_some] at hsent
    simp only [ackMachine, ha, hslot]
    exact
      { h with
        last_nonneg := hlast.1
        unacked_nonneg := by dsimp only; omega
        settled := fun _ => rfl
        accepted_le := nofun
        sent_eq := by dsimp only; rw [Option.getD_none]; omega
        noted_eq := by dsimp only; omega
        growth_le := by dsimp only; omega }

/-- A pass reports what the samples show, and the peer acknowledged all of it. -/
theorem Accounts.pass (h : s.Accounts) {env : PollEnv} (hr : s.Reportable (.pass env)) :
    (ackMachine.step s (.pass env)).2.Accounts := by
  obtain ⟨hkept, hacks⟩ :=
    SocketPollSlot.socketPollServiceSlot_acks (s.sample env) s.slot
  have hle := h.inFlight_le
  have hsent := h.sent_eq
  have hreported := h.reported_le
  have hnoted := h.noted_eq
  have hgrowth := h.growth_le
  have hlast0 := h.last_nonneg
  have hunacked0 := h.unacked_nonneg
  have hcapacity := h.capacity_eq
  have hpos := h.capacity_pos
  have hfd : 0 ≤ (socketPollServiceSlot (s.sample env) s.slot).2.fd := by
    rw [hkept.fd]
    exact h.fd_nonneg
  simp only [ackMachine]
  generalize (socketPollServiceSlot (s.sample env) s.slot).2 = slot' at hkept hacks hfd ⊢
  generalize ackedLength (socketPollServiceSlot (s.sample env) s.slot).1 = len at hacks ⊢
  have hcap' : slot'.sndbufCapacity = s.capacity := hkept.capacity.trans hcapacity
  have hsup' : slot'.sndbufSupported = true := hkept.supported.trans h.supported
  rw [sndbufAvail_sample] at hacks
  cases hacks with
  | quiet last unacked =>
    exact
      { h with
        fd_nonneg := hfd
        supported := hsup'
        capacity_eq := hcap'
        last_nonneg := by dsimp only; omega
        unacked_nonneg := by dsimp only; omega
        settled := fun hp => hkept.settled (h.settled (unacked ▸ hp))
        noted_eq := by dsimp only; omega
        growth_le := by dsimp only; omega }
  | drain pos grown last unacked =>
    have hroom : (s.capacity : Int) - s.inFlight > 0 := by
      by_contra hnot
      rw [if_neg hnot] at grown
      omega
    rw [if_pos hroom] at grown last unacked ⊢
    simp only [Reportable, if_pos (show (s.capacity : Int) - s.inFlight > s.slot.sndbufLast
      from grown)] at hr
    have hlen := eventLength_of_le (by omega) hr
    exact
      { h with
        fd_nonneg := hfd
        supported := hsup'
        capacity_eq := hcap'
        last_nonneg := by dsimp only; omega
        unacked_nonneg := by dsimp only; omega
        settled := fun _ => hkept.settled (h.settled pos)
        noted_eq := by dsimp only; omega
        reported_le := by dsimp only; omega
        growth_le := by dsimp only; omega }
  | topUp pos still full last unacked =>
    have hempty : s.inFlight = 0 := by
      split at full <;> omega
    have hnot : ¬ (s.capacity : Int) - s.inFlight > s.slot.sndbufLast := by
      split at still <;> omega
    simp only [Reportable, if_neg hnot] at hr
    have hlen := eventLength_of_le (by omega) (hr hempty)
    exact
      { h with
        fd_nonneg := hfd
        supported := hsup'
        capacity_eq := hcap'
        last_nonneg := by dsimp only; omega
        unacked_nonneg := by dsimp only; omega
        settled := fun _ => hkept.settled (h.settled pos)
        noted_eq := by dsimp only; omega
        reported_le := by dsimp only; omega
        growth_le := by dsimp only; omega }

/-- Every step keeps the accounts. -/
theorem Accounts.step (h : s.Accounts) {op : AckOp} (ho : s.Offers op) (hr : s.Reportable op) :
    (ackMachine.step s op).2.Accounts := by
  cases op with
  | lwipSend n => exact h.lwipSend ho
  | noteSent env => exact h.noteSent env
  | peerAck n => exact h.peerAck ho
  | pass env => exact h.pass hr

/-- With nothing in flight, two passes that the kernel flags no exception for report the rest. -/
theorem Accounts.two_passes (h : s.Accounts) (hempty : s.inFlight = 0) {env env' : PollEnv}
    (hexcepted : env.excepted = false) (hexcepted' : env'.excepted = false) :
    (ackMachine.run s [.pass env, .pass env']).2.slot.unacked = 0 := by
  have havail (env : PollEnv) : sndbufAvail (s.sample env) = s.slot.sndbufCapacity := by
    have hpos := h.capacity_pos
    have hcapacity := h.capacity_eq
    rw [sndbufAvail_sample, if_pos (by omega)]
    omega
  obtain ⟨hkept, -⟩ := SocketPollSlot.socketPollServiceSlot_acks (s.sample env) s.slot
  obtain ⟨hunacked, hle, hfirst⟩ :=
    SocketPollSlot.unacked_of_empty h.fd_nonneg h.supported h.settled
    h.unacked_nonneg (havail env) hexcepted
  change (socketPollServiceSlot (s.sample env')
    (socketPollServiceSlot (s.sample env) s.slot).2).2.unacked = 0
  have hsettled : 0 < (socketPollServiceSlot (s.sample env) s.slot).2.unacked →
      (socketPollServiceSlot (s.sample env) s.slot).2.connectPending = false := by
    intro hpos
    exact hkept.settled (h.settled (lt_of_lt_of_le hpos hle))
  obtain ⟨hunacked', hle', hsecond⟩ := SocketPollSlot.unacked_of_empty (hkept.fd.symm ▸ h.fd_nonneg)
    (hkept.supported.trans h.supported) hsettled hunacked
    ((havail env').trans hkept.capacity.symm) hexcepted'
  rcases hsecond with hzero | ⟨hlast, -⟩
  · exact hzero
  · rcases hfirst with hzero | ⟨-, hfull⟩
    · exact le_antisymm (hzero ▸ hle') hunacked'
    · rw [hfull, hkept.capacity] at hlast
      omega

end AckState

/-- Every run of sends, notes, acknowledgements and passes whose reports fit into
an event accounts for every byte, reports none before the peer acknowledged it,
and ends two passes after the buffer is empty with nothing unacknowledged. -/
theorem sendacked_accounts {capacity : Nat} (hc : 0 < capacity) {fd : Int} (hfd : 0 ≤ fd)
    (env : PollEnv) (ops : List AckOp)
    (hops : ackMachine.Along (fun s op => s.Offers op ∧ s.Reportable op)
      (.start capacity fd env) ops) :
    let s := (ackMachine.run (.start capacity fd env) ops).2
    (s.reported : Int) + s.slot.unacked = s.noted ∧ s.reported ≤ s.peerAcked ∧
      (s.inFlight = 0 → ∀ env env', env.excepted = false → env'.excepted = false →
        (ackMachine.run s [.pass env, .pass env']).2.slot.unacked = 0) := by
  have hrun := ackMachine.invariant (I := AckState.Accounts)
    (fun _ _ h hop => h.step hop.1 hop.2) (AckState.accounts_start hc hfd env) hops
  refine ⟨hrun.noted_eq, hrun.reported_le, ?_⟩
  intro hempty env env' hexcepted hexcepted'
  exact hrun.two_passes hempty hexcepted hexcepted'

/-- A connected socket that is writable and has nothing to read. -/
def quietPoll : PollEnv := ⟨false, true, false, 0, 0, 0, 0, 0, 0, 0⟩

/-- A send of 100 bytes, half of it acknowledged before it is noted. -/
theorem sendacked_accounts_half :
    let s := (ackMachine.run (.start 1000 3 quietPoll)
      [.lwipSend 100, .peerAck 50, .noteSent quietPoll, .peerAck 50]).2
    (ackMachine.run s [.pass quietPoll, .pass quietPoll]).2.slot.unacked = 0 := by
  refine (sendacked_accounts (by decide) (by decide) quietPoll
    [.lwipSend 100, .peerAck 50, .noteSent quietPoll, .peerAck 50] ?_).2.2 rfl _ _ rfl rfl
  refine ⟨⟨⟨rfl, ?_, ?_⟩, trivial⟩, ⟨?_, trivial⟩, ⟨trivial, trivial⟩, ⟨?_, trivial⟩, trivial⟩
  · decide
  · decide
  · change 50 ≤ 100
    decide
  · change 50 ≤ 50
    decide

/-- 100000 bytes sent and acknowledged between two passes: 65535 are reported and
none is left unacknowledged. -/
theorem sendacked_cut_off :
    let s := (ackMachine.run (.start 100000 3 quietPoll)
      [.lwipSend 100000, .noteSent quietPoll, .peerAck 100000, .pass quietPoll]).2
    s.reported = 65535 ∧ s.slot.unacked = 0 ∧ s.noted = 100000 := by
  decide +kernel

end WalnutGateway
