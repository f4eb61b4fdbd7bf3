import WalnutGateway.Gps.Packet
import WalnutGateway.Queue.Fifo
import WalnutGateway.Tcp.Packets

/-!
# Producers of the TCP send queue

Replies routed to the TCP module, position packets, and payloads handed to
`weware_tcp_send` all end up in `TCP_SEND_Q`, each as an inline message. Which
of these rows the overflow encoder takes is decided elsewhere, by the first
three bytes of the payload.
-/

namespace WalnutGateway

/-- `"cmd-rsp,"`. -/
def cmdRspMarker : List Byte := [0x63, 0x6D, 0x64, 0x2D, 0x72, 0x73, 0x70, 0x2C]

/-- The packet that `utils_route_response_to_module` makes of a reply for the
TCP module, whose queue exists; `none` where it drops the reply. -/
def routedPacket (response : List Byte) : Option (List Byte) :=
  if response.length = 0 then none else
  match strstr cmdRspMarker response with
  | some found =>
    let hex := (found.drop 8).takeWhile fun c => hexNibble c < 16
    tcpBleCmdResponsePacketCreate moduleMessageInlineSize hex
  | none => tcpCommandResponsePacketCreate moduleMessageInlineSize response

/-- The message `utils_route_response_to_module` pushes for the TCP module. -/
def routedMessage (address packet : List Byte) (sender : ModuleId) : ModuleMessage :=
  { ModuleMessage.ofPayload (if sender.toNat ≠ 0 then sender else .cmd) .tcp packet with
    address := utilsStrncpySafe 64 address }

/-- `utils_route_response_to_module` with the TCP module as destination. -/
def utilsRouteResponseToModule (d : Device ModuleMessage) (address response : List Byte)
    (sender : ModuleId) : Device ModuleMessage :=
  match routedPacket response with
  | none => d
  | some packet => (queuePush tcpSendQueueConfig d (routedMessage address packet sender)).2

/-- `gps_ops_push_tcp_position_message`: true when the row was queued. -/
def gpsOpsPushTcpPositionMessage (d : Device ModuleMessage) (data : List Byte) :
    Bool × Device ModuleMessage :=
  if data.length = 0 ∨ data.length > moduleMessageInlineSize then (false, d) else
  let p := queuePush tcpSendQueueConfig d (.ofPayload .gps .tcp data)
  (p.1 = .success, p.2)

/-- `wm_SdkResult` of `weware_tcp_send`. -/
inductive WmSdkResult
  | success
  | error
  | invalidParam
  | busy
  deriving DecidableEq, Repr

/-- `weware_tcp_send`. -/
def wewareTcpSend (d : Device ModuleMessage) (data : List Byte) :
    WmSdkResult × Device ModuleMessage :=
  if data.length = 0 ∨ data.length > moduleMessageInlineSize then (.invalidParam, d) else
  let p := queuePush tcpSendQueueConfig d (.ofPayload .tcp .tcp data)
  (if p.1 = .success then .success else if p.1 = .busy then .busy else .error, p.2)

/-- The rows that the producers push. -/
inductive ProducedRow : ModuleMessage → Prop
  /-- A reply routed to the TCP module. -/
  | routed {response packet : List Byte} (address : List Byte) (sender : ModuleId)
      (h : routedPacket response = some packet) : ProducedRow (routedMessage address packet sender)
  /-- A position packet, with data of another module behind it if that fits. -/
  | position {bufferSize : Nat} {env : GpsPacketEnv} {gps : GpsPacket} {packet : List Byte}
      (append : List Byte) (h : gpsPacketCreate bufferSize env gps = some packet) :
      ProducedRow (.ofPayload .gps .tcp (gpsOpsMergeTcpAppend packet append))
  /-- A payload that `weware_tcp_send` accepts. -/
  | sent {data : List Byte} (h : ¬ (data.length = 0 ∨ data.length > moduleMessageInlineSize)) :
      ProducedRow (.ofPayload .tcp .tcp data)

/-- A payload the overflow encoder takes: `WE`, then one of its three types. -/
def OverflowPayload (payload : List Byte) : Prop :=
  payload.getD 0 0 = 0x57 ∧ payload.getD 1 0 = 0x45 ∧
    compactTypeAllowed (payload.getD 2 0) = true

instance (payload : List Byte) : Decidable (OverflowPayload payload) :=
  inferInstanceAs (Decidable (_ ∧ _ ∧ _))

/-! ## What a producer's row looks like -/

/-- An inline message of at least one byte whose array is zero behind the payload. -/
structure PaddedInline (m : ModuleMessage) : Prop where
  inline : m.Inline
  pos : 0 < m.dataLen
  padded : ∀ i, m.message.toList.getD i 0 = m.payload.getD i 0

/-- Zero padding cannot be told from what is not there. -/
theorem getD_memRead (bs : List Byte) {n i : Nat} (h : bs.length ≤ n) :
    (memRead bs n).getD i 0 = bs.getD i 0 := by
  rw [memRead, List.take_of_length_le h, List.getD_eq_getElem?_getD, List.getD_eq_getElem?_getD]
  by_cases hi : i < bs.length
  · rw [List.getElem?_append_left hi]
  · rw [List.getElem?_append_right (by omega), List.getElem?_replicate,
      List.getElem?_eq_none (by omega)]
    split <;> rfl

theorem paddedInline_ofPayload (s t : ModuleId) {data : List Byte} (h0 : data.length ≠ 0)
    (h : data.length ≤ moduleMessageInlineSize) : PaddedInline (.ofPayload s t data) where
  inline := ModuleMessage.inline_ofPayload s t h
  pos := Nat.pos_of_ne_zero h0
  padded i := by
    rw [ModuleMessage.payload_ofPayload s t h]
    exact getD_memRead data h

/-- Every producer's row is such a message. -/
theorem ProducedRow.paddedInline {m : ModuleMessage} (h : ProducedRow m) : PaddedInline m := by
  cases h with
  | @routed response packet address sender h =>
    have hlen : packet.length ≠ 0 ∧ packet.length ≤ moduleMessageInlineSize := by
      unfold routedPacket at h
      split at h
      · contradiction
      · split at h
        · obtain ⟨body, rfl, hle⟩ := tcpBleCmdResponsePacketCreate_eq_some h
          exact ⟨by simp [tcpCmdRespHeaderSize], hle⟩
        · obtain ⟨body, rfl, hle⟩ := tcpCommandResponsePacketCreate_eq_some h
          exact ⟨by simp [tcpCmdRespHeaderSize], hle⟩
    have hp := paddedInline_ofPayload (if sender.toNat ≠ 0 then sender else .cmd) .tcp
      hlen.1 hlen.2
    exact ⟨⟨hp.inline.static, hp.inline.noBuffer, hp.inline.fits⟩, hp.pos, hp.padded⟩
  | @position bufferSize env gps packet append h =>
    obtain ⟨hsize, -⟩ := gpsPacketCreate_eq_some h
    have hfit : packet.length ≤ moduleMessageInlineSize := by
      rw [hsize]
      decide
    obtain ⟨hle, rest, hrest⟩ := gpsOpsMergeTcpAppend_spec append hfit
    refine paddedInline_ofPayload _ _ ?_ hle
    rw [hrest, List.length_append, hsize, gpsPacketTotalSize]
    omega
  | sent h => exact paddedInline_ofPayload _ _ (by omega) (by omega)

/-- For an inline row the encoder looks at nothing but the first three bytes of
the payload. -/
theorem PaddedInline.accepted_iff {m : ModuleMessage} (h : PaddedInline m) :
    (compactEncode m).isSome = true ↔ OverflowPayload m.payload := by
  have hptr := ModuleMessage.payloadPtr_of_static h.inline.static
  constructor
  · intro hs
    obtain ⟨record, hrec⟩ := Option.isSome_iff_exists.mp hs
    obtain ⟨payload, hp, h0, h1, -, -, htype, -⟩ := compactEncode_eq_some hrec
    rw [hptr, Option.some.injEq] at hp
    subst hp
    rw [h.padded] at h0 h1 htype
    exact ⟨h0, h1, htype⟩
  · rintro ⟨h0, h1, htype⟩
    have hlen : toUint16 m.dataLen ≠ 0 := by
      rw [toUint16_of_le h.inline.fits]
      exact Nat.pos_iff_ne_zero.mp h.pos
    rw [← h.padded] at h0 h1 htype
    rw [compactEncode_of_payload hptr h0 h1 hlen (Or.inr h.inline.fits) htype]
    rfl

/-- Text replies are framed with a type the encoder knows. -/
theorem overflowPayload_tcpCommandResponse {outSize : Nat} {payload packet : List Byte}
    (h : tcpCommandResponsePacketCreate outSize payload = some packet) :
    OverflowPayload packet := by
  obtain ⟨body, rfl, -⟩ := tcpCommandResponsePacketCreate_eq_some h
  obtain ⟨h0, h1, h2⟩ := getD_responseFrame tcpOpsCmdRespPacketType body
  exact ⟨h0, h1, by rw [h2]; decide⟩

/-- Hex replies are framed with a type the encoder does not know. -/
theorem not_overflowPayload_tcpBleCmdResponse {outSize : Nat} {hex packet : List Byte}
    (h : tcpBleCmdResponsePacketCreate outSize hex = some packet) :
    ¬ OverflowPayload packet := by
  obtain ⟨body, rfl, -⟩ := tcpBleCmdResponsePacketCreate_eq_some h
  rintro ⟨-, -, htype⟩
  rw [(getD_responseFrame bleCmdRespTcpPacketType body).2.2] at htype
  exact absurd htype (by decide)

/-- Position packets are of a type the encoder knows. -/
theorem overflowPayload_position {bufferSize : Nat} {env : GpsPacketEnv} {gps : GpsPacket}
    {packet : List Byte} (append : List Byte)
    (h : gpsPacketCreate bufferSize env gps = some packet) :
    OverflowPayload (gpsOpsMergeTcpAppend packet append) := by
  obtain ⟨hsize, hstart⟩ := gpsPacketCreate_eq_some h
  have hfit : packet.length ≤ moduleMessageInlineSize := by
    rw [hsize]
    decide
  obtain ⟨-, rest, hrest⟩ := gpsOpsMergeTcpAppend_spec append hfit
  rw [hrest, ← List.take_append_drop 3 packet, hstart]
  exact ⟨rfl, rfl, (by decide : compactTypeAllowed 0x49 = true)⟩

/-! ## A full queue -/

/-- The oldest row stands as a record in the overflow file, and the ring has
made room for `data`. -/
def OldestMoved (cfg : QueueConfig ModuleMessage) (d d' : Device ModuleMessage)
    (data : ModuleMessage) : Prop :=
  (∃ record y, (queueFraming cfg).next record = some (y, record.length) ∧
    rowKey cfg y = rowKey cfg (d.q.buffer d.q.head) ∧
    d'.overflowBytes cfg = if d.Fits cfg record then d.overflowBytes cfg ++ record else record) ∧
  d.q.buffer d.q.head :: d'.q.ringRows cfg = d.q.ringRows cfg ++ [data]

/-- When a producer's row is the oldest of a full queue and no file operation
fails, a push moves it and succeeds exactly if its payload is one the encoder takes. -/
theorem push_moves_produced_row_iff {d : Device ModuleMessage}
    (hring : d.q.RingOk tcpSendQueueConfig) (hs : d.flash.Sound)
    (hfull : d.q.count = tcpSendQueueConfig.capacity) (hrow : ProducedRow (d.q.buffer d.q.head))
    (data : ModuleMessage) :
    ((queuePush tcpSendQueueConfig d data).1 = .success ∧
        OldestMoved tcpSendQueueConfig d (queuePush tcpSendQueueConfig d data).2 data) ↔
      OverflowPayload (d.q.buffer d.q.head).payload := by
  have hpadded := hrow.paddedInline
  have hcap : tcpSendQueueConfig.capacity = 7 := rfl
  have hsuccess := queuePush_eq_success_iff wellFormed_tcpSendQueueConfig hring hs data
  have haccept : (queueRecord tcpSendQueueConfig (d.q.buffer d.q.head)).isSome = true ↔
      OverflowPayload (d.q.buffer d.q.head).payload := hpadded.accepted_iff
  constructor
  · rintro ⟨hok, -⟩
    exact haccept.mp (hsuccess.mp hok hfull.ge)
  · intro hpay
    obtain ⟨record, hrec⟩ := Option.isSome_iff_exists.mp (haccept.mpr hpay)
    refine ⟨hsuccess.mpr fun _ => by rw [hrec]; rfl, ?_⟩
    obtain ⟨y, hy, hkey⟩ := queueRecord_next wellFormed_tcpSendQueueConfig hrec
      fun _ => hpadded.inline.fits
    obtain ⟨hring', hrows⟩ := recorded_ringOk hring record
    obtain ⟨hb, hh, -, hcount⟩ := recorded_ring tcpSendQueueConfig d record
    obtain ⟨-, hrows'⟩ := ringRows_storeTail_dropHead hring' (by omega) data
    rw [queuePush_sound wellFormed_tcpSendQueueConfig hring hs, if_neg (by omega), hrec]
    refine ⟨⟨record, y, hy, hkey, overflowBytes_recorded tcpSendQueueConfig d record⟩, ?_⟩
    rw [hrows, hb, hh] at hrows'
    exact hrows'

/-- Seven text replies fill the queue, and an eighth is taken. -/
theorem push_moves_produced_row_text_reply :
    OldestMoved tcpSendQueueConfig
      ((queueMachine tcpSendQueueConfig).run freshSendQueue
        (List.replicate 7 (.push
          (routedMessage [] [0x57, 0x45, 38, 1, 0, 0x4F, 0x77, 0x65] .cmd)))).2
      (queuePush tcpSendQueueConfig ((queueMachine tcpSendQueueConfig).run freshSendQueue
        (List.replicate 7 (.push
          (routedMessage [] [0x57, 0x45, 38, 1, 0, 0x4F, 0x77, 0x65] .cmd)))).2
        (routedMessage [] [0x57, 0x45, 38, 1, 0, 0x4F, 0x77, 0x65] .cmd)).2
      (routedMessage [] [0x57, 0x45, 38, 1, 0, 0x4F, 0x77, 0x65] .cmd) :=
  ((push_moves_produced_row_iff ⟨by decide +kernel, by decide +kernel, by decide +kernel⟩
    (by decide +kernel) (by decide +kernel)
    (ProducedRow.routed [] .cmd (by decide +kernel :
      routedPacket [0x4F] = some [0x57, 0x45, 38, 1, 0, 0x4F, 0x77, 0x65])) _).mpr
      (by decide +kernel)).2

/-- Seven replies `OK,cmd-rsp,01` block the queue for every later push. -/
theorem hex_reply_blocks_pushes :
    ∃ m, ProducedRow m ∧
      let d := ((queueMachine tcpSendQueueConfig).run freshSendQueue
        (List.replicate 7 (.push m))).2
      d.flash.Sound ∧ d.q.count = tcpSendQueueConfig.capacity ∧ d.q.buffer d.q.head = m ∧
        (queuePush tcpSendQueueConfig d (.ofPayload .gps .tcp [0x57, 0x45, 0x49])).1 = .error :=
  ⟨routedMessage [] [0x57, 0x45, 39, 1, 0, 1, 0x77, 0x65] .cmd,
    .routed [] .cmd (by decide +kernel : routedPacket [0x4F, 0x4B, 0x2C, 0x63, 0x6D, 0x64, 0x2D,
      0x72, 0x73, 0x70, 0x2C, 0x30, 0x31] = some [0x57, 0x45, 39, 1, 0, 1, 0x77, 0x65]),
    by decide +kernel⟩

end WalnutGateway
