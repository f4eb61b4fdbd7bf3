import WalnutGateway.Common.Types
import WalnutGateway.Core.Machine
import WalnutGateway.Uart.Protocol

/-!
# Receiving STM frames

`uart_process_received_data` appends what the UART received to the bytes kept, hands out
every whole frame at the front and keeps the rest. The bytes kept are bounded by
`UART_MAX_RESPONSE_BUFFER_SIZE`: what does not fit together with a chunk is given up, and
the frame it was the start of with it.
-/

namespace WalnutGateway

/-- `UART_MAX_RESPONSE_BUFFER_SIZE`. -/
def uartMaxResponseBufferSize : Nat := 1280

/-- `UART_MAX_RX_CHUNK_SIZE`. -/
def uartMaxRxChunkSize : Nat := 1024

/-- Looking for STM frames, and after bytes that are none for the next marker. -/
def stmRecognizer : Recognizer Byte where
  check := stmFrameComplete
  resync bs := (bs.drop 1).dropWhile (· ≠ stmSof1)
  complete_pos := by
    intro bs n h
    have hframe := stmFrameComplete_eq_complete.mp h
    have htotal := hframe.total_eq
    exact ⟨by omega, hframe.total_le⟩
  check_extend := by
    intro bs n h t
    exact stmFrameComplete_eq_complete.mpr ((stmFrameComplete_eq_complete.mp h).extend t)
  check_take := by
    intro bs n h m hm
    exact (stmFrameComplete_eq_complete.mp h).needMore hm
  resync_lt := by
    intro bs hne
    have hshorter := (List.dropWhile_sublist (· ≠ stmSof1) (l := bs.drop 1)).length_le
    have hpos := List.length_pos_iff.mpr hne
    rw [List.length_drop] at hshorter
    omega

/-- The receive buffer: the bytes kept and the size allocated. -/
structure UartRx where
  buffer : List Byte
  size : Nat
  deriving DecidableEq

/-- A chunk from the UART, and whether `realloc` succeeds if it is called. -/
structure RxChunk where
  data : List Byte
  realloc : Bool
  deriving DecidableEq

/-- `uart_process_received_data` up to the copy: the bytes kept and the size for a chunk that
is to be copied behind them, or what is left where it is not copied. -/
def uartMakeRoom (c : RxChunk) (rx : UartRx) : Except UartRx UartRx :=
  if c.data.length > uint32Max - rx.buffer.length - 1 then .error { rx with buffer := [] } else
  let kept :=
    if rx.buffer.length + c.data.length + 1 > uartMaxResponseBufferSize then [] else rx.buffer
  let needed := kept.length + c.data.length + 1
  if needed > rx.size ∧ c.realloc = false then .error { rx with buffer := [] } else
  let size := if needed > rx.size then needed else rx.size
  if kept.length + c.data.length > size - 1 then .error { buffer := [], size := size } else
  .ok { buffer := kept, size := size }

/-- `uart_process_received_data`: the frames dispatched, in order. -/
def uartProcessReceivedData (c : RxChunk) (rx : UartRx) : List (List Byte) × UartRx :=
  if c.data.length = 0 then ([], rx) else
  match uartMakeRoom c rx with
  | .error left => ([], left)
  | .ok room =>
    let found := stmRecognizer.split (room.buffer ++ c.data)
    (found.1, { room with buffer := found.2 })

/-- `uart_rx_callback` on the port that was configured. -/
def uartRxCallback (c : RxChunk) (rx : UartRx) : List (List Byte) × UartRx :=
  if c.data.length = 0 then ([], rx) else
  uartProcessReceivedData { c with data := c.data.take uartMaxRxChunkSize } rx

/-- The receive path, one chunk after the other. -/
def receiveMachine : Machine UartRx RxChunk (List (List Byte)) where
  step rx c := uartRxCallback c rx

/-! ## One chunk -/

/-- A chunk of a size the UART delivers. -/
def RxChunk.Valid (c : RxChunk) : Prop := 1 ≤ c.data.length ∧ c.data.length ≤ uartMaxRxChunkSize

instance (c : RxChunk) : Decidable c.Valid := inferInstanceAs (Decidable (_ ∧ _))

/-- The chunk and the bytes kept are within the bound, and there is memory for both. -/
def ChunkFits (rx : UartRx) (c : RxChunk) : Prop :=
  rx.buffer.length + c.data.length + 1 ≤ uartMaxResponseBufferSize ∧
    (rx.size < rx.buffer.length + c.data.length + 1 → c.realloc = true)

instance (rx : UartRx) (c : RxChunk) : Decidable (ChunkFits rx c) :=
  inferInstanceAs (Decidable (_ ∧ (_ → _)))

variable {rx : UartRx} {c : RxChunk}

theorem uartRxCallback_of_valid (hc : c.Valid) :
    uartRxCallback c rx = uartProcessReceivedData c rx := by
  rw [uartRxCallback, if_neg (Nat.pos_iff_ne_zero.mp hc.1), List.take_of_length_le hc.2]

/-- There is room behind the bytes kept for a chunk that fits. -/
theorem uartMakeRoom_of_fits (hfits : ChunkFits rx c) :
    ∃ size, uartMakeRoom c rx = .ok { rx with size := size } := by
  obtain ⟨hbound, hmemory⟩ := hfits
  have hlimit : uartMaxResponseBufferSize = 1280 := rfl
  have hmax : uint32Max = 4294967295 := rfl
  have hkept : ¬ rx.buffer.length + c.data.length + 1 > uartMaxResponseBufferSize := by omega
  have hrealloc : ¬ (rx.buffer.length + c.data.length + 1 > rx.size ∧ c.realloc = false) := by
    rintro ⟨hsize, hfail⟩
    rw [hmemory hsize] at hfail
    contradiction
  rw [uartMakeRoom, if_neg (by omega)]
  simp only [if_neg hkept]
  rw [if_neg hrealloc, if_neg (by split <;> omega)]
  exact ⟨_, rfl⟩

/-- A chunk that does not fit, or the bytes before it, are given up. -/
theorem uartMakeRoom_of_not_fits (hc : c.Valid) (hfits : ¬ ChunkFits rx c) :
    (∃ left, uartMakeRoom c rx = .error left ∧ left.buffer = []) ∨
      (rx.buffer ≠ [] ∧ ∃ size, uartMakeRoom c rx = .ok { buffer := [], size := size }) := by
  have hlimit : uartMaxResponseBufferSize = 1280 := rfl
  have hchunk : uartMaxRxChunkSize = 1024 := rfl
  have hmax := hc.2
  rw [uartMakeRoom]
  by_cases hkept : rx.buffer.length + c.data.length + 1 > uartMaxResponseBufferSize
  · have hne : rx.buffer ≠ [] := by
      intro hnil
      rw [hnil, List.length_nil] at hkept
      omega
    simp only [if_pos hkept]
    generalize (if [].length + c.data.length + 1 > rx.size then _ else _) = size
    split_ifs
    · exact Or.inl ⟨_, rfl, rfl⟩
    · exact Or.inl ⟨_, rfl, rfl⟩
    · exact Or.inl ⟨_, rfl, rfl⟩
    · exact Or.inr ⟨hne, _, rfl⟩
  · have hmemory : rx.buffer.length + c.data.length + 1 > rx.size ∧ c.realloc = false := by
      by_contra hrealloc
      refine hfits ⟨by omega, ?_⟩
      intro hsize
      rw [not_and] at hrealloc
      exact eq_true_of_ne_false (hrealloc hsize)
    simp only [if_neg hkept, if_pos hmemory]
    split_ifs
    · exact Or.inl ⟨_, rfl, rfl⟩
    · exact Or.inl ⟨_, rfl, rfl⟩

/-- A chunk that fits is put behind the bytes kept. -/
theorem uartRxCallback_of_fits (hc : c.Valid) (hfits : ChunkFits rx c) :
    (uartRxCallback c rx).1 = (stmRecognizer.split (rx.buffer ++ c.data)).1 ∧
      (uartRxCallback c rx).2.buffer = (stmRecognizer.split (rx.buffer ++ c.data)).2 := by
  obtain ⟨size, hroom⟩ := uartMakeRoom_of_fits hfits
  have hpos := hc.1
  rw [uartRxCallback_of_valid hc, uartProcessReceivedData, if_neg (by omega), hroom]
  exact ⟨rfl, rfl⟩

/-- Where a chunk does not fit, bytes are given up. -/
theorem length_uartRxCallback_of_not_fits (hc : c.Valid) (hfits : ¬ ChunkFits rx c) :
    (uartRxCallback c rx).1.flatten.length + (uartRxCallback c rx).2.buffer.length <
      rx.buffer.length + c.data.length := by
  have hpos := hc.1
  rw [uartRxCallback_of_valid hc, uartProcessReceivedData, if_neg (by omega)]
  rcases uartMakeRoom_of_not_fits hc hfits with ⟨left, hroom, hnil⟩ | ⟨hne, size, hroom⟩
  · rw [hroom]
    simp only [hnil, List.flatten_nil, List.length_nil]
    omega
  · have hsplit := Recognizer.length_split (R := stmRecognizer) c.data
    have hkept := List.length_pos_iff.mpr hne
    rw [hroom]
    simp only [List.nil_append]
    omega

/-- No bytes are invented. -/
theorem length_uartRxCallback (rx : UartRx) (hc : c.Valid) :
    (uartRxCallback c rx).1.flatten.length + (uartRxCallback c rx).2.buffer.length ≤
      rx.buffer.length + c.data.length := by
  by_cases hfits : ChunkFits rx c
  · obtain ⟨hframes, hbuffer⟩ := uartRxCallback_of_fits hc hfits
    have hsplit := Recognizer.length_split (R := stmRecognizer) (rx.buffer ++ c.data)
    rw [List.length_append] at hsplit
    rw [hframes, hbuffer]
    exact hsplit
  · exact Nat.le_of_lt (length_uartRxCallback_of_not_fits hc hfits)

/-! ## A stream -/

/-- A frame that `stm_build_frame_src` built. -/
structure StmFrame where
  bytes : List Byte
  built : ∃ outCap srcType srcAddr cmd payload,
    stmBuildFrameSrc outCap srcType srcAddr cmd payload = some bytes

theorem StmFrame.isFrame (f : StmFrame) : stmRecognizer.IsFrame f.bytes := by
  obtain ⟨outCap, srcType, srcAddr, cmd, payload, hbuilt⟩ := f.built
  exact stmFrameComplete_eq_complete.mpr (stmBuildFrameSrc_frameAt hbuilt).1

/-- A run of chunks that fit hands out the stream's frames and keeps nothing of them. -/
theorem received_of_fits {cs : List RxChunk} (hcs : ∀ c ∈ cs, c.Valid) {fs : List (List Byte)}
    (hfs : ∀ f ∈ fs, stmRecognizer.IsFrame f)
    (hstream : rx.buffer ++ (cs.map RxChunk.data).flatten = fs.flatten)
    (hsettled : stmRecognizer.Settled rx.buffer) (hfits : receiveMachine.Along ChunkFits rx cs) :
    (receiveMachine.run rx cs).1.flatten = fs := by
  induction cs generalizing rx fs with
  | nil =>
    rw [List.map_nil, List.flatten_nil, List.append_nil] at hstream
    rw [hstream] at hsettled
    exact (Recognizer.eq_nil_of_settled hfs hsettled).symm
  | cons c cs ih =>
    obtain ⟨hhere, hlater⟩ := hfits
    obtain ⟨hframes, hbuffer⟩ := uartRxCallback_of_fits (hcs c (by simp)) hhere
    rw [List.map_cons, List.flatten_cons, ← List.append_assoc] at hstream
    obtain ⟨done, rest, left, rfl, hsplit, hleft, hrest⟩ :=
      Recognizer.split_stream hfs hstream
    rw [hsplit] at hframes hbuffer
    have hlast : (receiveMachine.run (uartRxCallback c rx).2 cs).1.flatten = rest := by
      apply ih
      · intro d hd
        exact hcs d (List.mem_cons_of_mem c hd)
      · intro f hf
        exact hfs f (List.mem_append_right done hf)
      · rw [hbuffer]
        exact hleft
      · rw [hbuffer]
        exact hrest
      · exact hlater
    change ((uartRxCallback c rx).1 ::
      (receiveMachine.run (uartRxCallback c rx).2 cs).1).flatten = done ++ rest
    rw [List.flatten_cons, hframes, hlast]

/-- Over a run no bytes are invented. -/
theorem length_received (rx : UartRx) {cs : List RxChunk} (hcs : ∀ c ∈ cs, c.Valid) :
    (receiveMachine.run rx cs).1.flatten.flatten.length ≤
      rx.buffer.length + (cs.map RxChunk.data).flatten.length := by
  induction cs generalizing rx with
  | nil => simp [Machine.run]
  | cons c cs ih =>
    have hhere := length_uartRxCallback rx (hcs c (by simp))
    have hlater := ih (uartRxCallback c rx).2 (fun d hd => hcs d (by simp [hd]))
    change ((uartRxCallback c rx).1 ::
      (receiveMachine.run (uartRxCallback c rx).2 cs).1).flatten.flatten.length ≤ _
    rw [List.flatten_cons, List.flatten_append, List.length_append, List.map_cons,
      List.flatten_cons, List.length_append]
    omega

/-- A run with a chunk that does not fit hands out less than it received. -/
theorem length_received_of_not_fits (rx : UartRx) {cs : List RxChunk} (hcs : ∀ c ∈ cs, c.Valid)
    (hfits : ¬ receiveMachine.Along ChunkFits rx cs) :
    (receiveMachine.run rx cs).1.flatten.flatten.length <
      rx.buffer.length + (cs.map RxChunk.data).flatten.length := by
  induction cs generalizing rx with
  | nil => exact absurd trivial hfits
  | cons c cs ih =>
    have hc := hcs c (by simp)
    have hrest : ∀ d ∈ cs, d.Valid := fun d hd => hcs d (by simp [hd])
    have hlater := length_received (uartRxCallback c rx).2 hrest
    change ((uartRxCallback c rx).1 ::
      (receiveMachine.run (uartRxCallback c rx).2 cs).1).flatten.flatten.length < _
    rw [List.flatten_cons, List.flatten_append, List.length_append, List.map_cons,
      List.flatten_cons, List.length_append]
    by_cases hhere : ChunkFits rx c
    · have hlost := ih (uartRxCallback c rx).2 hrest (fun h => hfits ⟨hhere, h⟩)
      have hkept := length_uartRxCallback rx hc
      omega
    · have hlost := length_uartRxCallback_of_not_fits hc hhere
      omega

/-- A stream with a chunk that does not fit is not handed out whole. -/
theorem received_ne_of_not_fits {size : Nat} {fs : List (List Byte)} {cs : List RxChunk}
    (hstream : (cs.map RxChunk.data).flatten = fs.flatten) (hcs : ∀ c ∈ cs, c.Valid)
    (hfits : ¬ receiveMachine.Along ChunkFits ⟨[], size⟩ cs) :
    (receiveMachine.run ⟨[], size⟩ cs).1.flatten ≠ fs := by
  intro hall
  have hlost := length_received_of_not_fits ⟨[], size⟩ hcs hfits
  rw [hall, hstream, List.length_nil] at hlost
  omega

/-- The frames of a stream are dispatched exactly once and in order if and only if each
chunk fits behind the bytes kept. -/
theorem received_iff_fits (size : Nat) (frames : List StmFrame) (cs : List RxChunk)
    (hcs : ∀ c ∈ cs, c.Valid)
    (hstream : (cs.map RxChunk.data).flatten = (frames.map StmFrame.bytes).flatten) :
    (receiveMachine.run ⟨[], size⟩ cs).1.flatten = frames.map StmFrame.bytes ↔
      receiveMachine.Along ChunkFits ⟨[], size⟩ cs := by
  constructor
  · intro hall
    by_contra hfits
    exact received_ne_of_not_fits hstream hcs hfits hall
  · intro hfits
    have hframes : ∀ f ∈ frames.map StmFrame.bytes, stmRecognizer.IsFrame f := by
      intro f hf
      obtain ⟨frame, -, rfl⟩ := List.mem_map.mp hf
      exact frame.isFrame
    exact received_of_fits hcs hframes hstream (Or.inl rfl) hfits

/-- The frame of a command with its payload, from a source without an address. -/
def StmFrame.ofPayload (cmd : Byte) (payload : List Byte) (h : payload.length ≤ stmMaxPayload) :
    StmFrame where
  bytes := [stmSof1, stmSof2] ++ stmFrameBody stmSrcTypeLocal [] cmd payload ++
    [UInt8.ofNat ((stmCrc16 (stmFrameBody stmSrcTypeLocal [] cmd payload)).toNat / 256),
      UInt8.ofNat (stmCrc16 (stmFrameBody stmSrcTypeLocal [] cmd payload)).toNat]
  built := ⟨9 + 0 + payload.length + 2, stmSrcTypeLocal, [], cmd, payload,
    stmBuildFrameSrc_eq_some.mpr ⟨Nat.zero_le _, h, Nat.le_refl _, rfl⟩⟩

/-- The reply to a request for the device information, without data. -/
def emptyReply : StmFrame := .ofPayload (stmCmdGetDevInfo ||| stmCmdRespBit) [] (Nat.zero_le _)

/-- Two short frames that arrive in one chunk. -/
theorem received_iff_fits_short :
    (receiveMachine.run ⟨[], 1024⟩ [⟨emptyReply.bytes ++ emptyReply.bytes, true⟩]).1.flatten =
      [emptyReply.bytes, emptyReply.bytes] :=
  (received_iff_fits 1024 [emptyReply, emptyReply]
    [⟨emptyReply.bytes ++ emptyReply.bytes, true⟩] (by decide +kernel) (by decide +kernel)).mpr
    (by decide +kernel)

/-- A frame with the longest payload. -/
def longFrame : StmFrame := .ofPayload 0xC0 (List.replicate 1040 0) (by rw [List.length_replicate,
  stmMaxPayload])

/-- A stream in three chunks, the first two of the given sizes. -/
def threeChunks (stream : List Byte) (first second : Nat) : List RxChunk :=
  [⟨stream.take first, true⟩, ⟨(stream.drop first).take second, true⟩,
    ⟨(stream.drop first).drop second, true⟩]

theorem flatten_threeChunks (stream : List Byte) (first second : Nat) :
    ((threeChunks stream first second).map RxChunk.data).flatten = stream := by
  simp [threeChunks]

/-- Two long frames, the first cut after 300 bytes, its tail with the start of the second. -/
def longChunks : List RxChunk := threeChunks (longFrame.bytes ++ longFrame.bytes) 300 1024

/-- The tail of a frame arrives with the start of the next, and neither is dispatched. -/
theorem frames_lost_with_tail :
    ¬ ∀ (frames : List StmFrame) (cs : List RxChunk),
      (∀ c ∈ cs, c.Valid ∧ c.realloc = true) →
      (cs.map RxChunk.data).flatten = (frames.map StmFrame.bytes).flatten →
      (receiveMachine.run ⟨[], 1024⟩ cs).1.flatten = frames.map StmFrame.bytes := by
  intro hall
  have hstream : (longChunks.map RxChunk.data).flatten =
      ([longFrame, longFrame].map StmFrame.bytes).flatten := by
    rw [longChunks, flatten_threeChunks, List.map_cons, List.map_singleton, List.flatten_cons,
      List.flatten_singleton]
  have hvalid : ∀ c ∈ longChunks, c.Valid ∧ c.realloc = true := by decide +kernel
  have hfits : ¬ receiveMachine.Along ChunkFits ⟨[], 1024⟩ longChunks := by decide +kernel
  exact received_ne_of_not_fits hstream (fun c hc => (hvalid c hc).1) hfits
    (hall [longFrame, longFrame] longChunks hvalid hstream)

end WalnutGateway
