import WalnutGateway.Core.Chunking
import WalnutGateway.Uart.Receive

/-!
# Frames do not depend on the chunks

What `stm_frame_complete` finds to be no frame stays none, and the search for the next marker
stops at the same byte however much is buffered. So the frames that
`uart_process_received_data` dispatches are those of the stream.
-/

namespace WalnutGateway

/-- Bytes that are no frame are none whatever follows. -/
theorem stmFrameComplete_bad_append {bs : List Byte} (h : stmFrameComplete bs = .bad)
    (t : List Byte) : stmFrameComplete (bs ++ t) = .bad := by
  have hbyte (i : Nat) (hi : i < bs.length) : (bs ++ t).getD i 0 = bs.getD i 0 := getD_append hi
  unfold stmFrameComplete at h ⊢
  dsimp only at h ⊢
  rw [List.length_append]
  by_cases htwo : bs.length < 2
  · rw [if_pos htwo] at h
    cases h
  rw [if_neg htwo] at h
  rw [if_neg (by omega), hbyte 0 (by omega), hbyte 1 (by omega)]
  by_cases hsof : bs.getD 0 0 ≠ stmSof1 ∨ bs.getD 1 0 ≠ stmSof2
  · rw [if_pos hsof]
  rw [if_neg hsof] at h ⊢
  by_cases hsix : bs.length < 6
  · rw [if_pos hsix] at h
    cases h
  rw [if_neg hsix] at h
  rw [if_neg (by omega), hbyte 5 (by omega)]
  by_cases hsrc : (bs.getD 5 0).toNat > stmSrcLenMax
  · rw [if_pos hsrc]
  rw [if_neg hsrc] at h ⊢
  by_cases hheader : bs.length < 9 + (bs.getD 5 0).toNat
  · rw [if_pos hheader] at h
    cases h
  rw [if_neg hheader] at h
  rw [if_neg (by omega), beUint16_congr hbyte (by omega)]
  by_cases hpayload : beUint16 bs (7 + (bs.getD 5 0).toNat) > stmMaxPayload
  · rw [if_pos hpayload]
  rw [if_neg hpayload] at h ⊢
  generalize htotal : 9 + (bs.getD 5 0).toNat + beUint16 bs (7 + (bs.getD 5 0).toNat) + 2 = total
    at h ⊢
  by_cases hlength : bs.length < total
  · rw [if_pos hlength] at h
    cases h
  have hcovered : ((bs ++ t).drop 2).take (total - 4) = (bs.drop 2).take (total - 4) := by
    rw [List.drop_append_of_le_length (by omega), List.take_append_of_le_length
      (by rw [List.length_drop]; omega)]
  rw [if_neg hlength] at h
  rw [if_neg (by omega), hcovered, beUint16_congr hbyte (by omega)]
  exact h

/-- Looking for STM frames in any bytes. -/
def stmResynchronizer : Resynchronizer Byte where
  toRecognizer := stmRecognizer
  starts b := b = stmSof1
  resync_eq bs := by
    change (bs.drop 1).dropWhile (fun b => decide (b ≠ stmSof1)) = _
    simp only [decide_not]
  bad_append h t := stmFrameComplete_bad_append h t
  check_of_not_starts := by
    intro b hb bs
    have hne : b ≠ stmSof1 := of_decide_eq_false hb
    cases bs with
    | nil => exact Or.inr ⟨rfl, rfl⟩
    | cons c bs =>
      left
      have hfirst : (b :: c :: bs).getD 0 0 ≠ stmSof1 := hne
      change stmFrameComplete (b :: c :: bs) = .bad
      unfold stmFrameComplete
      rw [if_neg (by simp), if_pos (Or.inl hfirst)]

/-- `uart_process_received_data`, one chunk after the other. -/
def processMachine : Machine UartRx RxChunk (List (List Byte)) where
  step rx c := uartProcessReceivedData c rx

/-- The bytes of the chunks. -/
def streamOf (cs : List RxChunk) : List Byte := (cs.map RxChunk.data).flatten

section Runs

variable {rx : UartRx} {c : RxChunk} {cs ds : List RxChunk}

/-- A chunk that fits is put behind the bytes kept. -/
theorem uartProcessReceivedData_of_fits (hpos : c.data ≠ []) (hfits : ChunkFits rx c) :
    (uartProcessReceivedData c rx).1 = (stmResynchronizer.split (rx.buffer ++ c.data)).1 ∧
      (uartProcessReceivedData c rx).2.buffer =
        (stmResynchronizer.split (rx.buffer ++ c.data)).2 := by
  obtain ⟨size, hroom⟩ := uartMakeRoom_of_fits hfits
  rw [uartProcessReceivedData, if_neg (fun h => hpos (List.length_eq_zero_iff.mp h)), hroom]
  exact ⟨rfl, rfl⟩

theorem uartProcessReceivedData_nil (h : c.data = []) :
    uartProcessReceivedData c rx = ([], rx) := by
  rw [uartProcessReceivedData, if_pos (by rw [h, List.length_nil])]

/-- A run of chunks that fit is the feed of their bytes. -/
theorem process_run_settled (hsettled : stmResynchronizer.Settled rx.buffer)
    (hfits : processMachine.Along ChunkFits rx cs) :
    (processMachine.run rx cs).1.flatten =
        (stmResynchronizer.feed rx.buffer (cs.map RxChunk.data)).1 ∧
      (processMachine.run rx cs).2.buffer =
        (stmResynchronizer.feed rx.buffer (cs.map RxChunk.data)).2 := by
  induction cs generalizing rx with
  | nil => exact ⟨rfl, rfl⟩
  | cons c cs ih =>
    obtain ⟨hhere, hlater⟩ := hfits
    have hstep : (uartProcessReceivedData c rx).1 =
          (stmResynchronizer.split (rx.buffer ++ c.data)).1 ∧
        (uartProcessReceivedData c rx).2.buffer =
          (stmResynchronizer.split (rx.buffer ++ c.data)).2 := by
      by_cases hnil : c.data = []
      · rw [uartProcessReceivedData_nil hnil, hnil, List.append_nil,
          Resynchronizer.split_of_settled hsettled]
        exact ⟨rfl, rfl⟩
      · exact uartProcessReceivedData_of_fits hnil hhere
    have hnext : stmResynchronizer.Settled (uartProcessReceivedData c rx).2.buffer := by
      rw [hstep.2]
      exact Resynchronizer.settled_split _
    obtain ⟨hframes, hbuffer⟩ := ih hnext hlater
    rw [hstep.2] at hframes hbuffer
    change ((uartProcessReceivedData c rx).1 ::
        (processMachine.run (uartProcessReceivedData c rx).2 cs).1).flatten = _ ∧
      (processMachine.run (uartProcessReceivedData c rx).2 cs).2.buffer = _
    rw [List.flatten_cons, hstep.1, hframes, hbuffer]
    exact ⟨rfl, rfl⟩

/-- Chunks without bytes do nothing. -/
theorem process_run_nil (rx : UartRx) (h : streamOf cs = []) :
    (processMachine.run rx cs).1.flatten = [] ∧ (processMachine.run rx cs).2 = rx := by
  induction cs with
  | nil => exact ⟨rfl, rfl⟩
  | cons c cs ih =>
    obtain ⟨hc, hcs⟩ := List.append_eq_nil_iff.mp h
    obtain ⟨hframes, hrx⟩ := ih hcs
    have hstep : processMachine.step rx c = ([], rx) := uartProcessReceivedData_nil hc
    rw [Machine.run, hstep]
    exact ⟨hframes, hrx⟩

/-- The frames of a run of chunks that fit are those of the stream, and what is kept is what the
stream leaves over but for bytes in front that start no frame. -/
theorem process_run (hfits : processMachine.Along ChunkFits rx cs) (hne : streamOf cs ≠ []) :
    (processMachine.run rx cs).1.flatten =
        (stmResynchronizer.split (rx.buffer ++ streamOf cs)).1 ∧
      stmResynchronizer.trim (processMachine.run rx cs).2.buffer =
        stmResynchronizer.trim (stmResynchronizer.split (rx.buffer ++ streamOf cs)).2 := by
  induction cs with
  | nil => exact absurd rfl hne
  | cons c cs ih =>
    obtain ⟨hhere, hlater⟩ := hfits
    have hstream : streamOf (c :: cs) = c.data ++ streamOf cs := rfl
    by_cases hnil : c.data = []
    · have hstep : processMachine.step rx c = ([], rx) := uartProcessReceivedData_nil hnil
      rw [hstep] at hlater
      rw [hstream, hnil, List.nil_append] at hne ⊢
      rw [Machine.run, hstep]
      exact ih hlater hne
    · obtain ⟨hframes, hbuffer⟩ := uartProcessReceivedData_of_fits hnil hhere
      have hsettled : stmResynchronizer.Settled (uartProcessReceivedData c rx).2.buffer := by
        rw [hbuffer]
        exact Resynchronizer.settled_split _
      obtain ⟨hrun, hkept⟩ := process_run_settled hsettled hlater
      obtain ⟨hfeed, hleft⟩ :=
        Resynchronizer.feed_eq hsettled (cs.map RxChunk.data)
      have hcut := Resynchronizer.split_append (R := stmResynchronizer) (rx.buffer ++ c.data)
        (streamOf cs)
      rw [hbuffer] at hfeed hleft
      change ((uartProcessReceivedData c rx).1 ::
          (processMachine.run (uartProcessReceivedData c rx).2 cs).1).flatten = _ ∧
        stmResynchronizer.trim
          (processMachine.run (uartProcessReceivedData c rx).2 cs).2.buffer = _
      rw [hstream, ← List.append_assoc, hcut.1, hcut.2, List.flatten_cons, hframes]
      refine ⟨congrArg _ (hrun.trans ?_), (congrArg _ hkept).trans ?_⟩
      · rw [hbuffer]
        exact hfeed
      · rw [hbuffer]
        exact hleft

/-- Two ways of cutting a stream into chunks that all fit dispatch the same frames, and keep the
same bytes but for those in front that start no frame. -/
theorem frames_eq_of_stream_eq (rx : UartRx) (cs ds : List RxChunk)
    (hstream : streamOf cs = streamOf ds) (hcs : processMachine.Along ChunkFits rx cs)
    (hds : processMachine.Along ChunkFits rx ds) :
    (processMachine.run rx cs).1.flatten = (processMachine.run rx ds).1.flatten ∧
      (processMachine.run rx cs).2.buffer.dropWhile (· ≠ stmSof1) =
        (processMachine.run rx ds).2.buffer.dropWhile (· ≠ stmSof1) := by
  have htrim (bs : List Byte) : bs.dropWhile (· ≠ stmSof1) = stmResynchronizer.trim bs := by
    change bs.dropWhile (fun b => decide (b ≠ stmSof1)) = _
    simp only [decide_not]
    rfl
  by_cases hnil : streamOf cs = []
  · have hds' := process_run_nil rx (hstream.symm.trans hnil)
    have hcs' := process_run_nil rx hnil
    rw [hcs'.1, hcs'.2, hds'.1, hds'.2]
    exact ⟨rfl, rfl⟩
  · obtain ⟨hleft, hleft'⟩ := process_run hcs hnil
    obtain ⟨hright, hright'⟩ := process_run hds (fun h => hnil (hstream.trans h))
    rw [hstream] at hleft hleft'
    rw [htrim, htrim]
    exact ⟨hleft.trans hright.symm, hleft'.trans hright'.symm⟩

end Runs

/-- A false marker, a frame and a byte more, cut in two places. -/
theorem frames_eq_of_cut_stream :
    (processMachine.run ⟨[], 1024⟩ [⟨stmSof1 :: emptyReply.bytes.take 5, true⟩,
        ⟨emptyReply.bytes.drop 5 ++ [0], true⟩]).1.flatten =
      (processMachine.run ⟨[], 1024⟩
        [⟨[stmSof1], true⟩, ⟨emptyReply.bytes ++ [0], true⟩]).1.flatten :=
  (frames_eq_of_stream_eq ⟨[], 1024⟩
    [⟨stmSof1 :: emptyReply.bytes.take 5, true⟩, ⟨emptyReply.bytes.drop 5 ++ [0], true⟩]
    [⟨[stmSof1], true⟩, ⟨emptyReply.bytes ++ [0], true⟩] (by decide +kernel) (by decide +kernel)
    (by decide +kernel)).1

end WalnutGateway
