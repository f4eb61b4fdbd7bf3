import WalnutGateway.Queue.SendQueue

/-!
# Peek against pop on any overflow file

A peek counts the unread records first, by their headers or by the size of an element, and
goes on to the ring behind the last one it counted. A pop reads record by record and touches
the ring only when the read offset has reached the end of the file. The two part where a
record is not counted although bytes are left.
-/

namespace WalnutGateway

variable {α : Type}

/-! ## What the file holds at a place -/

/-- The bytes that a counted record takes up at the front of a string of which `room` bytes
belong to the queue. -/
def fileSlot (cfg : QueueConfig α) (bs : List Byte) (room : Nat) : Option Nat :=
  if queueIsTcpSendQ cfg then
    match compactHeader bs with
    | none => none
    | some (payloadLen, _) =>
      if payloadLen = 0 ∨ payloadLen > moduleMessageInlineSize ∨ 3 + payloadLen > room then none
      else some (3 + payloadLen)
  else if cfg.elementSize ≤ room then some cfg.elementSize
  else none

/-- The element that is read there, and its bytes. -/
def fileElem (cfg : QueueConfig α) (bs : List Byte) (room : Nat) : Option (α × Nat) :=
  if queueIsTcpSendQ cfg then (messageFraming cfg).next (bs.take room)
  else rawNext cfg bs

/-- How many records are counted, with at most `fuel` looks. -/
def slotCount (cfg : QueueConfig α) : Nat → List Byte → Nat → Nat
  | 0, _, _ => 0
  | fuel + 1, bs, room =>
    match fileSlot cfg bs room with
    | none => 0
    | some k => slotCount cfg fuel (bs.drop k) (room - k) + 1

/-- The place behind `n` counted records. -/
def skipSlots (cfg : QueueConfig α) : Nat → List Byte → Nat → Option (List Byte × Nat)
  | 0, bs, room => some (bs, room)
  | n + 1, bs, room =>
    (fileSlot cfg bs room).bind fun k => skipSlots cfg n (bs.drop k) (room - k)

/-- The rows that a peek copies from a place on. -/
def peekRows (cfg : QueueConfig α) (ring : List α) : Nat → List Byte → Nat → List α
  | 0, _, _ => []
  | n + 1, bs, room =>
    match fileSlot cfg bs room with
    | none => ring.take (n + 1)
    | some k =>
      match fileElem cfg bs room with
      | none => []
      | some (x, _) => x :: peekRows cfg ring n (bs.drop k) (room - k)

/-- The rows that a pop copies from a place on. -/
def popRows (cfg : QueueConfig α) (ring : List α) : Nat → List Byte → Nat → List α
  | 0, _, _ => []
  | n + 1, bs, room =>
    if room = 0 then ring.take (n + 1) else
    match fileElem cfg bs room with
    | none => []
    | some (x, k) => x :: popRows cfg ring n (bs.drop k) (room - k)

/-- Along the records that a pop of `n` rows reads, the count ends only where the file ends. Where
it ends before, the ring is empty, or holds the element that is read over the end of the file. -/
def CountKeepsUp (cfg : QueueConfig α) (ring : List α) : Nat → List Byte → Nat → Prop
  | 0, _, _ => True
  | n + 1, bs, room =>
    room ≠ 0 →
      match fileSlot cfg bs room, fileElem cfg bs room with
      | some _, none => True
      | some _, some (_, k) => CountKeepsUp cfg ring n (bs.drop k) (room - k)
      | none, none => ring = []
      | none, some (x, _) => ring.take (n + 1) = (x :: ring).take (n + 1)

instance [DecidableEq α] (cfg : QueueConfig α) (ring : List α) :
    ∀ n bs room, Decidable (CountKeepsUp cfg ring n bs room)
  | 0, _, _ => isTrue trivial
  | n + 1, bs, room => by
    have ih (k : Nat) : Decidable (CountKeepsUp cfg ring n (bs.drop k) (room - k)) :=
      instDecidableCountKeepsUpOfDecidableEq cfg ring n _ _
    unfold CountKeepsUp
    split <;> infer_instance

section Places

variable {cfg : QueueConfig α} {bs : List Byte} {room k : Nat} {x : α}

theorem fileSlot_pos (hsize : 0 < cfg.elementSize) (h : fileSlot cfg bs room = some k) :
    0 < k ∧ k ≤ room := by
  unfold fileSlot at h
  split at h
  · cases hh : compactHeader bs with
    | none => simp [hh] at h
    | some header =>
      simp only [hh] at h
      split_ifs at h with hbad
      cases h
      omega
  · split_ifs at h with hfit
    cases h
    exact ⟨hsize, hfit⟩

/-- Nothing is counted behind the end. -/
theorem fileSlot_zero (hsize : 0 < cfg.elementSize) : fileSlot cfg bs 0 = none := by
  cases h : fileSlot cfg bs 0 with
  | none => rfl
  | some k =>
    have hk := fileSlot_pos hsize h
    omega

theorem popRows_zero (ring : List α) (n : Nat) : popRows cfg ring n bs 0 = ring.take n := by
  cases n with
  | zero => rfl
  | succ n => rw [popRows, if_pos rfl]

/-- Nothing is read from an empty string. -/
theorem fileElem_nil (hsize : 0 < cfg.elementSize) : fileElem cfg [] room = none := by
  unfold fileElem
  split
  · rw [List.take_nil, Framing.next_nil]
  · exact if_pos (Or.inr hsize)

/-- An element that is read where a record was counted takes up what was counted, and one that
is read where none was reaches the end. -/
theorem fileElem_length (h : fileElem cfg bs room = some (x, k)) :
    (∀ j ∈ fileSlot cfg bs room, j = k) ∧ (fileSlot cfg bs room = none → room ≤ k) := by
  unfold fileElem at h
  unfold fileSlot
  split at h
  · rename_i htcp
    rw [if_pos htcp]
    obtain ⟨payloadLen, type, hh, rfl, hpos, hmax, hroom, -⟩ := messageFraming_next h
    rw [List.length_take] at hroom
    have hhead : compactHeader bs = some (payloadLen, type) := by
      have htake := compactHeader_take_append (by omega : 3 ≤ min room bs.length)
        (Nat.min_le_right _ _) []
      rw [List.append_nil] at htake
      rwa [← htake, ← List.take_eq_take_min]
    simp only [hhead]
    rw [if_neg (by omega)]
    exact ⟨fun j hj => (Option.some.inj hj).symm, nofun⟩
  · rename_i hraw
    rw [if_neg hraw]
    unfold rawNext at h
    split_ifs at h
    cases h
    split_ifs with hfit
    · exact ⟨fun j hj => (Option.some.inj hj).symm, nofun⟩
    · exact ⟨nofun, fun _ => by omega⟩

theorem slotCount_zero (hsize : 0 < cfg.elementSize) (fuel : Nat) :
    slotCount cfg fuel bs 0 = 0 := by
  cases fuel with
  | zero => rfl
  | succ fuel => simp only [slotCount, fileSlot_zero hsize]

/-- More looks than bytes find nothing new. -/
theorem slotCount_of_le (hsize : 0 < cfg.elementSize) {fuel : Nat} (hfuel : room ≤ fuel) :
    slotCount cfg fuel bs room = slotCount cfg room bs room := by
  suffices hall : ∀ m bs room, room ≤ m → ∀ n, room ≤ n →
      slotCount cfg n bs room = slotCount cfg m bs room from hall room bs room le_rfl fuel hfuel
  intro m
  induction m with
  | zero =>
    intro bs room hm n _
    obtain rfl := Nat.le_zero.mp hm
    rw [slotCount_zero hsize, slotCount_zero hsize]
  | succ m ih =>
    intro bs room hm n hn
    cases n with
    | zero =>
      obtain rfl := Nat.le_zero.mp hn
      rw [slotCount_zero hsize, slotCount_zero hsize]
    | succ n =>
      rw [slotCount, slotCount]
      cases hslot : fileSlot cfg bs room with
      | none => rfl
      | some k =>
        have hk := fileSlot_pos hsize hslot
        dsimp only
        rw [ih _ (room - k) (by omega) n (by omega)]

/-- The records that are counted are the first of them and those behind it. -/
theorem slotCount_eq (hsize : 0 < cfg.elementSize) :
    slotCount cfg room bs room =
      match fileSlot cfg bs room with
      | none => 0
      | some k => slotCount cfg (room - k) (bs.drop k) (room - k) + 1 := by
  rw [← slotCount_of_le hsize (Nat.le_succ room), slotCount]
  cases hslot : fileSlot cfg bs room with
  | none => rfl
  | some k =>
    dsimp only
    rw [slotCount_of_le hsize (Nat.sub_le room k)]

/-- Skipping one record more. -/
theorem skipSlots_succ {bs' : List Byte} {room' n : Nat}
    (h : skipSlots cfg n bs room = some (bs', room')) (hslot : fileSlot cfg bs' room' = some k) :
    skipSlots cfg (n + 1) bs room = some (bs'.drop k, room' - k) := by
  induction n generalizing bs room with
  | zero =>
    cases h
    rw [skipSlots, hslot]
    rfl
  | succ n ih =>
    obtain ⟨j, hj, h⟩ := Option.bind_eq_some_iff.mp h
    rw [skipSlots, hj]
    exact ih h

theorem skipSlots_le {bs' : List Byte} {room' n : Nat}
    (h : skipSlots cfg n bs room = some (bs', room')) : room' ≤ room := by
  induction n generalizing bs room with
  | zero =>
    cases h
    exact le_rfl
  | succ n ih =>
    obtain ⟨k, -, h⟩ := Option.bind_eq_some_iff.mp h
    exact (ih h).trans (Nat.sub_le room k)

theorem skipSlots_nil {bs' : List Byte} {room' n : Nat}
    (h : skipSlots cfg n [] room = some (bs', room')) : bs' = [] := by
  induction n generalizing room with
  | zero =>
    cases h
    rfl
  | succ n ih =>
    obtain ⟨k, -, h⟩ := Option.bind_eq_some_iff.mp h
    rw [List.drop_nil] at h
    exact ih h

/-- No more rows are peeked at than are counted and in the ring. -/
theorem peekRows_min (hsize : 0 < cfg.elementSize) (ring : List α) (n : Nat) :
    peekRows cfg ring (min n (slotCount cfg room bs room + ring.length)) bs room =
      peekRows cfg ring n bs room := by
  induction n generalizing bs room with
  | zero => rw [Nat.zero_min]
  | succ n ih =>
    rw [slotCount_eq hsize, peekRows]
    cases hslot : fileSlot cfg bs room with
    | none =>
      dsimp only
      rw [Nat.zero_add]
      cases hmin : min (n + 1) ring.length with
      | zero =>
        obtain rfl : ring = [] := List.length_eq_zero_iff.mp (by omega)
        rfl
      | succ m =>
        rw [peekRows, hslot]
        dsimp only
        rw [← hmin, ← List.take_eq_take_min]
    | some k =>
      dsimp only
      rw [show slotCount cfg (room - k) (bs.drop k) (room - k) + 1 + ring.length =
        slotCount cfg (room - k) (bs.drop k) (room - k) + ring.length + 1 by omega,
        Nat.succ_min_succ, peekRows, hslot]
      dsimp only
      rw [ih]

/-- Peek and pop copy the same rows exactly if the count keeps up. -/
theorem peekRows_eq_popRows_iff (hsize : 0 < cfg.elementSize) (ring : List α) (n : Nat) :
    peekRows cfg ring n bs room = popRows cfg ring n bs room ↔
      CountKeepsUp cfg ring n bs room := by
  induction n generalizing bs room with
  | zero => exact ⟨fun _ => trivial, fun _ => rfl⟩
  | succ n ih =>
    by_cases hroom : room = 0
    · subst hroom
      refine ⟨fun _ h => absurd rfl h, fun _ => ?_⟩
      rw [peekRows, fileSlot_zero hsize, popRows, if_pos rfl]
    · rw [peekRows, popRows, if_neg hroom, CountKeepsUp]
      rw [imp_iff_right hroom]
      cases hslot : fileSlot cfg bs room with
      | none =>
        cases helem : fileElem cfg bs room with
        | none =>
          dsimp only
          rw [List.take_eq_nil_iff]
          simp
        | some e =>
          obtain ⟨x, k⟩ := e
          have hend := (fileElem_length helem).2 hslot
          dsimp only
          rw [Nat.sub_eq_zero_of_le hend, popRows_zero, List.take_succ_cons]
      | some j =>
        cases helem : fileElem cfg bs room with
        | none => simp
        | some e =>
          obtain ⟨x, k⟩ := e
          obtain rfl := (fileElem_length helem).1 j hslot
          dsimp only
          rw [List.cons.injEq, ih]
          exact and_iff_right rfl

end Places

/-! ## A flash where nothing fails -/

/-- The bytes from the read offset on. -/
def unreadBytes (cfg : QueueConfig α) (d : Device α) : List Byte :=
  (d.overflowBytes cfg).drop d.q.fileReadOffset

/-- How many bytes the queue takes for unread. -/
def unreadRoom (cfg : QueueConfig α) (d : Device α) : Nat :=
  if queueHasFile cfg then d.q.fileSize - d.q.fileReadOffset else 0

section Device

variable {cfg : QueueConfig α} {d : Device α}

theorem unreadBytes_nil (hopen : d.flash.files (overflowFile cfg) = none) :
    unreadBytes cfg d = [] := by
  rw [unreadBytes, Device.overflowBytes, Flash.contents, hopen, Option.getD_none, List.drop_nil]

theorem unreadRoom_eq_zero
    (h : ¬(queueHasFile cfg = true ∧ d.q.fileReadOffset < d.q.fileSize)) :
    unreadRoom cfg d = 0 := by
  unfold unreadRoom
  split
  · rename_i hfile
    exact Nat.sub_eq_zero_of_le (not_lt.mp fun hoff => h ⟨hfile, hoff⟩)
  · rfl

theorem queueFileReadElem_room {fs : Flash FlashFile} (h : fs.Sound)
    (hsize : 0 < cfg.elementSize) (path : FlashFile) (mode : FileMode) (pos offset room : Nat) :
    ∃ e, queueFileReadElem cfg fs ⟨path, mode, pos⟩ offset (offset + room) =
      (match fileElem cfg ((fs.contents path).drop offset) room with
        | none => .error e
        | some (x, n) => .ok (x, offset + n), fs) := by
  unfold queueFileReadElem fileElem
  split
  · obtain ⟨e, he⟩ := queueTcpFileReadCompactRecord_room h path mode pos offset room
    refine ⟨e, ?_⟩
    rw [he]
    simp only [messageFraming]
    cases compactNext (((fs.contents path).drop offset).take room) <;> rfl
  · refine ⟨.error, ?_⟩
    simp only [wmSdkFileSeek_sound h, wmSdkFileRead_sound h, rawNext, List.length_take,
      List.length_drop]
    by_cases hshort : (fs.contents path).length - offset < cfg.elementSize
    · rw [if_pos (Or.inr (by omega)), if_pos (Or.inr (by omega))]
    · rw [if_neg (by simp; omega), if_neg (by omega)]

/-- Without a failing call, a read takes what stands at the offset, and behind the last byte
the file is gone. -/
theorem queueFileRead_room (h : d.flash.Sound) (hsize : 0 < cfg.elementSize)
    (hfile : queueHasFile cfg = true) (hoff : d.q.fileReadOffset < d.q.fileSize) :
    queueFileRead cfg d =
      match fileElem cfg (unreadBytes cfg d) (unreadRoom cfg d) with
      | none => (.error .error, d)
      | some (x, n) => (.ok x,
          if d.q.fileSize ≤ d.q.fileReadOffset + n then d.drained cfg else d.advanced n) := by
  obtain ⟨e, he⟩ := queueFileReadElem_room h hsize (overflowFile cfg) .rb 0 d.q.fileReadOffset
    (d.q.fileSize - d.q.fileReadOffset)
  rw [Nat.add_sub_of_le (Nat.le_of_lt hoff)] at he
  simp only [queueFileRead, hfile, not_true_eq_false, if_false, unreadRoom, if_true]
  rw [if_neg (by omega)]
  cases hopen : d.flash.files (overflowFile cfg) with
  | none =>
    rw [wmSdkFileOpen_rb_none h hopen, unreadBytes_nil hopen, fileElem_nil hsize]
  | some bytes =>
    rw [wmSdkFileOpen_rb_some h hopen]
    simp only [he, wmSdkFileClose_sound h]
    change _ = match fileElem cfg ((d.flash.contents (overflowFile cfg)).drop d.q.fileReadOffset)
        (d.q.fileSize - d.q.fileReadOffset) with
      | none => _
      | some (x, n) => _
    cases fileElem cfg ((d.flash.contents (overflowFile cfg)).drop d.q.fileReadOffset)
        (d.q.fileSize - d.q.fileReadOffset) with
    | none => rfl
    | some x =>
      obtain ⟨x, n⟩ := x
      dsimp only
      by_cases hend : d.q.fileSize ≤ d.q.fileReadOffset + n
      · rw [if_pos hend, if_pos hend, queueFileReset_sound (by exact h)]
        rfl
      · rw [if_neg hend, if_neg hend]
        rfl

/-- A pop copies the readable records, and the ring behind the end of the file. -/
theorem queuePopLoop_rows (h : d.flash.Sound) (hsize : 0 < cfg.elementSize)
    (hhead : d.q.head < cfg.capacity) (n : Nat) :
    (queuePopLoop cfg n d).1 =
      popRows cfg (d.q.ringRows cfg) n (unreadBytes cfg d) (unreadRoom cfg d) := by
  induction n generalizing d with
  | zero => rfl
  | succ n ih =>
    rw [queuePopLoop, queuePopOne, popRows]
    by_cases hunread : queueHasFile cfg = true ∧ d.q.fileReadOffset < d.q.fileSize
    · obtain ⟨hfile, hoff⟩ := hunread
      have hroom : unreadRoom cfg d = d.q.fileSize - d.q.fileReadOffset := if_pos hfile
      rw [if_pos ⟨hfile, hoff⟩, queueFileRead_room h hsize hfile hoff, if_neg (by omega)]
      cases fileElem cfg (unreadBytes cfg d) (unreadRoom cfg d) with
      | none => rfl
      | some e =>
        obtain ⟨x, k⟩ := e
        dsimp only
        by_cases hend : d.q.fileSize ≤ d.q.fileReadOffset + k
        · have hlast : unreadRoom cfg d - k = 0 := by omega
          have hnone : unreadRoom cfg (d.drained cfg) = 0 := by
            unfold unreadRoom
            split <;> rfl
          have hlater := ih (d := d.drained cfg) (h.erase _) hhead
          rw [hnone, popRows_zero] at hlater
          rw [if_pos hend, hlater, hlast, popRows_zero]
          rfl
        · have hbytes : unreadBytes cfg (d.advanced k) = (unreadBytes cfg d).drop k :=
            List.drop_drop.symm
          have hleft : unreadRoom cfg (d.advanced k) = unreadRoom cfg d - k := by
            rw [hroom, unreadRoom, if_pos hfile, Nat.sub_sub]
            rfl
          have hlater := ih (d := d.advanced k) h hhead
          rw [hbytes, hleft] at hlater
          rw [if_neg hend, hlater]
          rfl
    · have hroom : unreadRoom cfg d = 0 := unreadRoom_eq_zero hunread
      rw [if_neg hunread, if_pos hroom]
      cases hcount : d.q.count with
      | zero =>
        rw [if_neg (Nat.lt_irrefl 0), Queue.ringRows, hcount, ringWindow_zero, List.take_nil]
      | succ count =>
        have hrows : d.q.ringRows cfg = d.q.buffer d.q.head :: (d.q.dropHead cfg).ringRows cfg := by
          rw [Queue.ringRows, hcount, ringWindow_succ _ hhead, Queue.ringRows]
          simp only [Queue.dropHead, hcount, Nat.add_sub_cancel]
        have hlater := ih (d := { d with q := d.q.dropHead cfg }) h
          (Nat.mod_lt _ (Nat.zero_lt_of_lt hhead))
        have hsame : unreadRoom cfg { d with q := d.q.dropHead cfg } = 0 := hroom
        rw [hsame, popRows_zero] at hlater
        rw [if_pos (Nat.succ_pos count), if_neg (by omega), hrows, List.take_succ_cons]
        dsimp only
        rw [hlater]

/-! ### Peeking -/

/-- The loop that counts, wherever the file ends. -/
theorem countRecordsLoop_room {fs : Flash FlashFile} (h : fs.Sound)
    (htcp : queueIsTcpSendQ cfg = true) (path : FlashFile) (mode : FileMode)
    (fuel pos offset fileSize : Nat) :
    countRecordsLoop fileSize fuel ⟨path, mode, pos⟩ fs offset =
      (slotCount cfg fuel ((fs.contents path).drop offset) (fileSize - offset), fs) := by
  induction fuel generalizing pos offset with
  | zero => rfl
  | succ fuel ih =>
    obtain ⟨pos', hhdr, -⟩ := queueTcpReadHdr_sound h path mode pos offset
    rw [countRecordsLoop, slotCount, fileSlot, if_pos htcp, hhdr]
    cases hh : compactHeader ((fs.contents path).drop offset) with
    | none => split <;> rfl
    | some header =>
      obtain ⟨payloadLen, type⟩ := header
      dsimp only
      by_cases hbad : payloadLen = 0 ∨ payloadLen > moduleMessageInlineSize ∨
          3 + payloadLen > fileSize - offset
      · rw [if_pos hbad]
        split_ifs
        · rfl
        · rfl
        · rfl
        · omega
      · rw [if_neg hbad, if_neg (by omega), if_neg (by omega), if_neg (by omega)]
        dsimp only
        rw [ih, List.drop_drop, Nat.add_assoc, Nat.sub_sub]

/-- Elements of one size are counted by a division. -/
theorem slotCount_raw (hsize : 0 < cfg.elementSize) (hraw : ¬ queueIsTcpSendQ cfg = true)
    (fuel : Nat) (bs : List Byte) {room : Nat} (hfuel : room ≤ fuel) :
    slotCount cfg fuel bs room = room / cfg.elementSize := by
  induction fuel generalizing bs room with
  | zero =>
    obtain rfl := Nat.le_zero.mp hfuel
    exact (Nat.zero_div _).symm
  | succ fuel ih =>
    rw [slotCount, fileSlot, if_neg hraw]
    by_cases hfit : cfg.elementSize ≤ room
    · rw [if_pos hfit]
      dsimp only
      rw [ih _ (by omega), Nat.div_eq_sub_div hsize hfit]
    · rw [if_neg hfit]
      exact (Nat.div_eq_of_lt (by omega)).symm

theorem queueFileSlots_room (h : d.flash.Sound) (hsize : 0 < cfg.elementSize) :
    queueFileSlots cfg d =
      (slotCount cfg (unreadRoom cfg d) (unreadBytes cfg d) (unreadRoom cfg d), d) := by
  unfold queueFileSlots
  by_cases hunread : queueHasFile cfg = true ∧ d.q.fileReadOffset < d.q.fileSize
  · have hroom : unreadRoom cfg d = d.q.fileSize - d.q.fileReadOffset := if_pos hunread.1
    rw [if_pos hunread]
    by_cases htcp : queueIsTcpSendQ cfg = true
    · rw [if_pos htcp, queueTcpFileCountRecords, if_neg (not_not_intro htcp),
        if_neg (not_le.mpr hunread.2)]
      cases hopen : d.flash.files (overflowFile cfg) with
      | none =>
        rw [wmSdkFileOpen_rb_none h hopen, slotCount_eq hsize, unreadBytes_nil hopen, fileSlot,
          if_pos htcp]
        rfl
      | some bytes =>
        rw [wmSdkFileOpen_rb_some h hopen]
        simp only [countRecordsLoop_room h htcp, wmSdkFileClose_sound h]
        rw [hroom, slotCount_of_le hsize (Nat.sub_le _ _)]
        rfl
    · rw [if_neg htcp, if_pos hsize, hroom, slotCount_raw hsize htcp _ _ le_rfl]
  · rw [if_neg hunread, unreadRoom_eq_zero hunread]
    rfl

/-- Skipping counted records leads to the record behind them. -/
theorem peekRecordLoop_room {fs : Flash FlashFile} (h : fs.Sound)
    (htcp : queueIsTcpSendQ cfg = true) (path : FlashFile) (mode : FileMode)
    (pos offset : Nat) {which room : Nat} {bs : List Byte} {room' : Nat}
    (hskip : skipSlots cfg which ((fs.contents path).drop offset) room = some (bs, room'))
    (hleft : 0 < room') :
    ∃ e, peekRecordLoop (offset + room) which ⟨path, mode, pos⟩ fs offset =
      (match compactNext (bs.take room') with
        | none => .error e
        | some (m, _) => .ok m, fs) := by
  induction which generalizing pos offset room with
  | zero =>
    cases hskip
    obtain ⟨e, he⟩ := queueTcpFileReadCompactRecord_room h path mode pos offset room'
    refine ⟨e, ?_⟩
    rw [peekRecordLoop, if_neg (by omega), he]
    cases compactNext (((fs.contents path).drop offset).take room') <;> rfl
  | succ which ih =>
    obtain ⟨k, hslot, hskip⟩ := Option.bind_eq_some_iff.mp hskip
    rw [fileSlot, if_pos htcp] at hslot
    obtain ⟨pos', hhdr, -⟩ := queueTcpReadHdr_sound h path mode pos offset
    cases hh : compactHeader ((fs.contents path).drop offset) with
    | none => simp [hh] at hslot
    | some header =>
      obtain ⟨payloadLen, type⟩ := header
      simp only [hh] at hslot
      split_ifs at hslot with hbad
      cases hslot
      rw [List.drop_drop, ← Nat.add_assoc] at hskip
      obtain ⟨e, he⟩ := ih pos' _ hskip
      refine ⟨e, ?_⟩
      rw [peekRecordLoop, if_neg (by omega), hhdr, hh]
      dsimp only
      rw [if_neg (by omega), ← he]
      congr 1
      omega

/-- Skipping elements of one size. -/
theorem skipSlots_raw (hraw : ¬ queueIsTcpSendQ cfg = true) {n : Nat} {bs bs' : List Byte}
    {room room' : Nat} (h : skipSlots cfg n bs room = some (bs', room')) :
    bs' = bs.drop (n * cfg.elementSize) ∧ room = room' + n * cfg.elementSize := by
  induction n generalizing bs room with
  | zero =>
    cases h
    simp
  | succ n ih =>
    obtain ⟨k, hslot, h⟩ := Option.bind_eq_some_iff.mp h
    rw [fileSlot, if_neg hraw] at hslot
    split_ifs at hslot with hfit
    cases hslot
    obtain ⟨rfl, hroom⟩ := ih h
    rw [List.drop_drop, Nat.succ_mul, Nat.add_comm cfg.elementSize]
    exact ⟨rfl, by omega⟩

/-- Peeking at a counted record is reading it, wherever the file ends. -/
theorem queueFilePeekElement_room (h : d.flash.Sound) (hsize : 0 < cfg.elementSize)
    (hword : d.q.fileSize ≤ uint32Max) {cnt : Nat} {bs : List Byte} {room k : Nat}
    (hskip : skipSlots cfg cnt (unreadBytes cfg d) (unreadRoom cfg d) = some (bs, room))
    (hslot : fileSlot cfg bs room = some k) :
    ∃ e, queueFilePeekElement cfg d cnt =
      (match fileElem cfg bs room with
        | none => .error e
        | some (x, _) => .ok x, d) := by
  have hk := fileSlot_pos hsize hslot
  have hle := skipSlots_le hskip
  have hfile : queueHasFile cfg = true := by
    by_contra hno
    rw [unreadRoom, if_neg hno] at hle
    omega
  have hroom : unreadRoom cfg d = d.q.fileSize - d.q.fileReadOffset := if_pos hfile
  unfold queueFilePeekElement
  rw [if_neg (not_not_intro hfile), if_neg (by omega)]
  cases hopen : d.flash.files (overflowFile cfg) with
  | none =>
    rw [unreadBytes_nil hopen] at hskip
    rw [wmSdkFileOpen_rb_none h hopen, skipSlots_nil hskip, fileElem_nil hsize]
    exact ⟨.error, rfl⟩
  | some bytes =>
    rw [wmSdkFileOpen_rb_some h hopen]
    dsimp only
    by_cases htcp : queueIsTcpSendQ cfg = true
    · obtain ⟨e, he⟩ := peekRecordLoop_room h htcp (overflowFile cfg) .rb 0 d.q.fileReadOffset
        hskip (by omega)
      rw [hroom, Nat.add_sub_of_le (by omega)] at he
      refine ⟨e, ?_⟩
      rw [if_pos htcp, he, fileElem, if_pos htcp]
      simp only [wmSdkFileClose_sound h, messageFraming]
      cases compactNext (bs.take room) <;> rfl
    · obtain ⟨rfl, hsum⟩ := skipSlots_raw htcp hskip
      rw [fileSlot, if_neg htcp] at hslot
      split_ifs at hslot with hfit
      have hwhich : ¬ cnt ≥ (d.q.fileSize - d.q.fileReadOffset) / cfg.elementSize := by
        have hmul : (cnt + 1) * cfg.elementSize ≤ d.q.fileSize - d.q.fileReadOffset := by
          rw [Nat.succ_mul]
          omega
        have hdiv := (Nat.le_div_iff_mul_le hsize).mpr hmul
        omega
      refine ⟨.error, ?_⟩
      rw [if_neg htcp, peekRawElement, if_neg (by omega)]
      dsimp only
      rw [if_neg hwhich, if_neg (by omega), if_neg (by omega), fileElem, if_neg htcp, rawNext]
      simp only [wmSdkFileSeek_sound h, wmSdkFileRead_sound h, unreadBytes, Device.overflowBytes,
        List.drop_drop, List.length_take, List.length_drop]
      by_cases hshort : (d.flash.contents (overflowFile cfg)).length -
          (d.q.fileReadOffset + cnt * cfg.elementSize) < cfg.elementSize
      · rw [if_pos (Or.inr (by omega)), if_pos (Or.inr (by omega))]
        simp only [wmSdkFileClose_sound h]
      · rw [if_neg (by simp; omega), if_neg (by omega)]
        simp only [wmSdkFileClose_sound h]

/-- Behind the counted records the loop copies the ring. -/
theorem queuePeekBatchLoop_ring (d : Device α) {slots cnt : Nat} (hcnt : slots ≤ cnt) (n : Nat) :
    queuePeekBatchLoop cfg slots n cnt d =
      (((d.q.ringRows cfg).drop (cnt - slots)).take n, d) := by
  induction n generalizing cnt with
  | zero => rw [queuePeekBatchLoop, List.take_zero]
  | succ n ih =>
    have hlen := length_ringRows cfg d.q
    rw [queuePeekBatchLoop, if_neg (not_lt.mpr hcnt)]
    by_cases hend : cnt - slots ≥ d.q.count
    · rw [if_pos hend, List.drop_of_length_le (by omega), List.take_nil]
    · have hlt : cnt - slots < (d.q.ringRows cfg).length := by omega
      rw [if_neg hend, ih (by omega), List.drop_eq_getElem_cons hlt, List.take_succ_cons,
        getElem_ringRows hlt, Nat.succ_sub hcnt]

/-- A peek copies the counted records as far as they can be read, and then the ring. -/
theorem queuePeekBatchLoop_rows (h : d.flash.Sound) (hsize : 0 < cfg.elementSize)
    (hword : d.q.fileSize ≤ uint32Max) {slots cnt : Nat} {bs : List Byte} {room : Nat}
    (hskip : skipSlots cfg cnt (unreadBytes cfg d) (unreadRoom cfg d) = some (bs, room))
    (hslots : slots = cnt + slotCount cfg room bs room) (n : Nat) :
    queuePeekBatchLoop cfg slots n cnt d =
      (peekRows cfg (d.q.ringRows cfg) n bs room, d) := by
  induction n generalizing cnt bs room with
  | zero => rfl
  | succ n ih =>
    rw [slotCount_eq hsize] at hslots
    rw [peekRows]
    cases hslot : fileSlot cfg bs room with
    | none =>
      rw [hslot] at hslots
      have hend : slots = cnt := hslots
      rw [queuePeekBatchLoop_ring d (by omega), hend, Nat.sub_self, List.drop_zero]
    | some k =>
      rw [hslot] at hslots
      have hsum : slots = cnt + (slotCount cfg (room - k) (bs.drop k) (room - k) + 1) := hslots
      obtain ⟨e, hpeek⟩ := queueFilePeekElement_room h hsize hword hskip hslot
      have hlt : cnt < slots := by omega
      rw [queuePeekBatchLoop, if_pos hlt, hpeek]
      cases helem : fileElem cfg bs room with
      | none => rfl
      | some x =>
        have hlater := ih (skipSlots_succ hskip hslot) (by omega)
        dsimp only
        rw [hlater]

/-- What a peek returns, and that it changes nothing. -/
theorem queuePeekBatch_rows (h : d.flash.Sound) (hsize : 0 < cfg.elementSize)
    (hword : d.q.fileSize ≤ uint32Max) (hin : d.q.InRange cfg) {max : Nat} (hmax : 0 < max) :
    queuePeekBatch cfg d max =
      let rows := peekRows cfg (d.q.ringRows cfg) max (unreadBytes cfg d) (unreadRoom cfg d)
      ((if rows.length = 0 then .notFound else .success, rows), d) := by
  have hindices : d.q.badIndices cfg = false := by
    simp [Queue.badIndices, hin.head_lt, hin.tail_lt]
  unfold queuePeekBatch
  rw [if_neg (by omega), hindices, if_neg Bool.false_ne_true, queueFileSlots_room h hsize]
  have hstart : skipSlots cfg 0 (unreadBytes cfg d) (unreadRoom cfg d) = some _ := rfl
  have hloop := queuePeekBatchLoop_rows h hsize hword hstart (Nat.zero_add _).symm
    (min max (slotCount cfg (unreadRoom cfg d) (unreadBytes cfg d) (unreadRoom cfg d) +
      d.q.count))
  have hmin : peekRows cfg _ _ (unreadBytes cfg d) (unreadRoom cfg d) = _ :=
    peekRows_min hsize (d.q.ringRows cfg) max
  rw [length_ringRows] at hmin
  rw [hmin] at hloop
  dsimp only
  by_cases hnone : slotCount cfg (unreadRoom cfg d) (unreadBytes cfg d) (unreadRoom cfg d) +
      d.q.count = 0
  · rw [hnone, Nat.min_zero] at hmin
    rw [if_pos hnone, ← hmin]
    rfl
  · rw [if_neg hnone, hloop]
    split <;> rfl

theorem queuePop_rows (h : d.flash.Sound) (hsize : 0 < cfg.elementSize) (hin : d.q.InRange cfg)
    {max : Nat} (hmax : 0 < max) :
    (queuePop cfg d max).1 =
      let rows := popRows cfg (d.q.ringRows cfg) max (unreadBytes cfg d) (unreadRoom cfg d)
      (if rows.length = 0 then .notFound else .success, rows) := by
  have hindices : d.q.badIndices cfg = false := by
    simp [Queue.badIndices, hin.head_lt, hin.tail_lt]
  unfold queuePop
  rw [if_neg (by omega), hindices, if_neg Bool.false_ne_true]
  dsimp only
  rw [← queuePopLoop_rows h hsize hin.head_lt]
  split <;> rfl

/-- On a flash where nothing fails, a peek returns what a pop of as many rows would return, and
leaves the queue alone, exactly if the count keeps up with the reader along these rows. -/
theorem peek_eq_pop_iff (cfg : QueueConfig α) (d : Device α) (h : d.flash.Sound)
    (hsize : 0 < cfg.elementSize) (hword : d.q.fileSize ≤ uint32Max) (hin : d.q.InRange cfg)
    {max : Nat} (hmax : 0 < max) :
    ((queuePeekBatch cfg d max).1 = (queuePop cfg d max).1 ∧
        (queuePeekBatch cfg d max).2.q = d.q) ↔
      CountKeepsUp cfg (d.q.ringRows cfg) max (unreadBytes cfg d) (unreadRoom cfg d) := by
  rw [queuePeekBatch_rows h hsize hword hin hmax, queuePop_rows h hsize hin hmax,
    ← peekRows_eq_popRows_iff hsize, and_iff_left rfl]
  constructor
  · intro hsame
    exact congrArg Prod.snd hsame
  · intro hrows
    dsimp only
    rw [hrows]

end Device

/-! ## A torn record -/

/-- A send queue with some bytes in its overflow file and one row in its ring. -/
def rowBehindFile (bytes : List Byte) : Device ModuleMessage where
  flash := ⟨fun path => if path = overflowFile tcpSendQueueConfig then some bytes else none, []⟩
  sDisk := diskInitEmpty
  cacheHave := false
  q := ⟨0, 1, 1, fun _ => .ofPayload .gps .tcp [0x57, 0x45, 0x49], bytes.length, 0⟩

theorem inRange_rowBehindFile (bytes : List Byte) :
    (rowBehindFile bytes).q.InRange tcpSendQueueConfig :=
  ⟨(by decide : 0 < 7), (by decide : 1 < 7), (by decide : 1 ≤ 7)⟩

/-- Behind a whole record the row of the ring is peeked at and popped. -/
theorem peek_eq_pop_whole_record :
    (queuePeekBatch tcpSendQueueConfig (rowBehindFile [3, 0, 38, 0x57, 0x45, 38]) 2).1 =
      (queuePop tcpSendQueueConfig (rowBehindFile [3, 0, 38, 0x57, 0x45, 38]) 2).1 :=
  ((peek_eq_pop_iff tcpSendQueueConfig (rowBehindFile [3, 0, 38, 0x57, 0x45, 38]) rfl (by decide)
    (by decide) (inRange_rowBehindFile _) (by decide)).mpr (by decide +kernel)).1

/-- Behind a torn record the peek takes the row of the ring, and the pop returns nothing. -/
theorem peek_passes_torn_record :
    (¬ ∀ d : Device ModuleMessage, d.flash.Sound → d.q.InRange tcpSendQueueConfig →
      ∀ max, 0 < max →
        (queuePeekBatch tcpSendQueueConfig d max).1 = (queuePop tcpSendQueueConfig d max).1) ∧
    (queuePeekBatch tcpSendQueueConfig (rowBehindFile [3]) 1).1 =
      (.success, [.ofPayload .gps .tcp [0x57, 0x45, 0x49]]) ∧
    (queuePop tcpSendQueueConfig (rowBehindFile [3]) 1).1 = (.notFound, []) := by
  have hpeek : (queuePeekBatch tcpSendQueueConfig (rowBehindFile [3]) 1).1 =
      (.success, [.ofPayload .gps .tcp [0x57, 0x45, 0x49]]) := by decide +kernel
  have hpop : (queuePop tcpSendQueueConfig (rowBehindFile [3]) 1).1 = (.notFound, []) := by
    decide +kernel
  refine ⟨fun hall => ?_, hpeek, hpop⟩
  have hsame := hall (rowBehindFile [3]) rfl (inRange_rowBehindFile _) 1 (by decide)
  rw [hpeek, hpop] at hsame
  exact absurd (congrArg Prod.fst hsame) (by decide)

end WalnutGateway
