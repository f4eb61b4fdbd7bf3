import WalnutGateway.Queue.Operations

/-!
# What a queue stands for

The logical content of a queue is its unread overflow records followed by the
rows of its ring. Three invariants relate the fields in RAM to flash: `StoreOk`
knows the size of the file and where reading stands, `UnreadInv` also that the
file is whole records from there on, `QueueInv` that it is whole records up to
there. Each operation is described once, on a flash where nothing fails, by the
state it leaves.
-/

namespace WalnutGateway

variable {α : Type}

/-! ## Rows and their content -/

/-- What a queue promises to keep of a row: payload and length in the TCP send
queue, the whole element elsewhere. -/
inductive RowKey (α : Type)
  | message (payload : List Byte) (dataLen : Nat)
  | raw (elem : α)
  deriving DecidableEq

/-- The kept part of a row. -/
def rowKey (cfg : QueueConfig α) (x : α) : RowKey α :=
  if queueIsTcpSendQ cfg then
    .message (cfg.element.asMessage x).payload (cfg.element.asMessage x).dataLen
  else .raw x

/-- The row is not longer than what the reader of compact records takes. -/
def ShortRow (cfg : QueueConfig α) (x : α) : Prop :=
  queueIsTcpSendQ cfg = true → (cfg.element.asMessage x).dataLen ≤ moduleMessageInlineSize

instance (cfg : QueueConfig α) (x : α) : Decidable (ShortRow cfg x) :=
  inferInstanceAs (Decidable (_ → _))

/-- The records of the overflow file from the read offset on. -/
def unreadRecords (cfg : QueueConfig α) (d : Device α) : List α :=
  (queueFraming cfg).parse ((d.overflowBytes cfg).drop d.q.fileReadOffset)

/-- The unread records, then the ring. -/
def logicalContent (cfg : QueueConfig α) (d : Device α) : List α :=
  unreadRecords cfg d ++ d.q.ringRows cfg

/-- The content by what the queue promises to keep. -/
def contentKeys (cfg : QueueConfig α) (d : Device α) : List (RowKey α) :=
  (logicalContent cfg d).map (rowKey cfg)

/-- The record of a short row is read back as a row that is the same to the queue. -/
theorem queueRecord_next {cfg : QueueConfig α} (hcfg : cfg.WellFormed) {x : α}
    {record : List Byte} (h : queueRecord cfg x = some record) (hshort : ShortRow cfg x) :
    ∃ y, (queueFraming cfg).next record = some (y, record.length) ∧
      rowKey cfg y = rowKey cfg x := by
  unfold queueRecord at h
  cases htcp : queueIsTcpSendQ cfg with
  | true =>
    rw [if_pos htcp] at h
    have hfit := hshort htcp
    obtain ⟨type, hnext⟩ := compactNext_compactEncode h hfit
    have hlen : (cfg.element.asMessage x).payload.length ≤ moduleMessageInlineSize := by
      rwa [ModuleMessage.length_payload]
    refine ⟨cfg.element.ofMessage
      (.ofPayload (queueTcpTypeToSourceModule type) .tcp (cfg.element.asMessage x).payload), ?_, ?_⟩
    · rw [queueFraming_of_tcp htcp]
      simp only [messageFraming, hnext, Option.map_some]
    · rw [rowKey, rowKey, if_pos htcp, if_pos htcp, hcfg.message htcp,
        ModuleMessage.payload_ofPayload _ _ hlen]
      simp only [ModuleMessage.ofPayload, ModuleMessage.length_payload]
  | false =>
    rw [if_neg (by simp [htcp])] at h
    cases h
    have hl := cfg.element.length_image x
    refine ⟨x, ?_, rfl⟩
    have hraw : queueFraming cfg = rawFraming cfg := by simp [queueFraming, htcp]
    have hpos := hcfg.size_pos
    rw [hraw]
    simp only [rawFraming, rawNext, hl, QueueConfig.elementSize]
    rw [if_neg (by simp [QueueConfig.elementSize] at hpos; omega),
      List.take_of_length_le (by omega), cfg.element.ofImage_image x (hcfg.plain htcp x)]

/-! ## Invariants -/

/-- Nothing fails, the ring is a window, and RAM knows the size of the file and
a place in it where reading goes on. -/
structure StoreOk (cfg : QueueConfig α) (d : Device α) : Prop where
  sound : d.flash.Sound
  ring : d.q.RingOk cfg
  size_eq : (d.overflowBytes cfg).length = d.q.fileSize
  read_lt : d.q.fileReadOffset < d.q.fileSize ∨ (d.q.fileReadOffset = 0 ∧ d.q.fileSize = 0)

/-- What is left to read is whole records. -/
structure UnreadInv (cfg : QueueConfig α) (d : Device α) : Prop extends StoreOk cfg d where
  unread : ∃ rs, (queueFraming cfg).Framed ((d.overflowBytes cfg).drop d.q.fileReadOffset) rs

/-- What was read already is whole records. -/
def DoneOk (cfg : QueueConfig α) (d : Device α) : Prop :=
  ∃ rs, (queueFraming cfg).Framed ((d.overflowBytes cfg).take d.q.fileReadOffset) rs

/-- The representation invariant: the file is whole records, and reading stands
between two of them. -/
structure QueueInv (cfg : QueueConfig α) (d : Device α) : Prop extends UnreadInv cfg d where
  done : DoneOk cfg d

theorem StoreOk.read_le {cfg : QueueConfig α} {d : Device α} (h : StoreOk cfg d) :
    d.q.fileReadOffset ≤ d.q.fileSize := by
  have := h.read_lt
  omega

/-- A record takes up room. -/
theorem queueRecord_length_pos {cfg : QueueConfig α} (hcfg : cfg.WellFormed) {x : α}
    {record : List Byte} (h : queueRecord cfg x = some record) : 0 < record.length := by
  unfold queueRecord at h
  split at h
  · rw [length_of_compactEncode h]
    omega
  · cases h
    rw [cfg.element.length_image]
    exact hcfg.size_pos

section Fields

variable {cfg : QueueConfig α} {d : Device α}

/-- Ring fields may move freely inside a window. -/
theorem StoreOk.withQueue (h : StoreOk cfg d) {q : Queue α} (hq : q.RingOk cfg)
    (hsize : q.fileSize = d.q.fileSize) (hoff : q.fileReadOffset = d.q.fileReadOffset) :
    StoreOk cfg { d with q := q } where
  sound := h.sound
  ring := hq
  size_eq := h.size_eq.trans hsize.symm
  read_lt := by rw [hsize, hoff]; exact h.read_lt

theorem UnreadInv.withQueue (h : UnreadInv cfg d) {q : Queue α} (hq : q.RingOk cfg)
    (hsize : q.fileSize = d.q.fileSize) (hoff : q.fileReadOffset = d.q.fileReadOffset) :
    UnreadInv cfg { d with q := q } where
  toStoreOk := h.toStoreOk.withQueue hq hsize hoff
  unread := by
    change ∃ rs, (queueFraming cfg).Framed ((d.overflowBytes cfg).drop q.fileReadOffset) rs
    rw [hoff]
    exact h.unread

theorem DoneOk.withQueue (h : DoneOk cfg d) {q : Queue α}
    (hoff : q.fileReadOffset = d.q.fileReadOffset) : DoneOk cfg { d with q := q } := by
  change ∃ rs, (queueFraming cfg).Framed ((d.overflowBytes cfg).take q.fileReadOffset) rs
  rw [hoff]
  exact h

theorem QueueInv.withQueue (h : QueueInv cfg d) {q : Queue α} (hq : q.RingOk cfg)
    (hsize : q.fileSize = d.q.fileSize) (hoff : q.fileReadOffset = d.q.fileReadOffset) :
    QueueInv cfg { d with q := q } :=
  ⟨h.toUnreadInv.withQueue hq hsize hoff, h.done.withQueue hoff⟩

/-- Nothing was read of a file that is read from its start. -/
theorem DoneOk.of_start (hoff : d.q.fileReadOffset = 0) : DoneOk cfg d := by
  refine ⟨[], ?_⟩
  rw [hoff, List.take_zero]
  exact Framing.Framed.nil

theorem logicalContent_withQueue (d : Device α) {q : Queue α}
    (hoff : q.fileReadOffset = d.q.fileReadOffset) :
    logicalContent cfg { d with q := q } = unreadRecords cfg d ++ q.ringRows cfg := by
  change (queueFraming cfg).parse ((d.overflowBytes cfg).drop q.fileReadOffset) ++ _ = _
  rw [hoff, unreadRecords]

/-- The content, given the unread records. -/
theorem logicalContent_of_framed {rs : List α}
    (h : (queueFraming cfg).Framed ((d.overflowBytes cfg).drop d.q.fileReadOffset) rs) :
    logicalContent cfg d = rs ++ d.q.ringRows cfg := by
  rw [logicalContent, unreadRecords, h.parse_eq]

/-- Nothing is unread behind the end of the file. -/
theorem unreadRecords_of_empty (h : StoreOk cfg d) (he : d.q.fileSize ≤ d.q.fileReadOffset) :
    unreadRecords cfg d = [] := by
  have hnil : (d.overflowBytes cfg).drop d.q.fileReadOffset = [] :=
    List.drop_eq_nil_iff.mpr (by rw [h.size_eq]; exact he)
  rw [unreadRecords, hnil, Framing.parse_nil]

end Fields

/-! ## Pushing -/

/-- The device a refused append leaves: untouched, unless only the type of the
row was wrong. -/
def Device.refused (cfg : QueueConfig α) (d : Device α) (x : α) : Device α :=
  match queueFileRecordSize cfg x with
  | none => d
  | some n => (queueFileMakeRoom cfg d n).reopened cfg

/-- The device after the record of the oldest row was written. -/
def Device.recorded (cfg : QueueConfig α) (d : Device α) (record : List Byte) : Device α :=
  if d.Fits cfg record then d.appended cfg record else d.restarted cfg record

/-- A push that finds the ring full would delete an overflow file. -/
def PushClears (cfg : QueueConfig α) (d : Device α) : Prop :=
  cfg.capacity ≤ d.q.count ∧
    ∃ n ∈ queueFileRecordSize cfg (d.q.buffer d.q.head), cfg.maxFileSize < d.q.fileSize + n

instance (cfg : QueueConfig α) (d : Device α) : Decidable (PushClears cfg d) :=
  inferInstanceAs (Decidable (_ ∧ _))

/-- A push that finds the ring full would delete records that were not read. -/
def PushClearsUnread (cfg : QueueConfig α) (d : Device α) : Prop :=
  d.q.fileReadOffset < d.q.fileSize ∧ PushClears cfg d

instance (cfg : QueueConfig α) (d : Device α) : Decidable (PushClearsUnread cfg d) :=
  inferInstanceAs (Decidable (_ ∧ _))

section Pushing

variable {cfg : QueueConfig α} {d : Device α}

theorem recorded_ring (cfg : QueueConfig α) (d : Device α) (record : List Byte) :
    (d.recorded cfg record).q.buffer = d.q.buffer ∧ (d.recorded cfg record).q.head = d.q.head ∧
      (d.recorded cfg record).q.tail = d.q.tail ∧ (d.recorded cfg record).q.count = d.q.count := by
  unfold Device.recorded
  split <;> exact ⟨rfl, rfl, rfl, rfl⟩

/-- Writing a record leaves the ring alone. -/
theorem recorded_ringOk (h : d.q.RingOk cfg) (record : List Byte) :
    (d.recorded cfg record).q.RingOk cfg ∧
      (d.recorded cfg record).q.ringRows cfg = d.q.ringRows cfg := by
  obtain ⟨hb, hh, ht, hc⟩ := recorded_ring cfg d record
  refine ⟨⟨by rw [hh]; exact h.head_lt, by rw [hh, ht, hc]; exact h.tail_eq,
    by rw [hc]; exact h.count_le⟩, ?_⟩
  rw [Queue.ringRows, hb, hh, hc, Queue.ringRows]

theorem overflowBytes_recorded (cfg : QueueConfig α) (d : Device α) (record : List Byte) :
    (d.recorded cfg record).overflowBytes cfg =
      if d.Fits cfg record then d.overflowBytes cfg ++ record else record := by
  unfold Device.recorded
  split <;> exact Flash.contents_put ..

theorem StoreOk.recorded (h : StoreOk cfg d) {record : List Byte} (hpos : 0 < record.length) :
    StoreOk cfg (d.recorded cfg record) := by
  have hbytes := overflowBytes_recorded cfg d record
  have hsize := h.size_eq
  have hread := h.read_lt
  have hring := (recorded_ringOk h.ring record).1
  unfold Device.recorded at hbytes hring ⊢
  by_cases hfit : d.Fits cfg record
  · rw [if_pos hfit] at hbytes hring ⊢
    rw [if_pos hfit] at hbytes
    refine ⟨h.sound.put _ _, hring, ?_, ?_⟩
    · rw [hbytes, List.length_append, hsize]
      rfl
    · change d.q.fileReadOffset < d.q.fileSize + record.length ∨ _
      omega
  · rw [if_neg hfit] at hbytes hring ⊢
    rw [if_neg hfit] at hbytes
    exact ⟨h.sound.put _ _, hring, by rw [hbytes]; rfl, Or.inl hpos⟩

/-- A record that reads back keeps the file framed, and joins the unread ones
unless these had to go. -/
theorem UnreadInv.recorded (h : UnreadInv cfg d) {record : List Byte} {y : α}
    (hy : (queueFraming cfg).next record = some (y, record.length)) :
    UnreadInv cfg (d.recorded cfg record) ∧
      unreadRecords cfg (d.recorded cfg record) =
        (if d.Fits cfg record then unreadRecords cfg d else []) ++ [y] := by
  have hstore := h.toStoreOk.recorded ((queueFraming cfg).next_pos hy).1
  have hbytes := overflowBytes_recorded cfg d record
  obtain ⟨unread, hunread⟩ := h.unread
  have hone := Framing.Framed.singleton hy
  have hle := h.read_le
  rw [← h.size_eq] at hle
  by_cases hfit : d.Fits cfg record
  · have hoff : (d.recorded cfg record).q.fileReadOffset = d.q.fileReadOffset := by
      rw [Device.recorded, if_pos hfit]
      rfl
    rw [if_pos hfit] at hbytes ⊢
    have hdrop : ((d.recorded cfg record).overflowBytes cfg).drop
        (d.recorded cfg record).q.fileReadOffset =
          (d.overflowBytes cfg).drop d.q.fileReadOffset ++ record := by
      rw [hbytes, hoff, List.drop_append_of_le_length hle]
    refine ⟨⟨hstore, ⟨unread ++ [y], ?_⟩⟩, ?_⟩
    · rw [hdrop]
      exact hunread.append hone
    · rw [unreadRecords, hdrop, (hunread.append hone).parse_eq, unreadRecords, hunread.parse_eq]
  · have hoff : (d.recorded cfg record).q.fileReadOffset = 0 := by
      rw [Device.recorded, if_neg hfit]
      rfl
    rw [if_neg hfit] at hbytes ⊢
    refine ⟨⟨hstore, ⟨[y], ?_⟩⟩, ?_⟩
    · rwa [hbytes, hoff, List.drop_zero]
    · rw [unreadRecords, hbytes, hoff, List.drop_zero, hone.parse_eq, List.nil_append]

/-- A record is written behind what was read, or into a new file. -/
theorem DoneOk.recorded (h : DoneOk cfg d) (hd : StoreOk cfg d) (record : List Byte) :
    DoneOk cfg (d.recorded cfg record) := by
  have hbytes := overflowBytes_recorded cfg d record
  by_cases hfit : d.Fits cfg record
  · have hoff : (d.recorded cfg record).q.fileReadOffset = d.q.fileReadOffset := by
      rw [Device.recorded, if_pos hfit]
      rfl
    have hle : d.q.fileReadOffset ≤ (d.overflowBytes cfg).length := by
      rw [hd.size_eq]
      exact hd.read_le
    rw [if_pos hfit] at hbytes
    rw [DoneOk, hbytes, hoff, List.take_append_of_le_length hle]
    exact h
  · refine .of_start ?_
    rw [Device.recorded, if_neg hfit]
    rfl

/-- Opening the file for appending changes nothing that counts. -/
theorem StoreOk.reopened (h : StoreOk cfg d) : StoreOk cfg (d.reopened cfg) where
  sound := h.sound.put _ _
  ring := h.ring
  size_eq := (congrArg List.length (Flash.contents_put ..)).trans h.size_eq
  read_lt := h.read_lt

theorem overflowBytes_reopened (cfg : QueueConfig α) (d : Device α) :
    (d.reopened cfg).overflowBytes cfg = d.overflowBytes cfg := Flash.contents_put ..

theorem UnreadInv.reopened (h : UnreadInv cfg d) : UnreadInv cfg (d.reopened cfg) where
  toStoreOk := h.toStoreOk.reopened
  unread := by rw [overflowBytes_reopened]; exact h.unread

theorem DoneOk.reopened (h : DoneOk cfg d) : DoneOk cfg (d.reopened cfg) := by
  rw [DoneOk, overflowBytes_reopened]
  exact h

theorem StoreOk.drained (h : StoreOk cfg d) : StoreOk cfg (d.drained cfg) where
  sound := h.sound.erase _
  ring := ⟨h.ring.head_lt, h.ring.tail_eq, h.ring.count_le⟩
  size_eq := congrArg List.length (Flash.contents_erase ..)
  read_lt := Or.inr ⟨rfl, rfl⟩

theorem overflowBytes_drained (cfg : QueueConfig α) (d : Device α) :
    (d.drained cfg).overflowBytes cfg = [] := Flash.contents_erase ..

/-- Without a file the invariant is about the ring. -/
theorem UnreadInv.drained (h : StoreOk cfg d) : UnreadInv cfg (d.drained cfg) where
  toStoreOk := h.drained
  unread := ⟨[], by rw [overflowBytes_drained]; exact Framing.Framed.nil⟩

theorem unreadRecords_drained (cfg : QueueConfig α) (d : Device α) :
    unreadRecords cfg (d.drained cfg) = [] := by
  rw [unreadRecords, overflowBytes_drained]
  rfl

/-- A refused append leaves the file as it was, unless it made room first. -/
theorem refused_cases (hmax : cfg.maxFileSize ≤ uint32Max) (hs : d.flash.Sound) (x : α) :
    d.refused cfg x = d ∨ d.refused cfg x = d.reopened cfg ∨
      (d.refused cfg x = (d.drained cfg).reopened cfg ∧
        ∃ n ∈ queueFileRecordSize cfg x, cfg.maxFileSize < d.q.fileSize + n) := by
  unfold Device.refused
  cases hn : queueFileRecordSize cfg x with
  | none => exact Or.inl rfl
  | some n =>
    by_cases hfit : d.q.fileSize + n ≤ cfg.maxFileSize
    · exact Or.inr (Or.inl (by simp only [queueFileMakeRoom_of_fits hmax hfit]))
    · refine Or.inr (Or.inr ⟨by simp only [queueFileMakeRoom_of_not_fits hs hfit], n, rfl, ?_⟩)
      omega

/-- All a push can do when no call fails. -/
theorem queuePush_sound (hcfg : cfg.WellFormed)
    (h : d.q.RingOk cfg) (hs : d.flash.Sound) (data : α) :
    queuePush cfg d data =
      if d.q.count < cfg.capacity then (.success, { d with q := d.q.storeTail cfg data }) else
      match queueRecord cfg (d.q.buffer d.q.head) with
      | none => (.error, d.refused cfg (d.q.buffer d.q.head))
      | some record => (.success, { d.recorded cfg record with
          q := ((d.recorded cfg record).q.dropHead cfg).storeTail cfg data }) := by
  obtain ⟨hroom, hpush⟩ | ⟨hfull, r, d', ha, hcase⟩ := queuePush_cases h hcfg.hasFile data
  · rw [hpush, if_pos hroom]
  · rw [if_neg (by omega)]
    cases hrec : queueRecord cfg (d.q.buffer d.q.head) with
    | none =>
      rw [queueFileAppend_of_no_record hs hcfg.hasFile hrec, Prod.mk.injEq] at ha
      obtain ⟨rfl, rfl⟩ := ha
      obtain ⟨-, hpush⟩ | ⟨habs, -⟩ := hcase
      · exact hpush
      · contradiction
    | some record =>
      rw [queueFileAppend_of_record hs hcfg.hasFile hcfg.file_le hrec, Prod.mk.injEq] at ha
      obtain ⟨rfl, rfl⟩ := ha
      obtain ⟨habs, -⟩ | ⟨-, hpush⟩ := hcase
      · exact absurd rfl habs
      · exact hpush

/-- Ring and file keep their shape whatever is pushed. -/
theorem StoreOk.push (hcfg : cfg.WellFormed) (h : StoreOk cfg d) (data : α) :
    StoreOk cfg (queuePush cfg d data).2 := by
  rw [queuePush_sound hcfg h.ring h.sound]
  split
  · exact h.withQueue (h.ring.storeTail ‹_› data) rfl rfl
  · rename_i hfull
    have hpos : 0 < d.q.count := by
      have := hcfg.capacity_pos
      omega
    cases hrec : queueRecord cfg (d.q.buffer d.q.head) with
    | none =>
      obtain he | he | ⟨he, -⟩ := refused_cases hcfg.file_le h.sound (d.q.buffer d.q.head)
      · simp only [he]
        exact h
      · simp only [he]
        exact h.reopened
      · simp only [he]
        exact h.drained.reopened
    | some record =>
      have hr := h.recorded (queueRecord_length_pos hcfg hrec)
      have hcount := (recorded_ring cfg d record).2.2.2
      exact hr.withQueue (ringRows_storeTail_dropHead hr.ring (by omega) data).1 rfl rfl

/-- Without loss of unread records a push appends its row, or nothing if it fails. -/
theorem UnreadInv.push (hcfg : cfg.WellFormed) (h : UnreadInv cfg d)
    (hhead : cfg.capacity ≤ d.q.count → ShortRow cfg (d.q.buffer d.q.head)) (data : α) :
    UnreadInv cfg (queuePush cfg d data).2 ∧
      (¬ PushClearsUnread cfg d →
        contentKeys cfg (queuePush cfg d data).2 = contentKeys cfg d ++
          if (queuePush cfg d data).1 = .success then [rowKey cfg data] else []) := by
  rw [queuePush_sound hcfg h.ring h.sound]
  split
  · rename_i hroom
    refine ⟨h.withQueue (h.ring.storeTail hroom data) rfl rfl, fun _ => ?_⟩
    simp only [contentKeys, logicalContent_withQueue d (q := d.q.storeTail cfg data) rfl, if_true]
    rw [ringRows_storeTail h.ring hroom, ← List.append_assoc, List.map_append, logicalContent,
      List.map_singleton]
  · rename_i hfull
    have hpos : 0 < d.q.count := by
      have := hcfg.capacity_pos
      omega
    have hempty (hclear : ¬ PushClearsUnread cfg d) {n : Nat}
        (hn : n ∈ queueFileRecordSize cfg (d.q.buffer d.q.head))
        (hbig : cfg.maxFileSize < d.q.fileSize + n) : unreadRecords cfg d = [] := by
      refine unreadRecords_of_empty h.toStoreOk ?_
      by_contra hlt
      exact hclear ⟨by omega, by omega, n, hn, hbig⟩
    cases hrec : queueRecord cfg (d.q.buffer d.q.head) with
    | none =>
      simp only [reduceCtorEq, if_false, List.append_nil]
      obtain he | he | ⟨he, n, hn, hbig⟩ :=
        refused_cases hcfg.file_le h.sound (d.q.buffer d.q.head)
      · rw [he]
        exact ⟨h, fun _ => rfl⟩
      · rw [he]
        refine ⟨h.reopened, fun _ => ?_⟩
        rw [contentKeys, logicalContent, unreadRecords, overflowBytes_reopened]
        rfl
      · rw [he]
        refine ⟨(UnreadInv.drained h.toStoreOk).reopened, fun hclear => ?_⟩
        rw [contentKeys, contentKeys, logicalContent, logicalContent, hempty hclear hn hbig,
          unreadRecords, overflowBytes_reopened, overflowBytes_drained]
        rfl
    | some record =>
      obtain ⟨y, hy, hkey⟩ := queueRecord_next hcfg hrec (hhead (by omega))
      obtain ⟨hinv, hunread⟩ := h.recorded hy
      obtain ⟨hring, hrows⟩ := recorded_ringOk h.ring record
      obtain ⟨hb, hh, -, hcount⟩ := recorded_ring cfg d record
      obtain ⟨hring', hrows'⟩ := ringRows_storeTail_dropHead hring (by omega) data
      rw [hrows, hb, hh] at hrows'
      refine ⟨hinv.withQueue hring' rfl rfl, fun hclear => ?_⟩
      have hkeep : (if d.Fits cfg record then unreadRecords cfg d else []) =
          unreadRecords cfg d := by
        split
        · rfl
        · rename_i hfit
          exact (hempty hclear (queueFileRecordSize_of_record hrec) (Nat.lt_of_not_le hfit)).symm
      have hkeys := congrArg (List.map (rowKey cfg)) hrows'
      rw [List.map_cons, List.map_append, ← hkey, ← List.map_cons, ← List.singleton_append] at hkeys
      simp only [contentKeys, if_true,
        logicalContent_withQueue (d.recorded cfg record)
          (q := ((d.recorded cfg record).q.dropHead cfg).storeTail cfg data) rfl]
      rw [hunread, hkeep, List.append_assoc, List.map_append, hkeys, logicalContent,
        List.map_append, List.append_assoc, List.map_singleton]

/-- A push writes behind what was read. -/
theorem DoneOk.push (hcfg : cfg.WellFormed) (h : DoneOk cfg d) (hd : StoreOk cfg d) (data : α) :
    DoneOk cfg (queuePush cfg d data).2 := by
  rw [queuePush_sound hcfg hd.ring hd.sound]
  split
  · exact h.withQueue rfl
  · cases queueRecord cfg (d.q.buffer d.q.head) with
    | none =>
      obtain he | he | ⟨he, -⟩ := refused_cases hcfg.file_le hd.sound (d.q.buffer d.q.head)
      · rwa [he]
      · rw [he]
        exact h.reopened
      · rw [he]
        exact .of_start rfl
    | some record => exact (h.recorded hd record).withQueue rfl

/-- The whole invariant survives a push. -/
theorem QueueInv.push (hcfg : cfg.WellFormed) (h : QueueInv cfg d)
    (hhead : cfg.capacity ≤ d.q.count → ShortRow cfg (d.q.buffer d.q.head)) (data : α) :
    QueueInv cfg (queuePush cfg d data).2 ∧
      (¬ PushClearsUnread cfg d →
        contentKeys cfg (queuePush cfg d data).2 = contentKeys cfg d ++
          if (queuePush cfg d data).1 = .success then [rowKey cfg data] else []) :=
  have hpush := h.toUnreadInv.push hcfg hhead data
  ⟨⟨hpush.1, h.done.push hcfg h.toStoreOk data⟩, hpush.2⟩

/-- A push succeeds unless it has to move a row without a record. -/
theorem queuePush_eq_success_iff (hcfg : cfg.WellFormed) (h : d.q.RingOk cfg)
    (hs : d.flash.Sound) (data : α) :
    (queuePush cfg d data).1 = .success ↔
      (cfg.capacity ≤ d.q.count → (queueRecord cfg (d.q.buffer d.q.head)).isSome) := by
  rw [queuePush_sound hcfg h hs]
  split
  · exact iff_of_true rfl fun hge => absurd hge (by omega)
  · rename_i hfull
    cases hrec : queueRecord cfg (d.q.buffer d.q.head) with
    | none => exact iff_of_false Result.noConfusion fun hs => Bool.noConfusion (hs (by omega))
    | some record => exact iff_of_true rfl fun _ => rfl

/-- A push brings only its own row into the ring. -/
theorem mem_ringRows_push (hcfg : cfg.WellFormed) (h : d.q.RingOk cfg) (hs : d.flash.Sound)
    {data x : α} (hx : x ∈ (queuePush cfg d data).2.q.ringRows cfg) :
    x ∈ d.q.ringRows cfg ∨ x = data := by
  rw [queuePush_sound hcfg h hs] at hx
  split at hx
  · rw [ringRows_storeTail h ‹_›, List.mem_append, List.mem_singleton] at hx
    exact hx
  · rename_i hfull
    have hpos : 0 < d.q.count := by
      have := hcfg.capacity_pos
      omega
    cases hrec : queueRecord cfg (d.q.buffer d.q.head) with
    | none =>
      simp only [hrec] at hx
      obtain he | he | ⟨he, -⟩ := refused_cases hcfg.file_le hs (d.q.buffer d.q.head)
      · exact Or.inl (by rwa [he] at hx)
      · exact Or.inl (by rwa [he] at hx)
      · exact Or.inl (by rwa [he] at hx)
    | some record =>
      simp only [hrec] at hx
      obtain ⟨hring, hrows⟩ := recorded_ringOk h record
      obtain ⟨hb, hh, -, hcount⟩ := recorded_ring cfg d record
      obtain ⟨-, hrows'⟩ := ringRows_storeTail_dropHead hring (by omega) data
      have hmem := List.mem_cons_of_mem ((d.recorded cfg record).q.buffer
        (d.recorded cfg record).q.head) hx
      rw [hrows', hrows, List.mem_append, List.mem_singleton] at hmem
      exact hmem

end Pushing

/-! ## Popping -/

section Popping

variable {cfg : QueueConfig α} {d : Device α}

/-- A record was read and the file goes on. -/
theorem StoreOk.advanced (h : StoreOk cfg d) {n : Nat}
    (hn : d.q.fileReadOffset + n < d.q.fileSize) : StoreOk cfg (d.advanced n) where
  sound := h.sound
  ring := ⟨h.ring.head_lt, h.ring.tail_eq, h.ring.count_le⟩
  size_eq := h.size_eq
  read_lt := Or.inl hn

/-- All one turn of a pop can do when no call fails. -/
theorem queuePopOne_sound (hcfg : cfg.WellFormed) (h : StoreOk cfg d) :
    queuePopOne cfg d =
      if d.q.fileReadOffset < d.q.fileSize then
        match (queueFraming cfg).next ((d.overflowBytes cfg).drop d.q.fileReadOffset) with
        | none => (.error .error, d)
        | some (x, n) => (.ok x,
            if d.q.fileSize ≤ d.q.fileReadOffset + n then d.drained cfg else d.advanced n)
      else if 0 < d.q.count then
        (.ok (d.q.buffer d.q.head), { d with q := d.q.dropHead cfg })
      else (.error .notFound, d) := by
  unfold queuePopOne
  by_cases hoff : d.q.fileReadOffset < d.q.fileSize
  · rewrite [if_pos ⟨hcfg.hasFile, hoff⟩, if_pos hoff,
      queueFileRead_sound h.sound hcfg h.size_eq hoff]
    cases (queueFraming cfg).next ((d.overflowBytes cfg).drop d.q.fileReadOffset) <;> rfl
  · rw [if_neg (fun hc => hoff hc.2), if_neg hoff, if_neg (not_le_of_gt h.ring.head_lt)]

/-- Ring and file keep their shape when a row is popped. -/
theorem StoreOk.popOne (hcfg : cfg.WellFormed) (h : StoreOk cfg d) :
    StoreOk cfg (queuePopOne cfg d).2 := by
  rw [queuePopOne_sound hcfg h]
  split
  · split
    · exact h
    · rename_i x n hnext
      dsimp only
      split
      · exact h.drained
      · exact h.advanced (by omega)
  · split
    · exact h.withQueue (h.ring.dropHead ‹_›) rfl rfl
    · exact h

theorem StoreOk.popLoop (hcfg : cfg.WellFormed) (n : Nat) {d : Device α} (h : StoreOk cfg d) :
    StoreOk cfg (queuePopLoop cfg n d).2 := by
  induction n generalizing d with
  | zero => exact h
  | succ n ih =>
    have h1 := h.popOne hcfg
    rw [queuePopLoop]
    cases hp : queuePopOne cfg d with
    | mk r d' =>
      rw [hp] at h1
      cases r with
      | error e => exact h1
      | ok x => exact ih h1

theorem StoreOk.pop (hcfg : cfg.WellFormed) (h : StoreOk cfg d) (max : Nat) :
    StoreOk cfg (queuePop cfg d max).2 := by
  have hl := StoreOk.popLoop hcfg max h
  unfold queuePop
  split
  · exact h
  · split
    · exact h
    · dsimp only
      split <;> exact hl

/-- A pop takes rows out of the ring, and brings none in. -/
theorem mem_ringRows_popOne (hcfg : cfg.WellFormed) (h : StoreOk cfg d) {x : α}
    (hx : x ∈ (queuePopOne cfg d).2.q.ringRows cfg) : x ∈ d.q.ringRows cfg := by
  rw [queuePopOne_sound hcfg h] at hx
  split at hx
  · split at hx
    · exact hx
    · dsimp only at hx
      split at hx <;> exact hx
  · split at hx
    · rw [ringRows_dropHead h.ring ‹_›]
      exact List.mem_cons_of_mem _ hx
    · exact hx

/-- A pop that finds rows returns the oldest. -/
theorem UnreadInv.popOne (hcfg : cfg.WellFormed) (h : UnreadInv cfg d) :
    (logicalContent cfg d = [] ∧ queuePopOne cfg d = (.error .notFound, d)) ∨
    ∃ x rest d', logicalContent cfg d = x :: rest ∧ queuePopOne cfg d = (.ok x, d') ∧
      UnreadInv cfg d' ∧ logicalContent cfg d' = rest := by
  obtain ⟨unread, hunread⟩ := h.unread
  have hcontent := logicalContent_of_framed hunread
  rw [queuePopOne_sound hcfg h.toStoreOk]
  by_cases hoff : d.q.fileReadOffset < d.q.fileSize
  · rw [if_pos hoff]
    cases unread with
    | nil =>
      have hnil := List.drop_eq_nil_iff.mp (hunread.eq_nil_iff.mp rfl)
      rw [h.size_eq] at hnil
      omega
    | cons x rs =>
      obtain ⟨n, hnext, hrest⟩ := hunread.cons_inv
      rw [List.drop_drop] at hrest
      have hroom := (queueFraming cfg).next_pos hnext
      rw [List.length_drop, h.size_eq] at hroom
      refine Or.inr ⟨x, rs ++ d.q.ringRows cfg, _, hcontent, by rw [hnext], ?_⟩
      by_cases hend : d.q.fileSize ≤ d.q.fileReadOffset + n
      · rw [if_pos hend]
        have hnil : rs = [] := hrest.eq_nil_iff.mpr
          (List.drop_eq_nil_iff.mpr (by rw [h.size_eq]; exact hend))
        refine ⟨UnreadInv.drained h.toStoreOk, ?_⟩
        rw [logicalContent, unreadRecords_drained, hnil]
        rfl
      · rw [if_neg hend]
        exact ⟨⟨h.toStoreOk.advanced (by omega), ⟨rs, hrest⟩⟩,
          logicalContent_of_framed (d := d.advanced n) hrest⟩
  · rw [if_neg hoff]
    have hnil : unread = [] := hunread.eq_nil_iff.mpr
      (List.drop_eq_nil_iff.mpr (by rw [h.size_eq]; omega))
    subst hnil
    rw [List.nil_append] at hcontent
    by_cases hc : 0 < d.q.count
    · rw [if_pos hc]
      refine Or.inr ⟨_, (d.q.dropHead cfg).ringRows cfg, _, ?_, rfl,
        h.withQueue (h.ring.dropHead hc) rfl rfl, ?_⟩
      · rw [hcontent]
        exact ringRows_dropHead h.ring hc
      · exact logicalContent_of_framed (d := { d with q := d.q.dropHead cfg }) hunread
    · rw [if_neg hc]
      refine Or.inl ⟨?_, rfl⟩
      rw [hcontent]
      exact List.eq_nil_of_length_eq_zero (by rw [length_ringRows]; omega)

/-- The loop takes rows from the front for as long as there are any. -/
theorem UnreadInv.popLoop (hcfg : cfg.WellFormed) (n : Nat) {d : Device α}
    (h : UnreadInv cfg d) :
    (queuePopLoop cfg n d).1 = (logicalContent cfg d).take n ∧
      UnreadInv cfg (queuePopLoop cfg n d).2 ∧
      logicalContent cfg (queuePopLoop cfg n d).2 = (logicalContent cfg d).drop n := by
  induction n generalizing d with
  | zero => exact ⟨rfl, h, rfl⟩
  | succ n ih =>
    rw [queuePopLoop]
    obtain ⟨hnil, hpop⟩ | ⟨x, rest, d', hcontent, hpop, hinv, hrest⟩ := h.popOne hcfg
    · rw [hpop, hnil]
      exact ⟨rfl, h, rfl⟩
    · obtain ⟨hrows, hinv', hdrop⟩ := ih hinv
      rw [hpop, hcontent]
      simp only [List.take_succ_cons, List.drop_succ_cons]
      rw [hrows, hdrop, hrest]
      exact ⟨rfl, hinv', rfl⟩

/-- A pop of up to `max` rows takes the first `max`. -/
theorem UnreadInv.pop (hcfg : cfg.WellFormed) (h : UnreadInv cfg d) {max : Nat}
    (hmax : 0 < max) :
    (queuePop cfg d max).1 =
      (if logicalContent cfg d = [] then .notFound else .success,
        (logicalContent cfg d).take max) ∧
      UnreadInv cfg (queuePop cfg d max).2 ∧
      logicalContent cfg (queuePop cfg d max).2 = (logicalContent cfg d).drop max := by
  obtain ⟨hrows, hinv, hdrop⟩ := h.popLoop hcfg max
  unfold queuePop
  rw [if_neg (by omega), if_neg (by simp [h.ring.not_badIndices])]
  dsimp only
  rw [hrows]
  have hempty : ((logicalContent cfg d).take max).length = 0 ↔ logicalContent cfg d = [] := by
    rw [List.length_eq_zero_iff, List.take_eq_nil_iff]
    exact or_iff_right (by omega)
  by_cases hnil : logicalContent cfg d = []
  · rw [if_pos (hempty.mpr hnil), if_pos hnil]
    exact ⟨rfl, hinv, hdrop⟩
  · rw [if_neg (mt hempty.mp hnil), if_neg hnil]
    exact ⟨rfl, hinv, hdrop⟩

/-- A record is read from its start to its end. -/
theorem DoneOk.popOne (hcfg : cfg.WellFormed) (h : DoneOk cfg d) (hd : StoreOk cfg d) :
    DoneOk cfg (queuePopOne cfg d).2 := by
  rw [queuePopOne_sound hcfg hd]
  split
  · split
    · exact h
    · rename_i x n hnext
      dsimp only
      split
      · exact .of_start rfl
      · obtain ⟨done, hdone⟩ := h
        exact ⟨_, hdone.boundary_next hnext⟩
  · split
    · exact h.withQueue rfl
    · exact h

theorem DoneOk.popLoop (hcfg : cfg.WellFormed) (n : Nat) {d : Device α} (h : DoneOk cfg d)
    (hd : StoreOk cfg d) : DoneOk cfg (queuePopLoop cfg n d).2 := by
  induction n generalizing d with
  | zero => exact h
  | succ n ih =>
    have h1 := h.popOne hcfg hd
    have hd1 := hd.popOne hcfg
    rw [queuePopLoop]
    cases hp : queuePopOne cfg d with
    | mk r d' =>
      rw [hp] at h1 hd1
      cases r with
      | error e => exact h1
      | ok x => exact ih h1 hd1

theorem DoneOk.pop (hcfg : cfg.WellFormed) (h : DoneOk cfg d) (hd : StoreOk cfg d) (max : Nat) :
    DoneOk cfg (queuePop cfg d max).2 := by
  have hl := h.popLoop hcfg max hd
  unfold queuePop
  split
  · exact h
  · split
    · exact h
    · dsimp only
      split <;> exact hl

/-- The whole invariant survives a pop. -/
theorem QueueInv.pop (hcfg : cfg.WellFormed) (h : QueueInv cfg d) {max : Nat} (hmax : 0 < max) :
    (queuePop cfg d max).1 =
      (if logicalContent cfg d = [] then .notFound else .success,
        (logicalContent cfg d).take max) ∧
      QueueInv cfg (queuePop cfg d max).2 ∧
      logicalContent cfg (queuePop cfg d max).2 = (logicalContent cfg d).drop max :=
  have hpop := h.toUnreadInv.pop hcfg hmax
  ⟨hpop.1, ⟨hpop.2.1, h.done.pop hcfg h.toStoreOk max⟩, hpop.2.2⟩

/-- The newest row is the one a tail pop takes, if it is still in the ring. -/
theorem QueueInv.popTail (h : QueueInv cfg d) (hc : 0 < d.q.count) :
    ∃ x d', queuePopTail cfg d = (.ok x, d') ∧ d' = { d with q := d.q.dropTail cfg } ∧
      QueueInv cfg d' ∧ logicalContent cfg d = logicalContent cfg d' ++ [x] := by
  refine ⟨d.q.buffer (d.q.lastIdx cfg), { d with q := d.q.dropTail cfg }, ?_, rfl,
    h.withQueue (h.ring.dropTail hc) rfl rfl, ?_⟩
  · rw [queuePopTail, if_neg (by omega), if_neg (not_le_of_gt h.ring.tail_lt)]
  · rw [logicalContent, ringRows_dropTail h.ring hc,
      logicalContent_withQueue d (q := d.q.dropTail cfg) rfl, List.append_assoc]

end Popping

/-! ## Peeking at the TCP send queue -/

section Peeking

variable {cfg : QueueConfig α} {d : Device α} {rs : List α}

/-- The number of unread records is the number of file slots. -/
theorem queueFileSlots_sound (hcfg : cfg.WellFormed) (htcp : queueIsTcpSendQ cfg = true)
    (h : StoreOk cfg d)
    (hrs : (queueFraming cfg).Framed ((d.overflowBytes cfg).drop d.q.fileReadOffset) rs) :
    queueFileSlots cfg d = (rs.length, d) := by
  unfold queueFileSlots
  by_cases hoff : d.q.fileReadOffset < d.q.fileSize
  · rw [if_pos ⟨hcfg.hasFile, hoff⟩, if_pos htcp,
      queueTcpFileCountRecords_sound h.sound htcp h.size_eq hrs]
  · have hnil : rs = [] := hrs.eq_nil_iff.mpr
      (List.drop_eq_nil_iff.mpr (by rw [h.size_eq]; omega))
    rw [if_neg (fun hc => hoff hc.2), hnil, List.length_nil]

/-- The loop copies the content from row `cnt` on. -/
theorem queuePeekBatchLoop_sound (hcfg : cfg.WellFormed) (htcp : queueIsTcpSendQ cfg = true)
    (h : StoreOk cfg d)
    (hrs : (queueFraming cfg).Framed ((d.overflowBytes cfg).drop d.q.fileReadOffset) rs)
    (n cnt : Nat) (hn : cnt + n ≤ (logicalContent cfg d).length) :
    queuePeekBatchLoop cfg rs.length n cnt d = (((logicalContent cfg d).drop cnt).take n, d) := by
  have hcontent := logicalContent_of_framed hrs
  induction n generalizing cnt with
  | zero => rw [List.take_zero]; rfl
  | succ n ih =>
    have hlt : cnt < (logicalContent cfg d).length := by omega
    rw [queuePeekBatchLoop, List.drop_eq_getElem_cons hlt, List.take_succ_cons]
    by_cases hc : cnt < rs.length
    · have hrow : (logicalContent cfg d)[cnt] = rs[cnt] := by
        simp only [hcontent, List.getElem_append_left hc]
      rw [if_pos hc, queueFilePeekElement_sound h.sound hcfg htcp h.size_eq hrs hc]
      dsimp only
      rw [ih (cnt + 1) (by omega), hrow]
    · have hlen : cnt < rs.length + d.q.count := by
        rw [hcontent, List.length_append, length_ringRows] at hlt
        exact hlt
      have hrow : (logicalContent cfg d)[cnt] =
          d.q.buffer ((d.q.head + (cnt - rs.length)) % cfg.capacity) := by
        simp only [hcontent]
        rw [List.getElem_append_right (by omega), getElem_ringRows]
      rw [if_neg hc, if_neg (by omega), ih (cnt + 1) (by omega), hrow]

/-- A peek copies the first rows and changes nothing. -/
theorem QueueInv.peekBatch (hcfg : cfg.WellFormed) (htcp : queueIsTcpSendQ cfg = true)
    (h : QueueInv cfg d) {max : Nat} (hmax : 0 < max) :
    queuePeekBatch cfg d max =
      ((if logicalContent cfg d = [] then .notFound else .success,
        (logicalContent cfg d).take max), d) := by
  obtain ⟨rs, hrs⟩ := h.unread
  have hlen : rs.length + d.q.count = (logicalContent cfg d).length := by
    rw [logicalContent_of_framed hrs, List.length_append, length_ringRows]
  unfold queuePeekBatch
  rw [if_neg (by omega), if_neg (by simp [h.ring.not_badIndices]),
    queueFileSlots_sound hcfg htcp h.toStoreOk hrs]
  dsimp only
  rw [hlen]
  by_cases hnil : logicalContent cfg d = []
  · rw [if_pos (by rw [hnil]; rfl), if_pos hnil, hnil, List.take_nil]
  · have hpos : 0 < (logicalContent cfg d).length := List.length_pos_iff.mpr hnil
    rw [if_neg (by omega), if_neg hnil,
      queuePeekBatchLoop_sound hcfg htcp h.toStoreOk hrs _ 0 (by omega), List.drop_zero,
      List.take_eq_take_min.symm, if_neg]
    rw [List.length_take]
    omega

end Peeking

end WalnutGateway
