import WalnutGateway.Queue.Frame
import WalnutGateway.Queue.PeekCommit
import WalnutGateway.Queue.Reboot
import WalnutGateway.Queue.Usable

/-!
# A planned reset with the queue in use

`persist_and_reset` runs in one task while others push and pop. It writes the
reset reason, then the snapshot under the queue lock, then looks at the read
offset and saves or clears it without the lock, sleeps and resets. What the next
boot finds is the queue at that moment only if nothing moved a row in the ring
since the snapshot, and nothing read the overflow file since the offset was read.
-/

namespace WalnutGateway

variable {α : Type}

/-! ## The reset task among the others -/

/-- How far `persist_and_reset` has come. -/
inductive ResetPhase
  /-- No reset is under way. -/
  | idle
  /-- The reason of the reset is recorded. -/
  | announced
  /-- The snapshot is written and the queue lock released. -/
  | snapshotSaved
  /-- Nothing was found unread, and the offset is to be cleared. -/
  | clearing
  /-- Something was found unread, and the offset is to be read for saving. -/
  | saving
  /-- The offset to save is read. -/
  | offsetRead (offset : Nat)
  /-- Sleeping until the reset. -/
  | persisted
  deriving DecidableEq

/-- The queue, the reset task, and what the callers are owed. -/
structure ResetSystem (α : Type) where
  device : Device α
  phase : ResetPhase
  /-- The rows pushed with success and not popped, oldest first. -/
  owed : List (RowKey α)

/-- One step of a task: of the reset task, of a caller of the queue, or of the
TCP task after it popped an acknowledged batch. -/
inductive ResetOp (α : Type)
  | reset
  | call (op : SendQueueOp α)
  | clearSnapshot

/-- The arguments `persist_and_reset` was started with. -/
structure ResetRequest where
  kind : ResetType
  utc : UInt32
  source : List Byte

/-- The next step of `persist_and_reset`, with `queue_manager_persist` taken
apart at the places where it holds no lock. -/
def persistAndResetStep (cfg : QueueConfig α) (request : ResetRequest) :
    ResetPhase → Device α → ResetPhase × Device α
  | .idle, d => (.announced, { d with
      toPreBootStore := (d.saveBeforeSocReset request.kind request.utc request.source).2 })
  | .announced, d =>
    if ¬ cfg.persistOnReboot then (.persisted, d) else
    let s := queuePersistSave cfg d
    if s.1.isError then (.persisted, s.2) else (.snapshotSaved, s.2)
  | .snapshotSaved, d =>
    if ¬ queueIsTcpSendQ cfg then (.persisted, d) else
    if d.q.fileSize = 0 ∨ d.q.fileReadOffset ≥ d.q.fileSize then (.clearing, d) else (.saving, d)
  | .clearing, d => (.persisted, { d with toPreBootStore := d.clearTcpSendQueueOffset.2 })
  | .saving, d => (.offsetRead d.q.fileReadOffset, d)
  | .offsetRead offset, d =>
    (.persisted, { d with toPreBootStore := (d.saveTcpSendQueueOffset offset).2 })
  | .persisted, d => (.persisted, d)

/-- What the callers are owed after a call and its reply. -/
def settle (cfg : QueueConfig α) (owed : List (RowKey α)) :
    SendQueueOp α → QueueReply α → List (RowKey α)
  | .push data, .pushed .success => owed ++ [rowKey cfg data]
  | .pop _, .popped _ rows => owed.drop rows.length
  | .popTail, .popped _ rows => owed.take (owed.length - rows.length)
  | _, _ => owed

/-- The tasks, one step at a time in any order. -/
def resetMachine (cfg : QueueConfig α) (request : ResetRequest) :
    Machine (ResetSystem α) (ResetOp α) Unit where
  step s
    | .reset =>
      let p := persistAndResetStep cfg request s.phase s.device
      ((), { s with device := p.2, phase := p.1 })
    | .call op =>
      let r := (sendQueueMachine cfg).step s.device op
      ((), { s with device := r.2, owed := settle cfg s.owed op r.1 })
    | .clearSnapshot =>
      ((), { s with device := (queuePersistClearSnapshotAfterConsume cfg s.device).2 })

/-- With no other step in between, the steps behind the announcement are
`queue_manager_persist`. -/
theorem persistAndResetStep_alone (cfg : QueueConfig α) (request : ResetRequest)
    (s : ResetSystem α) (h : s.phase = .announced) :
    ((resetMachine cfg request).run s (List.replicate 4 .reset)).2 =
      { s with device := (queueManagerPersist cfg s.device).2, phase := .persisted } := by
  obtain ⟨d, phase, owed⟩ := s
  subst h
  simp only [List.replicate, Machine.run, resetMachine, persistAndResetStep, queueManagerPersist]
  by_cases hp : cfg.persistOnReboot = true
  · simp only [hp, not_true_eq_false, if_false]
    cases hs : (queuePersistSave cfg d).1.isError with
    | true => simp only [if_true]
    | false =>
      simp only [Bool.false_eq_true, if_false, queueTcpPersistFileOffset]
      by_cases htcp : queueIsTcpSendQ cfg = true
      · simp only [htcp, not_true_eq_false, if_false]
        by_cases hread : (queuePersistSave cfg d).2.q.fileSize = 0 ∨
            (queuePersistSave cfg d).2.q.fileReadOffset ≥ (queuePersistSave cfg d).2.q.fileSize
        · simp only [if_pos hread]
        · simp only [if_neg hread]
      · simp only [if_pos htcp]
  · simp only [if_pos hp]

/-! ## What the reset task relies on -/

/-- The snapshot is current, and its rows hold no pointer. -/
structure Frozen (cfg : QueueConfig α) (d : Device α) : Prop where
  snapshot : SnapshotCurrent cfg d
  plain : ∀ x ∈ d.q.ringRows cfg, cfg.element.Plain x

/-- What the reset task has established when it has come so far. -/
def ResetPhase.Ok (cfg : QueueConfig α) (d : Device α) : ResetPhase → Prop
  | .idle | .announced => True
  | .snapshotSaved | .saving => Frozen cfg d
  | .clearing => Frozen cfg d ∧ d.q.fileSize = 0
  | .offsetRead offset => Frozen cfg d ∧ (offset = d.q.fileReadOffset ∨ d.q.fileSize = 0)
  | .persisted => Frozen cfg d ∧ OffsetCurrent cfg d

/-- The snapshot has been written. -/
def ResetPhase.isFrozen : ResetPhase → Bool
  | .idle | .announced => false
  | _ => true

/-- The offset for the pre-boot record has been read. -/
def ResetPhase.offsetKnown : ResetPhase → Bool
  | .offsetRead _ | .persisted => true
  | _ => false

/-- Queue and system agree on what is owed, and the files on what was persisted. -/
structure ResetInv (cfg : QueueConfig α) (s : ResetSystem α) : Prop where
  queue : QueueInv cfg s.device
  size_le : s.device.q.fileSize ≤ uint32Max
  cache : s.device.CacheOk
  owed : contentKeys cfg s.device = s.owed
  phase : s.phase.Ok cfg s.device

/-- The step disturbs no planned reset. Once the snapshot is written no push
succeeds (the ring is full and its oldest row has no record) and no row of the
ring is popped; once the offset is read a pop takes no unread record, or all of
them. At any time a push deletes no unread record and moves no row that the
reader refuses, and the snapshot is taken of rows without pointers. -/
def UndisturbedStep (cfg : QueueConfig α) (s : ResetSystem α) : ResetOp α → Prop
  | .reset => s.phase = .announced → ∀ x ∈ s.device.q.ringRows cfg, cfg.element.Plain x
  | .call (.push _) => ¬ PushClearsUnread cfg s.device ∧
      (cfg.capacity ≤ s.device.q.count →
        ShortRow cfg (s.device.q.buffer s.device.q.head)) ∧
      (s.phase.isFrozen = true → cfg.capacity ≤ s.device.q.count ∧
        queueRecord cfg (s.device.q.buffer s.device.q.head) = none)
  | .call (.pop max) =>
      (s.phase.isFrozen = true →
        max ≤ (unreadRecords cfg s.device).length ∨ s.device.q.count = 0) ∧
      (s.phase.offsetKnown = true → max = 0 ∨ (unreadRecords cfg s.device).length ≤ max)
  | .call .popTail => s.phase.isFrozen = true → s.device.q.count = 0
  | .clearSnapshot => True

instance (cfg : QueueConfig α) [DecidablePred cfg.element.Plain] (s : ResetSystem α) :
    ∀ op, Decidable (UndisturbedStep cfg s op)
  | .reset => inferInstanceAs (Decidable (_ → ∀ _ ∈ _, _))
  | .call (.push _) => inferInstanceAs (Decidable (_ ∧ (_ → _) ∧ (_ → _ ∧ _)))
  | .call (.pop _) => inferInstanceAs (Decidable ((_ → _ ∨ _) ∧ (_ → _ ∨ _)))
  | .call .popTail => inferInstanceAs (Decidable (_ → _))
  | .clearSnapshot => isTrue trivial

section Frozen

variable {cfg : QueueConfig α} {d d' : Device α}

/-- Steps on the overflow file do not make the snapshot stale. -/
theorem Frozen.of_fileEffect (h : Frozen cfg d) (he : d.FileEffect cfg d') : Frozen cfg d' := by
  obtain ⟨size, offset, hq⟩ := he.ring
  have hf := he.files (snapshotFile cfg) (overflowFile_ne_snapshotFile cfg).symm
  refine ⟨?_, ?_⟩
  · rw [SnapshotCurrent, hf, hq, snapshotBytes_withFile]
    exact h.snapshot
  · rw [hq]
    exact h.plain

/-- Nor do they lose the offset, if it stays or the file is gone. -/
theorem OffsetCurrent.of_fileEffect (h : OffsetCurrent cfg d) (he : d.FileEffect cfg d')
    (hq : d'.q = d.q ∨ (d'.q.fileReadOffset = 0 ∧ d'.q.fileSize = 0)) : OffsetCurrent cfg d' := by
  obtain ⟨r, hf, hr, hoff⟩ := h
  refine ⟨r, ?_, hr, ?_⟩
  · rw [he.files _ (overflowFile_ne_preBootInfo cfg).symm]
    exact hf
  · obtain hq | ⟨hoff0, hsize0⟩ := hq
    · rw [hq]
      exact hoff
    · rw [hoff0, hsize0]
      exact restoredOffset_zero ..

/-- The phase is left as it was when only the file may be gone. -/
theorem ResetPhase.Ok.of_fileEffect {phase : ResetPhase} (h : phase.Ok cfg d)
    (he : d.FileEffect cfg d')
    (hq : d'.q = d.q ∨ (d'.q.fileReadOffset = 0 ∧ d'.q.fileSize = 0)) : phase.Ok cfg d' := by
  have hsize (h0 : d.q.fileSize = 0) : d'.q.fileSize = 0 := by
    obtain hq | ⟨-, hsize⟩ := hq
    · rw [hq, h0]
    · exact hsize
  cases phase with
  | idle => trivial
  | announced => trivial
  | snapshotSaved => exact Frozen.of_fileEffect h he
  | saving => exact Frozen.of_fileEffect h he
  | clearing => exact ⟨h.1.of_fileEffect he, hsize h.2⟩
  | offsetRead offset =>
    refine ⟨h.1.of_fileEffect he, ?_⟩
    obtain hoff | h0 := h.2
    · obtain hq | ⟨-, h0⟩ := hq
      · exact Or.inl (by rw [hq]; exact hoff)
      · exact Or.inr h0
    · exact Or.inr (hsize h0)
  | persisted => exact ⟨h.1.of_fileEffect he, h.2.of_fileEffect he hq⟩

/-- Nothing unread means no file. -/
theorem UnreadInv.no_file (h : UnreadInv cfg d) (hnil : unreadRecords cfg d = []) :
    d.q.fileReadOffset = 0 ∧ d.q.fileSize = 0 := by
  obtain ⟨rs, hrs⟩ := h.unread
  rw [unreadRecords, hrs.parse_eq] at hnil
  have hdrop := List.drop_eq_nil_iff.mp (hrs.eq_nil_iff.mp hnil)
  rw [h.size_eq] at hdrop
  have := h.read_lt
  omega

/-- A refused push leaves the ring, and the file unless that was read to its end. -/
theorem queuePush_refused (hcfg : cfg.WellFormed) (h : StoreOk cfg d)
    (hfull : cfg.capacity ≤ d.q.count)
    (hrec : queueRecord cfg (d.q.buffer d.q.head) = none) (data : α) :
    (queuePush cfg d data).1 = .error ∧ d.FileEffect cfg (queuePush cfg d data).2 ∧
      ((queuePush cfg d data).2.q = d.q ∨
        ((queuePush cfg d data).2.q.fileReadOffset = 0 ∧
          (queuePush cfg d data).2.q.fileSize = 0)) := by
  rw [queuePush_sound hcfg h.ring h.sound, if_neg (by omega), hrec]
  refine ⟨rfl, ?_⟩
  dsimp only
  obtain he | he | ⟨he, -⟩ := refused_cases hcfg.file_le h.sound (d.q.buffer d.q.head)
  · rw [he]
    exact ⟨.refl _ _, Or.inl rfl⟩
  · rw [he]
    exact ⟨.of_flash d (Flash.sameBut_put _ _ _), Or.inl rfl⟩
  · rw [he]
    exact ⟨.of_file d ((Flash.sameBut_erase _ _).trans (Flash.sameBut_put _ _ _))
      (fun _ => Or.inr ⟨rfl, rfl⟩) fun _ => Nat.zero_le _, Or.inr ⟨rfl, rfl⟩⟩

/-- A pop that takes no row of the ring reads the overflow file. -/
theorem queuePopLoop_file (hcfg : cfg.WellFormed) (n : Nat) {d : Device α} (h : UnreadInv cfg d)
    (hn : n ≤ (unreadRecords cfg d).length ∨ d.q.count = 0) :
    d.FileEffect cfg (queuePopLoop cfg n d).2 ∧
      unreadRecords cfg (queuePopLoop cfg n d).2 = (unreadRecords cfg d).drop n := by
  induction n generalizing d with
  | zero => exact ⟨.refl _ _, rfl⟩
  | succ n ih =>
    rw [queuePopLoop]
    by_cases hoff : d.q.fileReadOffset < d.q.fileSize
    · have hread : d.FileEffect cfg (queuePopOne cfg d).2 := by
        rw [queuePopOne, if_pos ⟨hcfg.hasFile, hoff⟩]
        exact queueFileRead_effect d
      obtain ⟨size, offset, hq⟩ := hread.ring
      have hrows : (queuePopOne cfg d).2.q.ringRows cfg = d.q.ringRows cfg := by rw [hq]; rfl
      have hcount : (queuePopOne cfg d).2.q.count = d.q.count := by rw [hq]
      obtain ⟨hnil, hpop⟩ | ⟨x, rest, d', hcontent, hpop, hinv, hrest⟩ := h.popOne hcfg
      · have hfile := h.no_file (List.append_eq_nil_iff.mp hnil).1
        omega
      · rw [hpop] at hread hrows hcount ⊢
        dsimp only at hread hrows hcount ⊢
        have htail : unreadRecords cfg d' = (unreadRecords cfg d).drop 1 := by
          rw [logicalContent, hrows] at hrest
          rw [logicalContent] at hcontent
          cases hu : unreadRecords cfg d with
          | nil =>
            have hfile := h.no_file hu
            omega
          | cons y unread =>
            rw [hu, List.cons_append, List.cons.injEq, ← hrest] at hcontent
            exact (List.append_cancel_right hcontent.2).symm
        obtain ⟨heffect, hdrop⟩ := ih hinv (by rw [htail, List.length_drop]; omega)
        refine ⟨hread.trans heffect, ?_⟩
        rw [hdrop, htail, List.drop_drop, Nat.add_comm]
    · have hnil : unreadRecords cfg d = [] := unreadRecords_of_empty h.toStoreOk (by omega)
      rw [hnil, List.length_nil] at hn
      have hpop : queuePopOne cfg d = (.error .notFound, d) := by
        rw [queuePopOne_sound hcfg h.toStoreOk, if_neg hoff, if_neg (by omega)]
      rw [hpop]
      exact ⟨.refl _ _, by rw [hnil, List.drop_nil]⟩

/-- So does a pop with its checks. -/
theorem queuePop_file (hcfg : cfg.WellFormed) (h : UnreadInv cfg d) {max : Nat}
    (hmax : max ≤ (unreadRecords cfg d).length ∨ d.q.count = 0) :
    d.FileEffect cfg (queuePop cfg d max).2 ∧
      (max = 0 ∨ (unreadRecords cfg d).length ≤ max →
        (queuePop cfg d max).2.q = d.q ∨
          ((queuePop cfg d max).2.q.fileReadOffset = 0 ∧
            (queuePop cfg d max).2.q.fileSize = 0)) := by
  by_cases h0 : max = 0
  · subst h0
    exact ⟨.refl _ _, fun _ => Or.inl rfl⟩
  · obtain ⟨heffect, hdrop⟩ := queuePopLoop_file hcfg max h hmax
    have hsame : (queuePop cfg d max).2 = (queuePopLoop cfg max d).2 := by
      rw [queuePop, if_neg h0, if_neg (by simp [h.ring.not_badIndices])]
      dsimp only
      split <;> rfl
    rw [hsame]
    refine ⟨heffect, fun hall => Or.inr ?_⟩
    have hinv := (h.popLoop hcfg max).2.1
    refine hinv.no_file ?_
    rw [hdrop, List.drop_eq_nil_iff]
    omega

end Frozen

section Steps

variable {cfg : QueueConfig α} {request : ResetRequest} {s : ResetSystem α}

/-- Before the snapshot nothing is relied on. -/
theorem ResetPhase.ok_of_not_frozen {phase : ResetPhase} (h : ¬ phase.isFrozen = true)
    (d : Device α) : phase.Ok cfg d := by
  cases phase <;> trivial

theorem settle_push (cfg : QueueConfig α) (owed : List (RowKey α)) (data : α) (r : Result) :
    settle cfg owed (.push data) (.pushed r) =
      owed ++ if r = .success then [rowKey cfg data] else [] := by
  cases r <;> first | rfl | exact (List.append_nil _).symm

/-- A push keeps the books. -/
theorem resetInv_push (hcfg : cfg.WellFormed) (htcp : queueIsTcpSendQ cfg = true)
    (h : ResetInv cfg s) {data : α} (hop : UndisturbedStep cfg s (.call (.push data))) :
    ResetInv cfg ((resetMachine cfg request).step s (.call (.push data))).2 := by
  obtain ⟨hclear, hhead, hfrozen⟩ := hop
  obtain ⟨hinv, hkeys⟩ := h.queue.push hcfg hhead data
  have heffect := queuePush_effect htcp hcfg.file_le s.device data
  refine ⟨hinv, heffect.size_le h.size_le, heffect.cacheOk h.cache, ?_, ?_⟩
  · exact (hkeys hclear).trans (by rw [h.owed]; exact (settle_push ..).symm)
  · by_cases hphase : s.phase.isFrozen = true
    · obtain ⟨hfull, hrec⟩ := hfrozen hphase
      obtain ⟨-, hfile, hq⟩ := queuePush_refused hcfg h.queue.toStoreOk hfull hrec data
      exact h.phase.of_fileEffect hfile hq
    · exact ResetPhase.ok_of_not_frozen hphase _

/-- Dropping as many rows as a pop took is dropping what it was asked for. -/
private theorem drop_length_take {κ : Type} (l : List κ) (n : Nat) :
    l.drop (l.take n).length = l.drop n := by
  rw [List.length_take]
  by_cases hn : n ≤ l.length
  · rw [Nat.min_eq_left hn]
  · rw [Nat.min_eq_right (by omega), List.drop_length, List.drop_eq_nil_iff.mpr (by omega)]

/-- A pop keeps the books. -/
theorem resetInv_pop (hcfg : cfg.WellFormed) (h : ResetInv cfg s) {max : Nat}
    (hop : UndisturbedStep cfg s (.call (.pop max))) :
    ResetInv cfg ((resetMachine cfg request).step s (.call (.pop max))).2 := by
  obtain ⟨hring, hall⟩ := hop
  have heffect : s.device.QueueEffect cfg _ := queuePop_effect s.device max
  have hpop : (queuePop cfg s.device max).1.2 = (logicalContent cfg s.device).take max ∧
      QueueInv cfg (queuePop cfg s.device max).2 ∧
      logicalContent cfg (queuePop cfg s.device max).2 =
        (logicalContent cfg s.device).drop max := by
    by_cases h0 : max = 0
    · subst h0
      exact ⟨rfl, h.queue, rfl⟩
    · obtain ⟨hreply, hinv, hdrop⟩ := h.queue.pop hcfg (Nat.pos_of_ne_zero h0)
      exact ⟨congrArg Prod.snd hreply, hinv, hdrop⟩
  obtain ⟨hrows, hinv, hdrop⟩ := hpop
  refine ⟨hinv, heffect.size_le h.size_le, heffect.cacheOk h.cache, ?_, ?_⟩
  · change contentKeys cfg (queuePop cfg s.device max).2 =
      s.owed.drop (queuePop cfg s.device max).1.2.length
    rw [contentKeys, hdrop, hrows, ← h.owed, contentKeys, List.map_drop,
      ← drop_length_take (List.map _ _), ← List.map_take, List.length_map]
  · by_cases hphase : s.phase.isFrozen = true
    · obtain ⟨hfile, hq⟩ := queuePop_file hcfg h.queue.toUnreadInv (hring hphase)
      have hok := h.phase
      change s.phase.Ok cfg (queuePop cfg s.device max).2
      cases hp : s.phase with
      | idle => trivial
      | announced => trivial
      | snapshotSaved =>
        rw [hp] at hok
        exact Frozen.of_fileEffect hok hfile
      | saving =>
        rw [hp] at hok
        exact Frozen.of_fileEffect hok hfile
      | clearing =>
        rw [hp] at hok
        have hnil := unreadRecords_of_empty h.queue.toStoreOk (by rw [hok.2]; exact Nat.zero_le _)
        exact hok.of_fileEffect hfile (hq (Or.inr (by rw [hnil]; exact Nat.zero_le _)))
      | offsetRead offset =>
        rw [hp] at hok hall
        exact hok.of_fileEffect hfile (hq (hall rfl))
      | persisted =>
        rw [hp] at hok hall
        exact hok.of_fileEffect hfile (hq (hall rfl))
    · exact ResetPhase.ok_of_not_frozen hphase _

/-- A tail pop keeps the books. -/
theorem resetInv_popTail (h : ResetInv cfg s) (hop : UndisturbedStep cfg s (.call .popTail)) :
    ResetInv cfg ((resetMachine cfg request).step s (.call .popTail)).2 := by
  by_cases hc : 0 < s.device.q.count
  · obtain ⟨x, d', hpop, rfl, hinv, hcontent⟩ := h.queue.popTail hc
    have hphase : ¬ s.phase.isFrozen = true := fun hf => by
      have := hop hf
      omega
    simp only [resetMachine, sendQueueMachine, hpop]
    refine ⟨hinv, h.size_le, h.cache, ?_, ResetPhase.ok_of_not_frozen hphase _⟩
    have hkeys := congrArg (List.map (rowKey cfg)) hcontent
    rw [List.map_append] at hkeys
    simp only [settle]
    rw [← h.owed, contentKeys, contentKeys, hkeys, List.length_append]
    exact (List.take_left' (by simp)).symm
  · have hpop : queuePopTail cfg s.device = (.error .notFound, s.device) := by
      rw [queuePopTail, if_pos (by omega)]
    simp only [resetMachine, sendQueueMachine, hpop]
    refine ⟨h.queue, h.size_le, h.cache, ?_, h.phase⟩
    simp only [settle, List.length_nil, Nat.sub_zero, List.take_length]
    exact h.owed

/-- A step that leaves the queue alone keeps the books. -/
theorem ResetInv.of_sameQueue (h : ResetInv cfg s) {d' : Device α} {phase : ResetPhase}
    (hd : s.device.SameQueue cfg d') (hcache : d'.CacheOk) (hphase : phase.Ok cfg d') :
    ResetInv cfg { s with device := d', phase := phase } where
  queue := hd.queueInv h.queue
  size_le := by
    change d'.q.fileSize ≤ uint32Max
    rw [hd.queue]
    exact h.size_le
  cache := hcache
  owed := by
    change contentKeys cfg d' = s.owed
    rw [contentKeys, hd.logicalContent, ← h.owed, contentKeys]
  phase := hphase

/-- A new pre-boot record does not make the snapshot stale. -/
theorem Frozen.of_record {d : Device α} (h : Frozen cfg d) {store : PreBootStore}
    (hs : d.toPreBootStore.RecordEffect store) : Frozen cfg { d with toPreBootStore := store } where
  snapshot := by
    have hf := hs.files _ (snapshotFile_ne_preBootInfo cfg)
    rw [SnapshotCurrent, hf]
    exact h.snapshot
  plain := h.plain

/-- Clearing the offset is right when reading stands at the start. -/
theorem offsetCurrent_clear {d : Device α} (hs : d.flash.Sound) (hcache : d.CacheOk)
    (hoff : d.q.fileReadOffset = 0) :
    OffsetCurrent cfg { d with toPreBootStore := d.clearTcpSendQueueOffset.2 } := by
  rw [PreBootStore.clearTcpSendQueueOffset_sound hs]
  refine ⟨_, Flash.put_files_self .., hcache.stagedFromCache, ?_⟩
  rw [PreBootStore.savedOffset_diskClearTcpOffset, restoredOffset_none]
  exact hoff.symm

/-- Saving the offset is right when it is the read offset, or no file is left. -/
theorem offsetCurrent_save {d : Device α} (htcp : queueIsTcpSendQ cfg = true)
    (h : StoreOk cfg d) (hsize : d.q.fileSize ≤ uint32Max) (hcache : d.CacheOk) {offset : Nat}
    (hoff : offset = d.q.fileReadOffset ∨ d.q.fileSize = 0) :
    OffsetCurrent cfg { d with toPreBootStore := (d.saveTcpSendQueueOffset offset).2 } := by
  rw [PreBootStore.saveTcpSendQueueOffset_sound h.sound]
  refine ⟨_, Flash.put_files_self .., hcache.stagedFromCache, ?_⟩
  have hread := h.read_lt
  have hle := h.read_le
  obtain rfl | h0 := hoff
  · rw [PreBootStore.savedOffset_diskSetTcpOffset _ _ (by rw [uint32Max] at hsize; omega),
      restoredOffset_some htcp]
    exact if_pos hle
  · change restoredOffset cfg _ d.q.fileSize = d.q.fileReadOffset
    rw [h0, restoredOffset_zero]
    omega

/-- A phase depends on the two files and the queue. -/
theorem ResetPhase.Ok.mono {phase : ResetPhase} {d d' : Device α} (h : phase.Ok cfg d)
    (hq : d'.q = d.q) (hf : Frozen cfg d → Frozen cfg d')
    (ho : OffsetCurrent cfg d → OffsetCurrent cfg d') : phase.Ok cfg d' := by
  cases phase with
  | idle => trivial
  | announced => trivial
  | snapshotSaved => exact hf h
  | saving => exact hf h
  | clearing => exact ⟨hf h.1, by rw [hq]; exact h.2⟩
  | offsetRead offset => exact ⟨hf h.1, by rw [hq]; exact h.2⟩
  | persisted => exact ⟨hf h.1, ho h.2⟩

/-- Deleting the snapshot of an empty ring leaves what was persisted current. -/
theorem resetInv_deleteSnapshot (hp : cfg.persistOnReboot = true) (h : ResetInv cfg s)
    (hc : s.device.q.count = 0) :
    ResetInv cfg { s with device := (queuePersistDeleteSnapshot cfg s.device).2 } := by
  have hsame : s.device.SameQueue cfg _ := sameQueue_queuePersistDeleteSnapshot h.queue.sound
  obtain ⟨fs, hd, -, hnone, hother⟩ := queuePersistDeleteSnapshot_sound h.queue.sound hp
  rw [hd] at hsame ⊢
  refine h.of_sameQueue hsame h.cache (h.phase.mono rfl (fun hf => ⟨Or.inr ⟨hnone, hc⟩, hf.plain⟩)
    fun ho => ?_)
  obtain ⟨r, hr, hrest⟩ := ho
  exact ⟨r, (hother _ (snapshotFile_ne_preBootInfo cfg).symm).trans hr, hrest⟩

/-- The clean-up after an acknowledged batch leaves what was persisted current. -/
theorem resetInv_clearSnapshot (hcfg : cfg.WellFormed) (hp : cfg.persistOnReboot = true)
    (h : ResetInv cfg s) :
    ResetInv cfg ((resetMachine cfg request).step s .clearSnapshot).2 := by
  change ResetInv cfg { s with device := (queuePersistClearSnapshotAfterConsume cfg s.device).2 }
  unfold queuePersistClearSnapshotAfterConsume
  rw [if_neg (not_not_intro hp)]
  by_cases hc : s.device.q.count = 0
  · rw [if_neg (not_not_intro hc)]
    split
    · rename_i hdrained
      have hread : s.device.q.fileReadOffset = 0 := by
        have hlt := h.queue.read_lt
        have hdone := hdrained.1
        unfold queueOverflowDrainedLocked at hdone
        simp only [hcfg.hasFile, not_true_eq_false, false_or] at hdone
        split at hdone
        · omega
        · have := of_decide_eq_true hdone
          omega
      have hclear : s.device.SameQueue cfg _ := sameQueue_clearTcpSendQueueOffset h.queue.sound
      have hrecord := s.device.clearTcpSendQueueOffset_effect
      have hphase : s.phase.Ok cfg
          { s.device with toPreBootStore := s.device.clearTcpSendQueueOffset.2 } := h.phase.mono rfl
        (fun hf => hf.of_record hrecord)
        fun _ => offsetCurrent_clear h.queue.sound h.cache hread
      exact resetInv_deleteSnapshot
        (s := { s with device :=
          { s.device with toPreBootStore := s.device.clearTcpSendQueueOffset.2 } })
        hp (h.of_sameQueue hclear (hrecord.cache h.cache) hphase) hc
    · exact resetInv_deleteSnapshot hp h hc
  · rw [if_pos hc]
    exact h

/-- A step of the reset task keeps the books. -/
theorem resetInv_reset (htcp : queueIsTcpSendQ cfg = true) (hp : cfg.persistOnReboot = true)
    (h : ResetInv cfg s) (hop : UndisturbedStep cfg s .reset) :
    ResetInv cfg ((resetMachine cfg request).step s .reset).2 := by
  change ResetInv cfg { s with
    device := (persistAndResetStep cfg request s.phase s.device).2
    phase := (persistAndResetStep cfg request s.phase s.device).1 }
  have hok := h.phase
  have hread := h.queue.read_lt
  cases hphase : s.phase with
  | idle =>
    exact h.of_sameQueue (sameQueue_saveBeforeSocReset h.queue.sound ..)
      ((s.device.saveBeforeSocReset_effect ..).cache h.cache) trivial
  | announced =>
    have hsave := queuePersistSave_sound h.queue.sound hp
    simp only [persistAndResetStep, hp, not_true_eq_false, if_false, hsave, Result.isError]
    refine h.of_sameQueue (.of_files (h.queue.sound.put _ _)
      (Flash.put_files_of_ne _ _ (overflowFile_ne_snapshotFile cfg))) h.cache
      ⟨Or.inl (Flash.put_files_self ..), hop hphase⟩
  | snapshotSaved =>
    rw [hphase] at hok
    simp only [persistAndResetStep, htcp, not_true_eq_false, if_false]
    split
    · refine h.of_sameQueue (.refl h.queue.sound) h.cache ⟨hok, ?_⟩
      change s.device.q.fileSize = 0
      omega
    · exact h.of_sameQueue (.refl h.queue.sound) h.cache hok
  | clearing =>
    rw [hphase] at hok
    have hrecord := s.device.clearTcpSendQueueOffset_effect
    exact h.of_sameQueue (sameQueue_clearTcpSendQueueOffset h.queue.sound)
      (hrecord.cache h.cache) ⟨hok.1.of_record hrecord,
        offsetCurrent_clear h.queue.sound h.cache (by have := hok.2; omega)⟩
  | saving =>
    rw [hphase] at hok
    exact h.of_sameQueue (.refl h.queue.sound) h.cache ⟨hok, Or.inl rfl⟩
  | offsetRead offset =>
    rw [hphase] at hok
    have hrecord := s.device.saveTcpSendQueueOffset_effect offset
    exact h.of_sameQueue (sameQueue_saveTcpSendQueueOffset h.queue.sound offset)
      (hrecord.cache h.cache) ⟨hok.1.of_record hrecord,
        offsetCurrent_save htcp h.queue.toStoreOk h.size_le h.cache hok.2⟩
  | persisted =>
    rw [hphase] at hok
    exact h.of_sameQueue (.refl h.queue.sound) h.cache hok

/-- Every step that disturbs no reset keeps the books. -/
theorem resetInv_step (hcfg : cfg.WellFormed) (htcp : queueIsTcpSendQ cfg = true)
    (hp : cfg.persistOnReboot = true) (h : ResetInv cfg s) {op : ResetOp α}
    (hop : UndisturbedStep cfg s op) : ResetInv cfg ((resetMachine cfg request).step s op).2 := by
  cases op with
  | reset => exact resetInv_reset htcp hp h hop
  | call op =>
    cases op with
    | push data => exact resetInv_push hcfg htcp h hop
    | pop max => exact resetInv_pop hcfg h hop
    | popTail => exact resetInv_popTail h hop
  | clearSnapshot => exact resetInv_clearSnapshot hcfg hp h

end Steps

/-! ## The reset -/

/-- The queue in order, before a reset is asked for. -/
def ResetSystem.start (cfg : QueueConfig α) (d : Device α) : ResetSystem α :=
  ⟨d, .idle, contentKeys cfg d⟩

/-- However the tasks take turns, if no step disturbs the reset, then from the
moment the offset is stored the next boot finds exactly the rows that were pushed
and not popped, in order, and a read offset between two records. -/
theorem planned_reset_restores {cfg : QueueConfig α} (hcfg : cfg.WellFormed)
    (htcp : queueIsTcpSendQ cfg = true) (hp : cfg.persistOnReboot = true) {d : Device α}
    (h : QueueInv cfg d) (hsize : d.q.fileSize ≤ uint32Max) (hcache : d.CacheOk)
    (request : ResetRequest) (ops : List (ResetOp α))
    (hops : (resetMachine cfg request).Along (UndisturbedStep cfg) (.start cfg d) ops)
    (hdone : ((resetMachine cfg request).run (.start cfg d) ops).2.phase = .persisted)
    (buffer : Nat → α) :
    let s := ((resetMachine cfg request).run (.start cfg d) ops).2
    contentKeys cfg (s.device.rebooted cfg buffer) = s.owed ∧
      QueueInv cfg (s.device.rebooted cfg buffer) := by
  have hinv : ResetInv cfg ((resetMachine cfg request).run (.start cfg d) ops).2 :=
    (resetMachine cfg request).invariant (I := ResetInv cfg)
      (fun _ _ hs hop => resetInv_step hcfg htcp hp hs hop)
      ⟨h, hsize, hcache, rfl, trivial⟩ hops
  generalize ((resetMachine cfg request).run (.start cfg d) ops).2 = s at hinv hdone ⊢
  have hphase := hinv.phase
  rw [hdone] at hphase
  obtain ⟨hfrozen, hoff⟩ := hphase
  refine ⟨?_, queueInv_rebooted hcfg hp hfrozen.snapshot hoff hinv.queue hfrozen.plain buffer⟩
  rw [contentKeys, logicalContent_rebooted hcfg hp hfrozen.snapshot hoff hinv.queue.ring.inRange
    hfrozen.plain hinv.queue.size_eq, ← hinv.owed, contentKeys]

section Examples

/-- A restart asked for by a command. -/
def commandReset : ResetRequest := ⟨.soft, 0, []⟩

/-- A reply pushed before the reset, and nothing afterwards. -/
theorem planned_reset_restores_reply :
    contentKeys tcpSendQueueConfig
      (((resetMachine tcpSendQueueConfig commandReset).run
        (.start tcpSendQueueConfig freshSendQueue)
        (.call (.push shortReply) :: List.replicate 4 .reset)).2.device.rebooted
          tcpSendQueueConfig zeroBuffer) =
      ((resetMachine tcpSendQueueConfig commandReset).run
        (.start tcpSendQueueConfig freshSendQueue)
        (.call (.push shortReply) :: List.replicate 4 .reset)).2.owed :=
  (planned_reset_restores wellFormed_tcpSendQueueConfig queueIsTcpSendQ_tcpSendQueueConfig
    rfl queueInv_freshSendQueue.1 (by decide) nofun commandReset
    (.call (.push shortReply) :: List.replicate 4 .reset) (by decide +kernel) (by decide +kernel)
    zeroBuffer).1

/-- A row pushed while the reset task sleeps is lost, and a row popped then comes back. -/
theorem reset_while_used_differs :
    let before := ((resetMachine tcpSendQueueConfig commandReset).run
      (.start tcpSendQueueConfig freshSendQueue)
      (List.replicate 4 .reset ++ [.call (.push shortReply)])).2
    let after := ((resetMachine tcpSendQueueConfig commandReset).run
      (.start tcpSendQueueConfig freshSendQueue)
      (.call (.push shortReply) :: (List.replicate 4 .reset ++ [.call (.pop 1)]))).2
    (before.phase = .persisted ∧ before.owed = [rowKey tcpSendQueueConfig shortReply] ∧
        contentKeys tcpSendQueueConfig (before.device.rebooted tcpSendQueueConfig zeroBuffer) =
          []) ∧
      after.phase = .persisted ∧ after.owed = [] ∧
        contentKeys tcpSendQueueConfig (after.device.rebooted tcpSendQueueConfig zeroBuffer) =
          [rowKey tcpSendQueueConfig shortReply] := by
  decide +kernel

end Examples

end WalnutGateway
