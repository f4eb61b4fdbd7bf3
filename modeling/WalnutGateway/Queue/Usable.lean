import WalnutGateway.Queue.Boot
import WalnutGateway.Queue.Fifo

/-!
# A queue after a boot

`queue_manager_create` accepts three files that may be damaged or stale. It
checks the ranges of the indices and that the offset lies in the overflow file;
whether the tail stands behind the rows, and whether a record starts at the
offset, is checked by nobody. Where both hold, later pushes and pops lose,
repeat and block nothing.
-/

namespace WalnutGateway

variable {α : Type}

/-- The row a call pushes. -/
def QueueOp.rows : QueueOp α → List α
  | .push data => [data]
  | .pop _ => []

/-- The rows a reply brings. -/
def QueueReply.rows : QueueReply α → List α
  | .pushed _ => []
  | .popped _ rows => rows

/-- The tail of the snapshot stands behind its rows, and the overflow file is
whole records from the place on where a boot starts to read it. -/
structure FilesConsistent (cfg : QueueConfig α) (s : PreBootStore) : Prop where
  tail_eq : (bootSnapshot cfg s.flash).tail =
    ((bootSnapshot cfg s.flash).head + (bootSnapshot cfg s.flash).count) % cfg.capacity
  unread : ∃ rs, (queueFraming cfg).Framed
    ((s.flash.contents (overflowFile cfg)).drop (bootOffset cfg s)) rs

/-- A push that succeeds, clears no overflow file, and moves no row to it that
the reader refuses; any pop. -/
def UsableStep (cfg : QueueConfig α) (d : Device α) : QueueOp α → Prop
  | .push data => (queuePush cfg d data).1 = .success ∧ ¬ PushClears cfg d ∧
      (cfg.capacity ≤ d.q.count → ShortRow cfg (d.q.buffer d.q.head))
  | .pop _ => True

instance (cfg : QueueConfig α) (d : Device α) : ∀ op, Decidable (UsableStep cfg d op)
  | .push _ => inferInstanceAs (Decidable (_ ∧ _ ∧ (_ → _)))
  | .pop _ => isTrue trivial

section Boot

variable {cfg : QueueConfig α} {s : PreBootStore} {d : Device α}

/-- Files that fit together boot into a queue that can be read to its end. -/
theorem BootedFrom.unreadInv (hcfg : cfg.WellFormed) (h : BootedFrom cfg s d)
    (hs : FilesConsistent cfg s) : UnreadInv cfg d where
  toStoreOk := h.storeOk ((h.ringOk_iff hcfg).mpr hs.tail_eq)
  unread := by rw [h.drop_eq]; exact hs.unread

end Boot

section Runs

variable {cfg : QueueConfig α} {d : Device α}

/-- A pop of all rows leaves none. -/
theorem UnreadInv.pop_all (hcfg : cfg.WellFormed) (h : UnreadInv cfg d) {max : Nat}
    (hmax : (logicalContent cfg d).length ≤ max) :
    logicalContent cfg (queuePop cfg d max).2 = [] := by
  by_cases h0 : max = 0
  · subst h0
    exact List.eq_nil_of_length_eq_zero (Nat.le_zero.mp hmax)
  · rw [(h.pop hcfg (by omega)).2.2, List.drop_eq_nil_iff]
    exact hmax

/-- One call neither loses nor repeats a row. -/
theorem usable_step (hcfg : cfg.WellFormed) (h : UnreadInv cfg d) {op : QueueOp α}
    (hop : UsableStep cfg d op) :
    UnreadInv cfg ((queueMachine cfg).step d op).2 ∧
      ((queueMachine cfg).step d op).1.rows.map (rowKey cfg) ++
          contentKeys cfg ((queueMachine cfg).step d op).2 =
        contentKeys cfg d ++ op.rows.map (rowKey cfg) := by
  cases op with
  | push data =>
    obtain ⟨hok, hclear, hhead⟩ := hop
    obtain ⟨hinv, hkeys⟩ := h.push hcfg hhead data
    refine ⟨hinv, ?_⟩
    have hpush := hkeys fun hc => hclear hc.2
    rw [if_pos hok] at hpush
    exact hpush
  | pop max =>
    by_cases hmax : max = 0
    · subst hmax
      exact ⟨h, (List.append_nil _).symm⟩
    · obtain ⟨hreply, hinv, hdrop⟩ := h.pop hcfg (Nat.pos_of_ne_zero hmax)
      refine ⟨hinv, ?_⟩
      simp only [queueMachine, hreply, QueueReply.rows, QueueOp.rows, List.map_nil,
        List.append_nil, contentKeys, hdrop]
      rw [← List.map_append, List.take_append_drop]

/-- Old rows and pushed rows are, in this order, the popped ones and what is left. -/
theorem usable_run (hcfg : cfg.WellFormed) (h : UnreadInv cfg d) {ops : List (QueueOp α)}
    (hops : (queueMachine cfg).Along (UsableStep cfg) d ops) :
    UnreadInv cfg ((queueMachine cfg).run d ops).2 ∧
      (((queueMachine cfg).run d ops).1.flatMap QueueReply.rows).map (rowKey cfg) ++
          contentKeys cfg ((queueMachine cfg).run d ops).2 =
        contentKeys cfg d ++ (ops.flatMap QueueOp.rows).map (rowKey cfg) := by
  rw [List.map_flatMap, List.map_flatMap]
  exact (queueMachine cfg).conservation (P := UsableStep cfg) _ _ (contentKeys cfg)
    (fun _ _ hd hop => usable_step hcfg hd hop) h hops

/-- A record that the reader refuses stops every pop. -/
theorem StoreOk.pop_blocked (hcfg : cfg.WellFormed) (h : StoreOk cfg d)
    (hoff : d.q.fileReadOffset < d.q.fileSize)
    (hnext : (queueFraming cfg).next ((d.overflowBytes cfg).drop d.q.fileReadOffset) = none)
    (max : Nat) : (queuePop cfg d max).1.2 = [] ∧ (queuePop cfg d max).2 = d := by
  have hone : queuePopOne cfg d = (.error .error, d) := by
    rw [queuePopOne_sound hcfg h, if_pos hoff, hnext]
  have hloop : queuePopLoop cfg max d = ([], d) := by
    cases max with
    | zero => rfl
    | succ n => rw [queuePopLoop, hone]
  unfold queuePop
  split
  · exact ⟨rfl, rfl⟩
  · split
    · exact ⟨rfl, rfl⟩
    · rw [hloop]
      exact ⟨rfl, rfl⟩

/-- Nothing is popped behind such a record, however often. -/
theorem StoreOk.pops_blocked (hcfg : cfg.WellFormed) (h : StoreOk cfg d)
    (hoff : d.q.fileReadOffset < d.q.fileSize)
    (hnext : (queueFraming cfg).next ((d.overflowBytes cfg).drop d.q.fileReadOffset) = none)
    (maxs : List Nat) :
    ((queueMachine cfg).run d (maxs.map .pop)).1.flatMap QueueReply.rows = [] := by
  induction maxs with
  | nil => rfl
  | cons max maxs ih =>
    obtain ⟨hrows, hstay⟩ := h.pop_blocked hcfg hoff hnext max
    have hstep : (queueMachine cfg).step d (.pop max) =
        (.popped (queuePop cfg d max).1.1 [], d) := by
      simp only [queueMachine, hrows, hstay]
    simp only [List.map_cons, Machine.run, hstep, List.flatMap_cons, ih]
    rfl

end Runs

/-- Whatever the three files hold, the count, the head and the read offset of a
booted queue are in range. If the snapshot's tail stands behind its rows and the
overflow file is whole records from the offset on, the ring is a window, and
after every run of pushes that succeed, clear nothing and move no row longer
than the reader takes, a pop of all that is left completes the old rows and the
pushed ones, each once and in order. -/
theorem booted_queue_usable {cfg : QueueConfig α} (hcfg : cfg.WellFormed)
    (hp : cfg.persistOnReboot = true) {s : PreBootStore} (h : s.flash.Sound) (buffer : Nat → α)
    (hs : FilesConsistent cfg s) (ops : List (QueueOp α))
    (hops : (queueMachine cfg).Along (UsableStep cfg) (queueManagerCreate cfg s buffer) ops)
    (max : Nat) :
    let d := queueManagerCreate cfg s buffer
    let stop := ((queueMachine cfg).run d ops).2
    (d.q.count ≤ cfg.capacity ∧ d.q.head < cfg.capacity ∧
        d.q.tail = (d.q.head + d.q.count) % cfg.capacity ∧
        d.q.fileReadOffset ≤ d.q.fileSize) ∧
      ((logicalContent cfg stop).length ≤ max →
        (((queueMachine cfg).run d (ops ++ [.pop max])).1.flatMap QueueReply.rows).map
            (rowKey cfg) =
          contentKeys cfg d ++ (ops.flatMap QueueOp.rows).map (rowKey cfg)) := by
  have hboot := queueManagerCreate_sound h hp hcfg.hasFile buffer
  have hinv := hboot.unreadInv hcfg hs
  refine ⟨⟨hinv.ring.count_le, hinv.ring.head_lt, hinv.ring.tail_eq, hinv.read_le⟩, ?_⟩
  intro hmax
  have hall : (queueMachine cfg).Along (UsableStep cfg) (queueManagerCreate cfg s buffer)
      (ops ++ [.pop max]) := Machine.along_append.mpr ⟨hops, trivial, trivial⟩
  obtain ⟨-, hkeys⟩ := usable_run hcfg hinv hall
  have hempty : contentKeys cfg ((queueMachine cfg).run (queueManagerCreate cfg s buffer)
      (ops ++ [.pop max])).2 = [] := by
    rw [Machine.run_append_snd, contentKeys, List.map_eq_nil_iff]
    exact (usable_run hcfg hinv hops).1.pop_all hcfg hmax
  have hpushed : (ops ++ [QueueOp.pop max]).flatMap QueueOp.rows = ops.flatMap QueueOp.rows := by
    rw [List.flatMap_append]
    exact List.append_nil _
  rw [hempty, List.append_nil, hpushed] at hkeys
  exact hkeys

/-! ## Files that do not fit together -/

section Files

/-- The store of a device that boots from the given snapshot and overflow files. -/
def storedFiles (snapshot overflow : Option (List Byte)) : PreBootStore :=
  (PreBootStore.powerOn ⟨fun path =>
    if path = snapshotFile tcpSendQueueConfig then snapshot
    else if path = overflowFile tcpSendQueueConfig then overflow else none, []⟩).loadPriorReset.2

/-- A reply to a command, of eight bytes. -/
def shortReply : ModuleMessage := .ofPayload .cmd .tcp [0x57, 0x45, 38, 0, 4, 79, 75, 0]

/-- A buffer of zeroed elements. -/
def zeroBuffer (_ : Nat) : ModuleMessage := .ofPayload .log .log []

/-- A whole record in the overflow file, no snapshot: what is pushed comes out last. -/
theorem booted_queue_usable_overflow :
    (((queueMachine tcpSendQueueConfig).run
        (queueManagerCreate tcpSendQueueConfig (storedFiles none (some [1, 0, 38, 7])) zeroBuffer)
        ([.push shortReply] ++ [.pop 2])).1.flatMap QueueReply.rows).map
        (rowKey tcpSendQueueConfig) =
      contentKeys tcpSendQueueConfig
        (queueManagerCreate tcpSendQueueConfig (storedFiles none (some [1, 0, 38, 7]))
          zeroBuffer) ++ [rowKey tcpSendQueueConfig shortReply] :=
  (booted_queue_usable wellFormed_tcpSendQueueConfig rfl (by decide +kernel) zeroBuffer
    ⟨by decide +kernel, [.ofPayload (queueTcpTypeToSourceModule 38) .tcp [7]],
      .singleton (by decide +kernel)⟩ [.push shortReply]
    (by decide +kernel) 2).2 (by decide +kernel)

/-- A snapshot whose tail is 3 though one row lies at slot 0 is accepted, and the
next row is stored where no pop looks for it. A record that was cut off is never
skipped, and the pushed row behind it is never reached. -/
theorem damaged_files_lose_rows :
    (∃ snapshot : List Byte,
      let d := queueManagerCreate tcpSendQueueConfig (storedFiles (some snapshot) none) zeroBuffer
      d.q.tail ≠ (d.q.head + d.q.count) % tcpSendQueueConfig.capacity ∧
        (queueMachine tcpSendQueueConfig).Along (UsableStep tcpSendQueueConfig) d
          [.push shortReply] ∧
        (((queueMachine tcpSendQueueConfig).run d ([.push shortReply] ++ [.pop 5])).1.flatMap
          QueueReply.rows).map (rowKey tcpSendQueueConfig) ≠
            contentKeys tcpSendQueueConfig d ++ [rowKey tcpSendQueueConfig shortReply]) ∧
    ∃ overflow : List Byte,
      let d := queueManagerCreate tcpSendQueueConfig (storedFiles none (some overflow)) zeroBuffer
      (queueMachine tcpSendQueueConfig).Along (UsableStep tcpSendQueueConfig) d
          [.push shortReply] ∧
        ∀ maxs : List Nat, ((queueMachine tcpSendQueueConfig).run d
          (.push shortReply :: maxs.map .pop)).1.flatMap QueueReply.rows = [] := by
  refine ⟨⟨[1, 0, 0, 0, 0, 0, 0, 0, 3, 0, 0, 0] ++ shortReply.toBytes, by decide +kernel,
    by decide +kernel, by decide +kernel⟩, [10, 0, 38], by decide +kernel, fun maxs => ?_⟩
  have hboot : BootedFrom tcpSendQueueConfig (storedFiles none (some [10, 0, 38])) _ :=
    queueManagerCreate_sound (by decide +kernel) rfl rfl zeroBuffer
  have hstore := (hboot.storeOk ((hboot.ringOk_iff wellFormed_tcpSendQueueConfig).mpr
    (by decide +kernel))).push wellFormed_tcpSendQueueConfig shortReply
  exact hstore.pops_blocked wellFormed_tcpSendQueueConfig (by decide +kernel) (by decide +kernel)
    maxs

end Files

end WalnutGateway
