import WalnutGateway.Core.Machine
import WalnutGateway.Core.SlotTable
import WalnutGateway.Tcp.SocketPoll

/-!
# The table of sockets

The poll layer keeps its sockets in a table of two slots. Whatever is done with the sockets, in any
order, each of them has the events and the slot that it would have alone.
-/

namespace WalnutGateway

/-! ## The table -/

/-- `SOCKET_POLL_MAX`. -/
def socketPollMax : Nat := 2

/-- The socket that a slot is taken by. -/
def SocketPollSlot.key (slot : SocketPollSlot) : Option Int :=
  if slot.fd < 0 then none else some slot.fd

/-- `g_socket_slots`, and whether the TCPMON task runs. -/
structure PollTable where
  slots : List SocketPollSlot
  started : Bool

/-- The table at start. -/
def PollTable.init : PollTable :=
  ⟨List.replicate socketPollMax sdkWalnutSocketPollRelease, false⟩

/-- What `sdk_walnut_socket_with_callback` is given and gets. -/
structure OpenEnv where
  /-- There is a callback. -/
  callback : Bool
  /-- `wm_sdk_task_create` gives a task. -/
  taskCreated : Bool
  /-- `lwip_socket`. -/
  lwipSocket : Int
  /-- `lwip_ioctl(FIONBIO)` is 0. -/
  nonblock : Bool
  sndbuf : PollEnv

/-- `sdk_walnut_socket_with_callback`. -/
def PollTable.socketWithCallback (o : OpenEnv) (s : PollTable) : Int × PollTable :=
  if ¬ o.callback then (-1, s)
  else if ¬ s.started ∧ ¬ o.taskCreated then (-1, s)
  else
    let s := { s with started := true }
    match SlotTable.place SocketPollSlot.key (sdkWalnutSocketWithCallback o.sndbuf o.lwipSocket)
      s.slots with
    | none => (-1, s)
    | some slots =>
      if o.lwipSocket < 0 then (o.lwipSocket, s)
      else if ¬ o.nonblock then (-1, s)
      else (o.lwipSocket, { s with slots := slots })

/-- `sdk_walnut_socket_poll_release`. -/
def PollTable.release (fd : Int) (s : PollTable) : PollTable :=
  let freed := fun _ => sdkWalnutSocketPollRelease
  { s with slots := SlotTable.modify SocketPollSlot.key fd freed s.slots }

/-- `sdk_walnut_socket_poll_mark_connecting`. -/
def PollTable.markConnecting (fd : Int) (s : PollTable) : PollTable :=
  let marked := sdkWalnutSocketPollMarkConnecting fd
  { s with slots := SlotTable.modify SocketPollSlot.key fd marked s.slots }

/-- `sdk_walnut_socket_poll_note_sent`. -/
def PollTable.noteSent (env : PollEnv) (fd len : Int) (s : PollTable) : PollTable :=
  let noted := sdkWalnutSocketPollNoteSent env fd len
  { s with slots := SlotTable.modify SocketPollSlot.key fd noted s.slots }

/-- An event with the socket it is for. -/
abbrev SocketEvent := Option Int × NetconnEvent × Nat

/-- What all slots emit in a part of a turn, one after the other. -/
def emitAll (part : SocketPollSlot → List (NetconnEvent × Nat) × SocketPollSlot)
    (slots : List SocketPollSlot) : List SocketEvent × List SocketPollSlot :=
  (slots.flatMap fun slot => (part slot).1.map (slot.key, ·), slots.map fun slot => (part slot).2)

/-- The slot of a turn in which the kernel answers `envs` for the sockets. -/
def serviceSlot (envs : Int → PollEnv) (slot : SocketPollSlot) :
    List (NetconnEvent × Nat) × SocketPollSlot :=
  if slot.fd < 0 then ([], slot) else socketPollServiceSlot (envs slot.fd) slot

/-- A turn of `socket_poll_loop`; `selectRet` is the answer of `lwip_select`. -/
def PollTable.loop (selectRet : Int) (envs : Int → PollEnv) (s : PollTable) :
    List SocketEvent × PollTable :=
  if s.slots.all fun slot => slot.fd < 0 then ([], s)
  else
    let synth := emitAll socketPollDeliverSynth s.slots
    if selectRet ≤ 0 then (synth.1, { s with slots := synth.2 })
    else
      let serviced := emitAll (serviceSlot envs) synth.2
      (synth.1 ++ serviced.1, { s with slots := serviced.2 })

/-- What is done with the table. -/
inductive TableOp
  | socketWithCallback (o : OpenEnv)
  | release (fd : Int)
  | markConnecting (fd : Int)
  | noteSent (env : PollEnv) (fd len : Int)
  | turn (selectRet : Int) (envs : Int → PollEnv)

/-- The table under these operations; the answers are the events. -/
def tableMachine : Machine PollTable TableOp (List SocketEvent) where
  step s
    | .socketWithCallback o => ([], (s.socketWithCallback o).2)
    | .release fd => ([], s.release fd)
    | .markConnecting fd => ([], s.markConnecting fd)
    | .noteSent env fd len => ([], s.noteSent env fd len)
    | .turn selectRet envs => s.loop selectRet envs

/-! ## One socket alone -/

/-- What is done with one socket. -/
inductive SlotOp
  | opened (env : PollEnv)
  | released
  | connecting
  | sent (env : PollEnv) (len : Int)
  | turn (selectRet : Int) (env : PollEnv)
  | elsewhere

/-- A socket, if it is open, under these operations. -/
def slotMachine (fd : Int) :
    Machine (Option SocketPollSlot) SlotOp (List (NetconnEvent × Nat)) where
  step slot
    | .opened env => ([], some (sdkWalnutSocketWithCallback env fd))
    | .released => ([], none)
    | .connecting => ([], slot.map (sdkWalnutSocketPollMarkConnecting fd))
    | .sent env len => ([], slot.map (sdkWalnutSocketPollNoteSent env fd len))
    | .turn selectRet env =>
      (slot.elim [] fun slot => (socketPollLoop selectRet env slot).1,
        slot.map fun slot => (socketPollLoop selectRet env slot).2)
    | .elsewhere => ([], slot)

/-- What an operation on the table is for one socket. -/
def TableOp.on (fd : Int) (s : PollTable) : TableOp → SlotOp
  | .socketWithCallback o =>
    if (s.socketWithCallback o).1 = fd then .opened o.sndbuf else .elsewhere
  | .release fd' => if fd' = fd then .released else .elsewhere
  | .markConnecting fd' => if fd' = fd then .connecting else .elsewhere
  | .noteSent env fd' len => if fd' = fd then .sent env len else .elsewhere
  | .turn selectRet envs => .turn selectRet (envs fd)

/-- The operations of a run as one socket sees them. -/
def seenBy (fd : Int) (s : PollTable) (ops : List TableOp) : List SlotOp :=
  (tableMachine.trace s ops).map fun t => t.2.on fd t.1

/-- The events of a socket. -/
def eventsOf (fd : Int) (events : List SocketEvent) : List (NetconnEvent × Nat) :=
  events.filterMap fun e => if e.1 = some fd then some e.2 else none

/-- The slot of a socket. -/
def PollTable.slotOf (fd : Int) (s : PollTable) : Option SocketPollSlot :=
  SlotTable.lookup SocketPollSlot.key fd s.slots

/-! ## Keys -/

section Keys

variable {slot : SocketPollSlot} {fd : Int}

theorem key_eq_some_iff : slot.key = some fd ↔ slot.fd = fd ∧ 0 ≤ fd := by
  unfold SocketPollSlot.key
  split
  · exact iff_of_false (by simp) (by omega)
  · rw [Option.some.injEq]
    omega

theorem key_eq_none_iff : slot.key = none ↔ slot.fd < 0 := by
  unfold SocketPollSlot.key
  split <;> simp_all

theorem key_congr {slot' : SocketPollSlot} (h : slot'.fd = slot.fd) : slot'.key = slot.key := by
  rw [SocketPollSlot.key, SocketPollSlot.key, h]

theorem fd_markConnecting (fd : Int) (slot : SocketPollSlot) :
    (sdkWalnutSocketPollMarkConnecting fd slot).fd = slot.fd := by
  unfold sdkWalnutSocketPollMarkConnecting
  split <;> rfl

theorem fd_noteSent (env : PollEnv) (fd len : Int) (slot : SocketPollSlot) :
    (sdkWalnutSocketPollNoteSent env fd len slot).fd = slot.fd := by
  unfold sdkWalnutSocketPollNoteSent
  split_ifs <;> rfl

theorem fd_deliverSynth (slot : SocketPollSlot) : (socketPollDeliverSynth slot).2.fd = slot.fd := by
  unfold socketPollDeliverSynth
  split <;> rfl

theorem fd_serviceSlot (envs : Int → PollEnv) (slot : SocketPollSlot) :
    (serviceSlot envs slot).2.fd = slot.fd := by
  unfold serviceSlot socketPollServiceSlot
  split_ifs
  · rfl
  · rfl
  · rfl
  · rfl
  · unfold SocketPollSlot.serviceConnect
    split_ifs <;> rfl
  · unfold SocketPollSlot.serviceWritable SocketPollSlot.serviceAcked
      SocketPollSlot.serviceReadable
    dsimp only
    split_ifs <;> rfl

end Keys

/-! ## One step -/

/-- The slots are told apart by their sockets, and there are always two. -/
structure PollTable.Ok (s : PollTable) : Prop where
  distinct : SlotTable.Distinct SocketPollSlot.key s.slots
  length : s.slots.length = socketPollMax

/-- The kernel hands out no number that the table has for another socket. -/
def FreshSocket (s : PollTable) : TableOp → Prop
  | .socketWithCallback o => o.lwipSocket ∉ SlotTable.keys SocketPollSlot.key s.slots
  | _ => True

/-- Opening a socket is refused, or takes a free slot for a new one. -/
theorem socketWithCallback_cases {s : PollTable} (hs : s.Ok) (o : OpenEnv)
    (hfresh : o.lwipSocket ∉ SlotTable.keys SocketPollSlot.key s.slots) :
    ((s.socketWithCallback o).1 < 0 ∧ (s.socketWithCallback o).2.slots = s.slots) ∨
      ((s.socketWithCallback o).1 = o.lwipSocket ∧ 0 ≤ o.lwipSocket ∧
        (s.socketWithCallback o).2.Ok ∧ ∀ fd, (s.socketWithCallback o).2.slotOf fd =
          if fd = o.lwipSocket then some (sdkWalnutSocketWithCallback o.sndbuf o.lwipSocket)
          else s.slotOf fd) := by
  unfold PollTable.socketWithCallback
  dsimp only
  by_cases hcallback : ¬ o.callback = true
  · rw [if_pos hcallback]
    exact Or.inl ⟨Int.negSucc_lt_zero 0, rfl⟩
  rw [if_neg hcallback]
  by_cases htask : ¬ s.started = true ∧ ¬ o.taskCreated = true
  · rw [if_pos htask]
    exact Or.inl ⟨Int.negSucc_lt_zero 0, rfl⟩
  rw [if_neg htask]
  cases hplace : SlotTable.place SocketPollSlot.key
      (sdkWalnutSocketWithCallback o.sndbuf o.lwipSocket) s.slots with
  | none => exact Or.inl ⟨Int.negSucc_lt_zero 0, rfl⟩
  | some slots =>
    dsimp only
    by_cases hsocket : o.lwipSocket < 0
    · rw [if_pos hsocket]
      exact Or.inl ⟨hsocket, rfl⟩
    rw [if_neg hsocket]
    by_cases hnonblock : ¬ o.nonblock = true
    · rw [if_pos hnonblock]
      exact Or.inl ⟨Int.negSucc_lt_zero 0, rfl⟩
    rw [if_neg hnonblock]
    have hkey : (sdkWalnutSocketWithCallback o.sndbuf o.lwipSocket).key = some o.lwipSocket :=
      key_eq_some_iff.mpr ⟨rfl, by omega⟩
    obtain ⟨hdistinct, hlength, hlookup⟩ := SlotTable.place_spec hkey hfresh hs.distinct hplace
    exact Or.inr ⟨rfl, by omega, ⟨hdistinct, hlength.trans hs.length⟩, hlookup⟩

theorem length_modify (fd : Int) (f : SocketPollSlot → SocketPollSlot)
    (slots : List SocketPollSlot) :
    (SlotTable.modify SocketPollSlot.key fd f slots).length = slots.length := by
  induction slots with
  | nil => rfl
  | cons slot slots ih =>
    unfold SlotTable.modify
    split
    · rfl
    · rw [List.length_cons, ih, List.length_cons]

/-- A slot that is changed under its socket is changed for this socket alone. -/
theorem ok_modify {s : PollTable} (hs : s.Ok) (fd : Int) {f : SocketPollSlot → SocketPollSlot}
    (hf : ∀ slot, (f slot).fd = slot.fd) :
    PollTable.Ok { s with slots := SlotTable.modify SocketPollSlot.key fd f s.slots } ∧
      ∀ fd', PollTable.slotOf fd'
          { s with slots := SlotTable.modify SocketPollSlot.key fd f s.slots } =
        if fd = fd' then (s.slotOf fd').map f else s.slotOf fd' := by
  have hkey (slot : SocketPollSlot) : (f slot).key = slot.key := key_congr (hf slot)
  refine ⟨⟨?_, (length_modify fd f s.slots).trans hs.length⟩, fun fd' => ?_⟩
  · rw [SlotTable.Distinct, SlotTable.keys_modify fun slot h => (hkey slot).trans h]
    exact hs.distinct
  · split
    · rename_i heq
      subst heq
      exact SlotTable.lookup_modify_self fun slot h => (hkey slot).trans h
    · rename_i hne
      refine SlotTable.lookup_modify_of_ne (fun slot h => ?_) fun heq => hne heq.symm
      rw [hkey, h]
      exact fun heq => hne (Option.some.inj heq)

/-- A part of a turn over all slots is that part for each socket. -/
theorem emitAll_spec {slots : List SocketPollSlot}
    (hdistinct : SlotTable.Distinct SocketPollSlot.key slots)
    {part : SocketPollSlot → List (NetconnEvent × Nat) × SocketPollSlot}
    (hpart : ∀ slot, (part slot).2.fd = slot.fd) (fd : Int) :
    SlotTable.Distinct SocketPollSlot.key (emitAll part slots).2 ∧
      (emitAll part slots).2.length = slots.length ∧
      eventsOf fd (emitAll part slots).1 =
        (SlotTable.lookup SocketPollSlot.key fd slots).elim [] (fun slot => (part slot).1) ∧
      SlotTable.lookup SocketPollSlot.key fd (emitAll part slots).2 =
        (SlotTable.lookup SocketPollSlot.key fd slots).map fun slot => (part slot).2 := by
  have hkey (slot : SocketPollSlot) : (part slot).2.key = slot.key := key_congr (hpart slot)
  refine ⟨?_, List.length_map _, SlotTable.filter_emitted _ hdistinct, SlotTable.lookup_map hkey⟩
  rw [SlotTable.Distinct, emitAll, SlotTable.keys_map hkey]
  exact hdistinct

/-- A turn of the loop is a turn for each socket. -/
theorem loop_spec {s : PollTable} (hs : s.Ok) (selectRet : Int) (envs : Int → PollEnv) {fd : Int}
    (hfd : 0 ≤ fd) :
    (s.loop selectRet envs).2.Ok ∧
      eventsOf fd (s.loop selectRet envs).1 =
        (s.slotOf fd).elim [] (fun slot => (socketPollLoop selectRet (envs fd) slot).1) ∧
      (s.loop selectRet envs).2.slotOf fd =
        (s.slotOf fd).map fun slot => (socketPollLoop selectRet (envs fd) slot).2 := by
  unfold PollTable.loop
  split
  · rename_i hfree
    have hnone : s.slotOf fd = none := by
      rw [PollTable.slotOf, SlotTable.lookup_eq_none_iff]
      intro hmem
      obtain ⟨slot, hslot, hkey⟩ := List.mem_filterMap.mp hmem
      have hneg := of_decide_eq_true (List.all_eq_true.mp hfree slot hslot)
      rw [key_eq_none_iff.mpr hneg] at hkey
      cases hkey
    rw [hnone]
    exact ⟨hs, rfl, rfl⟩
  · obtain ⟨hdistinct, hlength, hevents, hlookup⟩ := emitAll_spec hs.distinct fd_deliverSynth fd
    dsimp only
    by_cases hret : selectRet ≤ 0
    · rw [if_pos hret]
      refine ⟨⟨hdistinct, hlength.trans hs.length⟩, ?_, ?_⟩
      · simp only [socketPollLoop, if_pos hret]
        exact hevents
      · simp only [socketPollLoop, if_pos hret]
        exact hlookup
    · rw [if_neg hret]
      obtain ⟨hdistinct', hlength', hevents', hlookup'⟩ :=
        emitAll_spec hdistinct (fd_serviceSlot envs) fd
      have happend (xs ys : List SocketEvent) :
          eventsOf fd (xs ++ ys) = eventsOf fd xs ++ eventsOf fd ys := List.filterMap_append
      refine ⟨⟨hdistinct', hlength'.trans (hlength.trans hs.length)⟩, ?_, ?_⟩
      · rw [happend, hevents, hevents', hlookup, PollTable.slotOf]
        cases hslot : SlotTable.lookup SocketPollSlot.key fd s.slots with
        | none => rfl
        | some slot =>
          have hopen := (key_eq_some_iff.mp (SlotTable.key_of_lookup hslot)).1
          simp only [Option.elim_some, Option.map_some, socketPollLoop, if_neg hret, serviceSlot,
            fd_deliverSynth, hopen, if_neg (not_lt.mpr hfd)]
      · change SlotTable.lookup SocketPollSlot.key fd _ = _
        rw [hlookup', hlookup, PollTable.slotOf]
        cases hslot : SlotTable.lookup SocketPollSlot.key fd s.slots with
        | none => rfl
        | some slot =>
          have hopen := (key_eq_some_iff.mp (SlotTable.key_of_lookup hslot)).1
          simp only [Option.map_some, socketPollLoop, if_neg hret, serviceSlot,
            fd_deliverSynth, hopen, if_neg (not_lt.mpr hfd)]

/-- A step on the table is a step of each socket. -/
theorem tableMachine_step {s : PollTable} (hs : s.Ok) (op : TableOp) (hfresh : FreshSocket s op)
    {fd : Int} (hfd : 0 ≤ fd) :
    (tableMachine.step s op).2.Ok ∧
      eventsOf fd (tableMachine.step s op).1 =
        ((slotMachine fd).step (s.slotOf fd) (op.on fd s)).1 ∧
      (tableMachine.step s op).2.slotOf fd =
        ((slotMachine fd).step (s.slotOf fd) (op.on fd s)).2 := by
  cases op with
  | socketWithCallback o =>
    simp only [tableMachine, TableOp.on]
    rcases socketWithCallback_cases hs o hfresh with ⟨hneg, hslots⟩ | ⟨hret, hpos, hok, hslot⟩
    · have hsame : (s.socketWithCallback o).2.slotOf fd = s.slotOf fd := by
        rw [PollTable.slotOf, hslots, PollTable.slotOf]
      rw [if_neg (by omega)]
      exact ⟨⟨hslots.symm ▸ hs.distinct, hslots.symm ▸ hs.length⟩, rfl, hsame⟩
    · rw [hret, hslot]
      by_cases heq : o.lwipSocket = fd
      · rw [if_pos heq, if_pos heq.symm, heq]
        exact ⟨hok, rfl, rfl⟩
      · rw [if_neg heq, if_neg fun h => heq h.symm]
        exact ⟨hok, rfl, rfl⟩
  | release fd' =>
    simp only [tableMachine, TableOp.on, PollTable.release]
    have hfree (slot : SocketPollSlot) :
        ((fun _ : SocketPollSlot => sdkWalnutSocketPollRelease) slot).key = none := rfl
    refine ⟨⟨?_, (length_modify _ _ _).trans hs.length⟩, ?_, ?_⟩
    · rw [SlotTable.Distinct, SlotTable.keys_modify_free hfree]
      exact hs.distinct.erase fd'
    · split <;> rfl
    · split
      · rename_i heq
        subst heq
        exact SlotTable.lookup_modify_free hfree hs.distinct
      · rename_i hne
        exact SlotTable.lookup_modify_of_ne (fun slot _ => by rw [hfree slot]; simp)
          fun heq => hne heq.symm
  | markConnecting fd' =>
    obtain ⟨hok, hslot⟩ := ok_modify hs fd' (fd_markConnecting fd')
    simp only [tableMachine, TableOp.on]
    refine ⟨hok, by split <;> rfl, (hslot fd).trans ?_⟩
    split
    · rename_i heq
      subst heq
      rfl
    · rfl
  | noteSent env fd' len =>
    obtain ⟨hok, hslot⟩ := ok_modify hs fd' (fd_noteSent env fd' len)
    simp only [tableMachine, TableOp.on]
    refine ⟨hok, by split <;> rfl, (hslot fd).trans ?_⟩
    split
    · rename_i heq
      subst heq
      rfl
    · rfl
  | turn selectRet envs => exact loop_spec hs selectRet envs hfd

/-! ## Whole runs -/

/-- The table with two slots refines sockets that know nothing of each other: in every run in which
the kernel hands out no number twice at a time, each socket gets just the events, and is left in
just the state, that it would have if it were the only one; and no socket ever has two slots. -/
theorem socket_table_refines {s : PollTable} (hs : s.Ok) {ops : List TableOp}
    (h : tableMachine.Along FreshSocket s ops) {fd : Int} (hfd : 0 ≤ fd) :
    (tableMachine.run s ops).1.map (eventsOf fd) =
        ((slotMachine fd).run (s.slotOf fd) (seenBy fd s ops)).1 ∧
      (tableMachine.run s ops).2.slotOf fd =
        ((slotMachine fd).run (s.slotOf fd) (seenBy fd s ops)).2 ∧
      (tableMachine.run s ops).2.Ok := by
  induction ops generalizing s with
  | nil => exact ⟨rfl, rfl, hs⟩
  | cons op ops ih =>
    obtain ⟨hok, hevents, hslot⟩ := tableMachine_step hs op h.1 hfd
    obtain ⟨hrest, hlast, hend⟩ := ih hok h.2
    simp only [seenBy, Machine.trace, List.map_cons, Machine.run]
    rw [hslot] at hrest hlast
    exact ⟨congrArg₂ List.cons hevents hrest, hlast, hend⟩

theorem ok_init : PollTable.init.Ok where
  distinct := List.nodup_nil
  length := rfl

/-- A kernel that answers nothing. -/
def silentPoll : PollEnv := ⟨false, false, false, 0, 0, 0, 0, 0, -1, 0⟩

/-- Two sockets, one of which sends. -/
def twoSockets : List TableOp :=
  [.socketWithCallback ⟨true, true, 3, true, silentPoll⟩,
    .socketWithCallback ⟨true, true, 4, true, silentPoll⟩,
    .markConnecting 3, .noteSent silentPoll 4 24, .turn 0 fun _ => silentPoll, .release 3]

theorem fresh_sockets_two : tableMachine.Along FreshSocket .init twoSockets := by
  refine ⟨?_, ?_, trivial, trivial, trivial, trivial, trivial⟩
  · change (3 : Int) ∉ SlotTable.keys SocketPollSlot.key _
    decide +kernel
  · change (4 : Int) ∉ SlotTable.keys SocketPollSlot.key _
    decide +kernel

theorem socket_table_refines_two :
    (tableMachine.run .init twoSockets).1.map (eventsOf 4) =
        ((slotMachine 4).run (PollTable.init.slotOf 4) (seenBy 4 .init twoSockets)).1 ∧
      (tableMachine.run .init twoSockets).2.slotOf 4 =
        ((slotMachine 4).run (PollTable.init.slotOf 4) (seenBy 4 .init twoSockets)).2 ∧
      (tableMachine.run .init twoSockets).2.Ok :=
  socket_table_refines ok_init fresh_sockets_two (by decide)

/-- The other socket's release does not lose the acknowledgement. -/
example : (tableMachine.run .init twoSockets).1.map (eventsOf 4) =
    [[], [], [], [], [(.sendacked, 24)], []] := by decide +kernel

end WalnutGateway
