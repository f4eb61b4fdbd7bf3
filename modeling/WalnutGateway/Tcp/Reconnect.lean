import WalnutGateway.Common.Text
import WalnutGateway.Tcp.ClientInvariant
import WalnutGateway.Tcp.ConnectEvent

/-!
# The delay before a new connection

In `RECONNECT_DELAY` the client counts its cycles up to the retry interval, and the timeout of the
state runs beside the count. A stay is as long as the interval exactly if that timeout does not
come first.
-/

namespace WalnutGateway

/-! ## The configuration is kept -/

section Config

variable {env : TcpEnv} {s : TcpSystem}

theorem config_tcpSendData (env : TcpEnv) (s : TcpSystem) (buffer : List Byte) :
    (tcpSendData env s buffer).2.client.config = s.client.config := by
  unfold tcpSendData
  dsimp only
  split_ifs <;> rfl

theorem config_closeSocket (s : TcpSystem) : s.closeSocket.client.config = s.client.config := by
  unfold TcpSystem.closeSocket
  split <;> rfl

theorem config_tcpStateHandleWaitAck (env : TcpEnv) (s : TcpSystem) :
    (tcpStateHandleWaitAck env s).2.client.config = s.client.config := by
  unfold tcpStateHandleWaitAck
  repeat' split
  all_goals rfl

/-- No handler changes the configuration. -/
theorem config_tcpStateHandler (env : TcpEnv) (s : TcpSystem) :
    (tcpStateHandler env s).2.client.config = s.client.config := by
  unfold tcpStateHandler
  split
  · rfl
  · rfl
  · unfold tcpStateHandleSocketCreating
    dsimp only
    split <;> rfl
  · unfold tcpStateHandleSocketCreated
    repeat' split
    all_goals rfl
  · rfl
  · unfold tcpStateHandleConnected
    split <;> rfl
  · simp only [tcpStateHandleSendingLogin]
    split
    · rfl
    · split
      · rfl
      · exact config_tcpSendData _ _ _
  · exact config_tcpStateHandleWaitAck env s
  · rfl
  · simp only [tcpStateHandleSendingData]
    split
    · rfl
    · split
      · rfl
      · split
        · rfl
        · split
          · exact config_tcpSendData _ _ _
          · split <;> exact config_tcpSendData _ _ _
  · exact config_tcpStateHandleWaitAck env s
  · rfl
  · rw [tcpStateHandleClosed_eq]
    exact config_closeSocket _
  · unfold tcpStateHandleReconnectDelay
    dsimp only
    split <;> rfl
  · exact config_closeSocket s

theorem config_tcpCyclePrelude (env : TcpEnv) (s : TcpSystem) :
    (tcpCyclePrelude env s).client.config = s.client.config := by
  have hstate (s : TcpSystem) :
      (tcpCheckStateTimeout env s).client.config = s.client.config := by
    rcases tcpCheckStateTimeout_cases env s with heq | ⟨state, -, ticks, heq⟩
    · rw [heq]
    · rw [heq]
      rfl
  have hoverall (s : TcpSystem) :
      (tcpCheckOverallTimeout env s).client.config = s.client.config := by
    unfold tcpCheckOverallTimeout
    split
    · rfl
    · split <;> rfl
  unfold tcpCyclePrelude
  dsimp only
  split <;> split <;> simp only [hoverall, hstate]

theorem config_tcpClientCycle (env : TcpEnv) (s : TcpSystem) :
    (tcpClientCycle env s).client.config = s.client.config := by
  rw [tcpClientCycle, tcpDispatch_eq_setState]
  exact (config_tcpStateHandler env _).trans (config_tcpCyclePrelude env s)

theorem config_tcpSocketEventCallback (fd : Int) (evt : NetconnEvent) (len : Nat)
    (s : TcpSystem) :
    (tcpSocketEventCallback fd evt len s).client.config = s.client.config := by
  unfold tcpSocketEventCallback
  split
  · rfl
  · split
    · rfl
    · cases evt <;> dsimp only
      case sendacked =>
        split
        · split <;> rfl
        · rfl
      all_goals first | rfl | (split <;> rfl)

theorem config_run (s : TcpSystem) (is : List TcpInput) :
    (tcpMachine.run s is).2.client.config = s.client.config := by
  refine tcpMachine.invariant (I := fun t => t.client.config = s.client.config) ?_ rfl
    (Machine.Along.trivial tcpMachine s is)
  rintro t (env | ⟨fd, evt, len⟩ | _) ht -
  · exact (config_tcpClientCycle env t).trans ht
  · exact (config_tcpSocketEventCallback fd evt len t).trans ht
  · exact ht

end Config

/-! ## A stay -/

/-- The timeout of `RECONNECT_DELAY` in `g_tcp_state_timeouts`. -/
def reconnectDelayTimeoutMs : UInt32 := (tcpStateTimeout .reconnectDelay).1

namespace TcpSystem

/-- `state_entry_tick` once a cycle has seen the state. -/
def entryTick (env : TcpEnv) (s : TcpSystem) : UInt32 :=
  if s.lastState ≠ s.client.state then env.ticks else s.client.stateEntryTick

/-- The cycle moves the client into the delay. -/
def EntersDelay (s : TcpSystem) (env : TcpEnv) : Prop :=
  (tcpCyclePrelude env s).client.state ≠ .reconnectDelay ∧
    (tcpClientCycle env s).client.state = .reconnectDelay

/-- A cycle in the delay, without the overall timeout. -/
def Delayed (s : TcpSystem) : TcpInput → Prop
  | .cycle env => s.client.state = .reconnectDelay ∧
      env.ticks - s.client.sessionDownSince < tcpOverallTimeoutMs
  | _ => False

instance (s : TcpSystem) : ∀ i, Decidable (s.Delayed i)
  | .cycle env => inferInstanceAs (Decidable (s.client.state = .reconnectDelay ∧
      env.ticks - s.client.sessionDownSince < tcpOverallTimeoutMs))
  | .event .. => isFalse id
  | .resetConnection => isFalse id

/-- The cycles of a stay in the delay: nothing intervenes, and the last of them leaves it. -/
structure Stay (s : TcpSystem) (stay : List TcpEnv) : Prop where
  delayed : tcpMachine.Along Delayed s (stay.map .cycle)
  left : (tcpMachine.run s (stay.map .cycle)).2.client.state ≠ .reconnectDelay

/-- No cycle before the last one that the retry interval asks for finds the timeout expired. -/
def OnTime (target : Nat) (entry : UInt32) (stay : List TcpEnv) : Prop :=
  ∀ k env, stay[k]? = some env → k + 1 < target → env.ticks - entry < reconnectDelayTimeoutMs

end TcpSystem

/-- The cycles that a retry interval asks for. -/
def retryCycles (c : WewareTcpConfig) : Nat :=
  max 1 (c.retryIntervalMs.toNat / tcpTaskIntervalMs.toNat)

theorem reconnectTargetCycles_eq {c : WewareTcpConfig} (h : c.retryIntervalMs ≠ 0) :
    reconnectTargetCycles (some c) = retryCycles c := by
  have hpos : c.retryIntervalMs > 0 := UInt32.pos_iff_ne_zero.mpr h
  have hdiv : (c.retryIntervalMs / tcpTaskIntervalMs).toNat =
      c.retryIntervalMs.toNat / tcpTaskIntervalMs.toNat := UInt32.toNat_div _ _
  unfold reconnectTargetCycles retryCycles
  simp only [hpos, ite_true]
  split_ifs with hzero
  · rw [← hdiv, hzero]
    rfl
  · have hne : (c.retryIntervalMs / tcpTaskIntervalMs).toNat ≠ 0 :=
      fun heq => hzero (UInt32.toNat_inj.mp heq)
    rw [← hdiv]
    omega

section Stay

variable {s : TcpSystem} {env : TcpEnv} {c : WewareTcpConfig}

/-- The cycle that enters the delay has cleared the count. -/
theorem TcpSystem.EntersDelay.cycles_eq_zero (h : s.EntersDelay env) :
    (tcpClientCycle env s).client.reconnectDelayCycles = 0 := by
  obtain ⟨hbefore, hafter⟩ := h
  rw [tcpClientCycle, tcpDispatch_eq_setState] at hafter ⊢
  generalize tcpCyclePrelude env s = t at hbefore hafter ⊢
  have hnext : t.client.state.next (tcpStateHandler env t).1 = .reconnectDelay := hafter
  have hclosed : t.client.state = .closed := by
    generalize (tcpStateHandler env t).1 = result at hnext
    cases hstate : t.client.state <;> rw [hstate] at hnext hbefore <;> cases result <;>
      first | exact absurd rfl hbefore | rfl | cases hnext
  have hhandler : tcpStateHandler env t = tcpStateHandleClosed t := by
    unfold tcpStateHandler
    rw [hclosed]
  rw [hhandler, tcpStateHandleClosed_eq]
  rfl

/-- The client in the delay, once a cycle has seen the state. -/
def TcpSystem.seen (env : TcpEnv) (s : TcpSystem) : TcpSystem :=
  { s with
    lastState := s.client.state
    client := { s.client with stateEntryTick := s.entryTick env } }

theorem TcpSystem.seen_eq (env : TcpEnv) (s : TcpSystem) :
    (if s.lastState ≠ s.client.state then
      { s with
        lastState := s.client.state
        client := { s.client with stateEntryTick := env.ticks } }
    else s) = s.seen env := by
  unfold TcpSystem.seen TcpSystem.entryTick
  split
  · rfl
  · rename_i hsame
    rw [not_ne_iff] at hsame
    rw [← hsame]

/-- No timeout has come: only what is pending may change before the handler. -/
theorem tcpCyclePrelude_waiting (hstate : s.client.state = .reconnectDelay)
    (hdown : env.ticks - s.client.sessionDownSince < tcpOverallTimeoutMs)
    (htime : env.ticks - s.entryTick env < reconnectDelayTimeoutMs) :
    ∃ pending, tcpCyclePrelude env s =
      { s.seen env with client := { (s.seen env).client with recvPending := pending } } := by
  have hquiet : tcpCheckStateTimeout env (s.seen env) = s.seen env := by
    unfold tcpCheckStateTimeout TcpSystem.seen
    dsimp only
    rw [hstate]
    exact if_pos (Or.inr htime)
  have hoverall : tcpCheckOverallTimeout env (s.seen env) = s.seen env := by
    unfold tcpCheckOverallTimeout TcpSystem.seen
    dsimp only
    rw [hstate]
    exact if_pos hdown
  unfold tcpCyclePrelude
  rw [s.seen_eq env]
  dsimp only
  rw [hquiet, hoverall]
  split
  · exact ⟨false, rfl⟩
  · exact ⟨s.client.recvPending, rfl⟩

/-- The timeout of the state ends the delay. -/
theorem tcpCyclePrelude_expired (hstate : s.client.state = .reconnectDelay)
    (hdown : env.ticks - s.client.sessionDownSince < tcpOverallTimeoutMs)
    (htime : ¬ env.ticks - s.entryTick env < reconnectDelayTimeoutMs) :
    (tcpCyclePrelude env s).client.state = .init := by
  have hstart : (tcpCheckStateTimeout env (s.seen env)).client.state = .init ∧
      (tcpCheckStateTimeout env (s.seen env)).client.sessionDownSince =
        s.client.sessionDownSince := by
    unfold tcpCheckStateTimeout TcpSystem.seen
    dsimp only
    rw [hstate]
    split_ifs with hquiet hdelay
    · have htimeout : reconnectDelayTimeoutMs ≠ 0 := by decide
      exact absurd hquiet (not_or.mpr ⟨htimeout, htime⟩)
    · exact ⟨rfl, rfl⟩
    · exact absurd (Or.inr rfl) hdelay
  unfold tcpCyclePrelude
  rw [s.seen_eq env]
  dsimp only
  generalize tcpCheckStateTimeout env (s.seen env) = t at hstart
  have hoverall : tcpCheckOverallTimeout env t = t := by
    unfold tcpCheckOverallTimeout
    rw [hstart.1, hstart.2]
    exact if_pos hdown
  rw [hoverall]
  split <;> exact hstart.1

/-- A cycle in the delay that no timeout ends counts, and leaves with the last one. -/
theorem tcpClientCycle_waiting (hstate : s.client.state = .reconnectDelay)
    (hdown : env.ticks - s.client.sessionDownSince < tcpOverallTimeoutMs)
    (htime : env.ticks - s.entryTick env < reconnectDelayTimeoutMs) :
    if reconnectTargetCycles s.client.config ≤ s.client.reconnectDelayCycles + 1 then
      (tcpClientCycle env s).client.state = .init
    else
      (tcpClientCycle env s).client.state = .reconnectDelay ∧
        (tcpClientCycle env s).lastState = .reconnectDelay ∧
        (tcpClientCycle env s).client.stateEntryTick = s.entryTick env ∧
        (tcpClientCycle env s).client.reconnectDelayCycles =
          s.client.reconnectDelayCycles + 1 := by
  obtain ⟨pending, hprelude⟩ := tcpCyclePrelude_waiting hstate hdown htime
  rw [tcpClientCycle, hprelude, tcpDispatch_eq_setState]
  unfold tcpStateHandler tcpStateHandleReconnectDelay TcpSystem.seen TcpSystem.setState
  simp only [hstate, ge_iff_le]
  split <;> simp [TcpState.next, TcpState.onSuccess]

theorem tcpClientCycle_expired (hstate : s.client.state = .reconnectDelay)
    (hdown : env.ticks - s.client.sessionDownSince < tcpOverallTimeoutMs)
    (htime : ¬ env.ticks - s.entryTick env < reconnectDelayTimeoutMs) :
    (tcpClientCycle env s).client.state = .waitNetwork := by
  have hprelude := tcpCyclePrelude_expired hstate hdown htime
  rw [tcpClientCycle, tcpDispatch_eq_setState, tcpStateHandler, hprelude]
  rfl

/-- Once the client has left the delay, the stay is over. -/
theorem TcpSystem.Stay.eq_nil {stay : List TcpEnv} (h : s.Stay stay)
    (hstate : s.client.state ≠ .reconnectDelay) : stay = [] := by
  cases stay with
  | nil => rfl
  | cons env stay => exact absurd h.delayed.1.1 hstate

/-- With `k` cycles counted, the rest of a stay fills the interval exactly if no cycle that the
interval asks for finds the timeout expired. -/
theorem TcpSystem.Stay.target_le_iff {stay : List TcpEnv} {target k : Nat} {entry : UInt32}
    (h : s.Stay stay) (hstate : s.client.state = .reconnectDelay)
    (htarget : reconnectTargetCycles s.client.config = target)
    (hk : s.client.reconnectDelayCycles = k) (hlt : k < target)
    (hentry : ∀ env ∈ stay.head?, s.entryTick env = entry) :
    target ≤ k + stay.length ↔ ∀ i env, stay[i]? = some env → k + i + 1 < target →
      env.ticks - entry < reconnectDelayTimeoutMs := by
  induction stay generalizing s k with
  | nil => exact absurd hstate h.left
  | cons env stay ih =>
    obtain ⟨⟨-, hdown⟩, hrest⟩ := h.delayed
    have hnext : (tcpClientCycle env s).Stay stay := ⟨hrest, h.left⟩
    obtain rfl : s.entryTick env = entry := hentry env rfl
    by_cases htime : env.ticks - s.entryTick env < reconnectDelayTimeoutMs
    · have hcycle := tcpClientCycle_waiting hstate hdown htime
      rw [htarget, hk] at hcycle
      split_ifs at hcycle with hlast
      · obtain rfl := hnext.eq_nil (by rw [hcycle]; decide)
        simp only [List.length_singleton, hlast, true_iff]
        intro i env' _ hi
        omega
      · obtain ⟨hstate', hlast', htick, hcount⟩ := hcycle
        have hkept : ∀ env' ∈ stay.head?,
            (tcpClientCycle env s).entryTick env' = s.entryTick env := by
          intro env' _
          rw [entryTick, hlast', hstate', if_neg (by simp), htick]
        have hiff := ih hnext hstate' (by rw [config_tcpClientCycle, htarget]) hcount
          (by omega) hkept
        rw [List.length_cons, show k + (stay.length + 1) = k + 1 + stay.length by omega, hiff]
        constructor
        · intro hall i env' hi hlt'
          cases i with
          | zero =>
            cases hi
            exact htime
          | succ i => exact hall i env' hi (by omega)
        · intro hall i env' hi hlt'
          exact hall (i + 1) env' hi (by omega)
    · obtain rfl := hnext.eq_nil (by rw [tcpClientCycle_expired hstate hdown htime]; decide)
      constructor
      · intro hle i env' _ hi
        rw [List.length_singleton] at hle
        omega
      · intro hall
        by_contra hle
        exact htime (hall 0 env rfl (by simpa using hle))

end Stay

/-- The tick from which the timeout of the state counts in a stay. -/
def TcpSystem.stayEntry (s : TcpSystem) : List TcpEnv → UInt32
  | [] => s.client.stateEntryTick
  | env :: _ => s.entryTick env

section Client

variable {s : TcpSystem} {c : WewareTcpConfig} {enter : TcpEnv} {stay : List TcpEnv}

/-- After any past, a stay begins with nothing counted, and fills the retry interval exactly if
the timeout of the state does not end it before. -/
theorem reconnect_stay_iff (hconfig : s.client.config = some c) (hretry : c.retryIntervalMs ≠ 0)
    (past : List TcpInput) (henter : (tcpMachine.run s past).2.EntersDelay enter)
    (hstay : (tcpClientCycle enter (tcpMachine.run s past).2).Stay stay) :
    (tcpClientCycle enter (tcpMachine.run s past).2).client.reconnectDelayCycles = 0 ∧
      (retryCycles c ≤ stay.length ↔ TcpSystem.OnTime (retryCycles c)
        ((tcpClientCycle enter (tcpMachine.run s past).2).stayEntry stay) stay) := by
  have hzero := henter.cycles_eq_zero
  have htarget : reconnectTargetCycles
      (tcpClientCycle enter (tcpMachine.run s past).2).client.config = retryCycles c := by
    rw [config_tcpClientCycle, config_run, hconfig, reconnectTargetCycles_eq hretry]
  have hpos : 0 < retryCycles c := by
    unfold retryCycles
    omega
  have hentry : ∀ env ∈ stay.head?, (tcpClientCycle enter (tcpMachine.run s past).2).entryTick env =
      (tcpClientCycle enter (tcpMachine.run s past).2).stayEntry stay := by
    cases stay with
    | nil => exact nofun
    | cons env stay =>
      intro env' henv
      cases henv
      rfl
  have hiff := hstay.target_le_iff henter.2 htarget hzero hpos hentry
  simp only [Nat.zero_add] at hiff
  exact ⟨hzero, hiff⟩

/-- Cycles one task interval apart: only an interval of at most 101 cycles is kept. -/
theorem reconnect_stay_regular (hconfig : s.client.config = some c)
    (hretry : c.retryIntervalMs ≠ 0) (past : List TcpInput)
    (henter : (tcpMachine.run s past).2.EntersDelay enter)
    (hstay : (tcpClientCycle enter (tcpMachine.run s past).2).Stay stay)
    (hticks : ∀ k env, stay[k]? = some env →
      (env.ticks - (tcpClientCycle enter (tcpMachine.run s past).2).stayEntry stay).toNat =
        tcpTaskIntervalMs.toNat * k) :
    retryCycles c ≤ stay.length ↔ retryCycles c ≤ 101 := by
  have htimeout : reconnectDelayTimeoutMs.toNat = 20000 := rfl
  have hinterval : tcpTaskIntervalMs.toNat = 200 := rfl
  have hiff := (reconnect_stay_iff hconfig hretry past henter hstay).2
  constructor
  · intro hle
    by_contra hmany
    have hin : 100 < stay.length := by omega
    have hlate := hiff.mp hle 100 stay[100] (List.getElem?_eq_getElem hin) (by omega)
    have htick := hticks 100 stay[100] (List.getElem?_eq_getElem hin)
    rw [UInt32.lt_iff_toNat_lt] at hlate
    omega
  · intro hfew
    refine hiff.mpr fun k env hk hlt => ?_
    have htick := hticks k env hk
    rw [hinterval] at htick
    rw [UInt32.lt_iff_toNat_lt]
    omega

end Client

/-! ## A client that finds no network -/

/-- A configuration with this retry interval. -/
def retryConfig (retryIntervalMs : UInt32) : WewareTcpConfig :=
  ⟨CArray.ofList 64 (asciiBytes "13.126.118.139"), 9616, 30000, retryIntervalMs, false, true⟩

/-- A cycle without a network. -/
def offlineEnv (ticks : UInt32) : TcpEnv := { connectEnv with ticks, networkConnected := false }

/-- The client before its first cycle. -/
def offlineStart (retryIntervalMs : UInt32) : TcpSystem :=
  (ClientRun.start (some (retryConfig retryIntervalMs)) freshSendQueue 0).sys

/-- It waits for the network until the timeout of that state. -/
def offlinePast : List TcpInput := [.cycle (offlineEnv 0), .cycle (offlineEnv 200)]

/-- Cycles behind that timeout, one task interval apart. -/
def offlineStay (n : Nat) : List TcpEnv :=
  (List.range n).map fun k => offlineEnv (60400 + tcpTaskIntervalMs * UInt32.ofNat k)

/-- An interval of ten seconds is kept. -/
theorem reconnect_stay_ten_seconds :
    (tcpClientCycle (offlineEnv 60200)
        (tcpMachine.run (offlineStart 10000) offlinePast).2).client.reconnectDelayCycles = 0 ∧
      (retryCycles (retryConfig 10000) ≤ (offlineStay 50).length ↔
        TcpSystem.OnTime (retryCycles (retryConfig 10000)) 60400 (offlineStay 50)) :=
  reconnect_stay_iff (c := retryConfig 10000) rfl (by decide) offlinePast
    ⟨by decide +kernel, by decide +kernel⟩ ⟨by decide +kernel, by decide +kernel⟩

/-- An interval of thirty seconds ends with the timeout of the state, after 101 of 150 cycles. -/
theorem reconnect_stay_cut_short :
    ¬ ∀ (s : TcpSystem) (c : WewareTcpConfig) (past : List TcpInput) (enter : TcpEnv)
      (stay : List TcpEnv), s.client.config = some c → c.retryIntervalMs ≠ 0 →
      (tcpMachine.run s past).2.EntersDelay enter →
      (tcpClientCycle enter (tcpMachine.run s past).2).Stay stay →
      retryCycles c ≤ stay.length := by
  intro hall
  have hlong : retryCycles (retryConfig 30000) ≤ (offlineStay 101).length :=
    hall (offlineStart 30000) (retryConfig 30000) offlinePast (offlineEnv 60200) _ rfl (by decide)
      ⟨by decide +kernel, by decide +kernel⟩ ⟨by decide +kernel, by decide +kernel⟩
  exact absurd hlong (by decide +kernel)

end WalnutGateway
