import WalnutGateway.Common.Utils
import WalnutGateway.Gps.Manager
import WalnutGateway.Module.Watchdog

/-!
# Elapsed time when the tick counter wraps

The tick counter counts milliseconds and wraps at `2 ^ 32`. A difference of ticks is the time
that has passed if that is less than a turn of the counter. The seconds since the last packet
are differences of ticks that were divided by 1000: one of them is corrected for a counter that
wraps at `2 ^ 32` seconds, the other is not corrected, and both are right as long as the tick
counter did not wrap in between.
-/

namespace WalnutGateway

/-- `dt_sec` of `gps_ops_calc_speed_kmh_from_last_sent`. -/
def Gps.lastSentDtSec (uptime : UInt32) (g : Gps) : UInt32 :=
  let dt := if g.lastPacketSendUptimeSec ≤ uptime then uptime - g.lastPacketSendUptimeSec else 0
  if dt = 0 then gpsImplausibleSpeedMinDtSec else dt

/-- The speed is the distance over that time. -/
theorem Gps.calcSpeedKmhFromLastSent_eq (distance : ℚ → ℚ → ℚ → ℚ → ℚ) (uptime : UInt32) (g : Gps) :
    g.calcSpeedKmhFromLastSent distance uptime =
      if ¬ g.currentGpsData.fixValidCalculated ∨ g.lastValidGpsData.utcTime = 0 ∨
        g.lastPacketSendUptimeSec = 0 then 0
      else if ¬ gpsValidateCoordinates g.lastValidGpsData.latitudeDeg
        g.lastValidGpsData.longitudeDeg then 0
      else g.distanceFromLastValid distance * (36 / 10) / (g.lastSentDtSec uptime).toNat :=
  rfl

/-- The state after a packet that was sent `start` milliseconds after power-on. -/
def Gps.sentAt (start : Nat) (g : Gps) : Gps :=
  { g with lastPacketSendUptimeSec := utilsGetUptimeSeconds start }

/-- Seconds that are a time in milliseconds to within one second. -/
def WithinSecond (sec : UInt32) (ms : Nat) : Prop :=
  sec.toNat * 1000 ≤ ms + 1000 ∧ ms ≤ sec.toNat * 1000 + 1000

/-- What the helpers give `now` milliseconds after power-on is the time since `start`; without a
packet that was sent, no speed is computed. -/
structure ElapsedExact (g : Gps) (start now : Nat) : Prop where
  monotonic : (utilsMonotonicMsElapsed (wmSdkGetTicks now) (wmSdkGetTicks start)).toNat =
    now - start
  ticks : (utilsElapsedMsSince (wmSdkGetTicks now) (wmSdkGetTicks start)).toNat = now - start
  sinceSend : WithinSecond
    ((g.sentAt start).uptimeElapsedSinceLastSend (utilsGetUptimeSeconds now)) (now - start)
  speed : (g.sentAt start).lastPacketSendUptimeSec ≠ 0 →
    WithinSecond ((g.sentAt start).lastSentDtSec (utilsGetUptimeSeconds now)) (now - start)

section Elapsed

variable {start now : Nat}

/-- A difference of ticks is the time that has passed, if that is less than a turn. -/
theorem utilsElapsedMsSince_exact (h : start ≤ now) (hlt : now - start < 2 ^ 32) :
    (utilsElapsedMsSince (wmSdkGetTicks now) (wmSdkGetTicks start)).toNat = now - start := by
  rw [wmSdkGetTicks, wmSdkGetTicks, utilsElapsedMsSince_toNat h, Nat.mod_eq_of_lt hlt]

/-- The seconds since the last packet, as they are counted. -/
theorem uptimeElapsedSinceLastSend_toNat (g : Gps) (start now : Nat) :
    ((g.sentAt start).uptimeElapsedSinceLastSend (utilsGetUptimeSeconds now)).toNat =
      (2 ^ 32 - start % 2 ^ 32 / 1000 + now % 2 ^ 32 / 1000) % 2 ^ 32 := by
  have hstart : (utilsGetUptimeSeconds start).toNat = start % 2 ^ 32 / 1000 :=
    utilsGetUptimeSeconds_toNat start
  have hnow : (utilsGetUptimeSeconds now).toNat = now % 2 ^ 32 / 1000 :=
    utilsGetUptimeSeconds_toNat now
  unfold Gps.uptimeElapsedSinceLastSend Gps.sentAt
  dsimp only
  split_ifs with hzero
  · have hstart' := congrArg UInt32.toNat hzero
    rw [hstart, UInt32.toNat_zero] at hstart'
    omega
  · rw [UInt32.toNat_sub, hstart, hnow]

/-- The seconds of the speed, if the counter did not wrap and if it did. -/
theorem lastSentDtSec_toNat (g : Gps) (start now : Nat) :
    ((g.sentAt start).lastSentDtSec (utilsGetUptimeSeconds now)).toNat =
      max 1 (now % 2 ^ 32 / 1000 - start % 2 ^ 32 / 1000) := by
  have hstart : (utilsGetUptimeSeconds start).toNat = start % 2 ^ 32 / 1000 :=
    utilsGetUptimeSeconds_toNat start
  have hnow : (utilsGetUptimeSeconds now).toNat = now % 2 ^ 32 / 1000 :=
    utilsGetUptimeSeconds_toNat now
  have hmin : gpsImplausibleSpeedMinDtSec.toNat = 1 := rfl
  unfold Gps.lastSentDtSec Gps.sentAt
  dsimp only
  by_cases hle : utilsGetUptimeSeconds start ≤ utilsGetUptimeSeconds now
  · have hsub := UInt32.toNat_sub_of_le _ _ hle
    rw [if_pos hle]
    split_ifs with hzero
    · rw [hzero, UInt32.toNat_zero] at hsub
      rw [hmin]
      omega
    · have hpos : (utilsGetUptimeSeconds now - utilsGetUptimeSeconds start).toNat ≠ 0 :=
        fun h => hzero (UInt32.toNat_inj.mp h)
      rw [hsub] at hpos ⊢
      omega
  · rw [if_neg hle, if_pos rfl, hmin]
    have hlt := UInt32.lt_iff_toNat_lt.mp (UInt32.not_le.mp hle)
    omega

/-- The helpers give the time that has passed exactly if the tick counter did not wrap in
between. -/
theorem elapsed_time_exact_iff (g : Gps) (h : start ≤ now) (hlt : now - start < 2 ^ 32) :
    ElapsedExact g start now ↔ now / 2 ^ 32 = start / 2 ^ 32 := by
  have hsend := uptimeElapsedSinceLastSend_toNat g start now
  constructor
  · intro hexact
    have hwithin := hexact.sinceSend
    rw [WithinSecond, hsend] at hwithin
    omega
  · intro hturn
    have hticks := utilsElapsedMsSince_exact h hlt
    refine ⟨hticks, hticks, ?_, fun _ => ?_⟩
    · rw [WithinSecond, hsend]
      omega
    · rw [WithinSecond, lastSentDtSec_toNat]
      omega

end Elapsed

/-- A minute after a packet that was sent an hour after power-on. -/
theorem elapsed_time_exact_iff_minute :
    ElapsedExact (Gps.zeroed gpsConfigGetDefaults) 3600000 3660000 ↔
      3660000 / 2 ^ 32 = 3600000 / 2 ^ 32 :=
  elapsed_time_exact_iff _ (by decide) (by decide)

/-- A minute that begins a second before the counter wraps is taken for 136 years by the one and
for a second by the other. -/
theorem elapsed_time_exact_fails_over_wrap :
    ((Gps.zeroed gpsConfigGetDefaults).sentAt (2 ^ 32 - 1000)).uptimeElapsedSinceLastSend
        (utilsGetUptimeSeconds (2 ^ 32 + 59000)) = 4290672389 ∧
      ((Gps.zeroed gpsConfigGetDefaults).sentAt (2 ^ 32 - 1000)).lastSentDtSec
        (utilsGetUptimeSeconds (2 ^ 32 + 59000)) = 1 ∧
      ¬ ElapsedExact (Gps.zeroed gpsConfigGetDefaults) (2 ^ 32 - 1000) (2 ^ 32 + 59000) := by
  refine ⟨by decide +kernel, by decide +kernel, fun hexact => ?_⟩
  have hwithin := hexact.sinceSend
  rw [WithinSecond, uptimeElapsedSinceLastSend_toNat] at hwithin
  omega

end WalnutGateway
