import WalnutGateway.Core.Calendar
import WalnutGateway.Gps.Nmea

/-!
# Conversions of time

Three functions turn a date and a time of day into Unix seconds: a loop over years and months,
the arithmetic of years from March, and a table of months. One turns Unix seconds into a date
for a reply. Where the date exists they agree; they differ in what they reject.
-/

namespace WalnutGateway

/-- `wm_SdkNetworkTime` without its time zone. -/
structure NetworkTime where
  year : UInt16
  month : UInt8
  day : UInt8
  hour : UInt8
  minute : UInt8
  second : UInt8
  deriving DecidableEq

/-! ## `time_utils.c` -/

namespace TimeUtils

/-- `TIME_UTILS_MAX_YEAR`. -/
def maxYear : Int := 2099

/-- `is_leap_year`. -/
def isLeapYear (y : Nat) : Bool := (y % 4 = 0 ∧ y % 100 ≠ 0) ∨ y % 400 = 0

/-- `mdays` of `days_in_month`. -/
def mdays : List Nat := [31, 28, 31, 30, 31, 30, 31, 31, 30, 31, 30, 31]

/-- `days_in_month`. -/
def daysInMonth (y m : Nat) : Nat :=
  if m = 2 then mdays.getD (m - 1) 0 + (isLeapYear y).toNat else mdays.getD (m - 1) 0

/-- The loop over the first `n` years from 1970. -/
def daysOfYears : Nat → Nat
  | 0 => 0
  | n + 1 => daysOfYears n + if isLeapYear (1970 + n) then 366 else 365

/-- The loop over the first `n` months. -/
def daysOfMonths (y : Nat) : Nat → Nat
  | 0 => 0
  | n + 1 => daysOfMonths y n + daysInMonth y (n + 1)

/-- `calendar_to_unix`. -/
def calendarToUnix (y mo d h mi s : Int) : Option UInt32 :=
  if y < 1970 ∨ y > maxYear ∨ mo < 1 ∨ mo > 12 ∨ d < 1 ∨ d > 31 ∨ h < 0 ∨ h > 23 ∨
      mi < 0 ∨ mi > 59 ∨ s < 0 ∨ s > 59 then none
  else if d > daysInMonth y.toNat mo.toNat then none
  else
    let days := daysOfYears (y - 1970).toNat + daysOfMonths y.toNat (mo - 1).toNat + (d - 1).toNat
    let ts := days * 86400 + h.toNat * 3600 + mi.toNat * 60 + s.toNat
    if ts > uint32Max then none else some (UInt32.ofNat ts)

end TimeUtils

/-! ## `utils.c` -/

/-- `utils_time_to_unix` refuses the tuple. -/
def NetworkTime.outOfRange (t : NetworkTime) : Bool :=
  t.year < 2000 ∨ t.month < 1 ∨ t.month > 12 ∨ t.day < 1 ∨ t.day > 31

/-- `utils_time_to_unix`. -/
def utilsTimeToUnix (t : NetworkTime) : UInt32 :=
  if t.outOfRange then 0
  else
    let y := t.year.toNat - if t.month.toNat ≤ 2 then 1 else 0
    let era := y / 400
    let yoe := y - era * 400
    let shifted := if t.month.toNat > 2 then t.month.toNat - 3 else t.month.toNat + 9
    let doy := (153 * shifted + 2) / 5 + t.day.toNat - 1
    let doe := yoe * 365 + yoe / 4 - yoe / 100 + doy
    let days := era * 146097 + doe - 719468
    UInt32.ofNat (days * 86400 + t.hour.toNat * 3600 + t.minute.toNat * 60 + t.second.toNat)

/-! ## `uart_manager.c` -/

/-- The fields that `fmt_ist_datetime` prints. -/
def fmtIstFields (epoch : UInt32) : NetworkTime :=
  let ist := epoch + 19800
  let tod := ist % 86400
  let z := (ist / 86400).toNat + 719468
  let era := z / 146097
  let doe := z - era * 146097
  let yoe := (doe - doe / 1460 + doe / 36524 - doe / 146096) / 365
  let doy := doe - (365 * yoe + yoe / 4 - yoe / 100)
  let mp := (5 * doy + 2) / 153
  let d := doy - (153 * mp + 2) / 5 + 1
  let mo := if mp < 10 then mp + 3 else mp - 9
  let y := yoe + era * 400 + if mo ≤ 2 then 1 else 0
  { year := UInt16.ofNat (y % 10000)
    month := UInt8.ofNat (mo % 100)
    day := UInt8.ofNat (d % 100)
    hour := UInt8.ofNat (tod / 3600).toNat
    minute := UInt8.ofNat (tod % 3600 / 60).toNat
    second := UInt8.ofNat (tod % 60).toNat }

/-- `%02u`, of a number below a hundred. -/
def digits2 (n : Nat) : List Byte := [UInt8.ofNat (0x30 + n / 10), UInt8.ofNat (0x30 + n % 10)]

/-- `fmt_ist_datetime`. -/
def fmtIstDatetime (epoch : UInt32) (size : Nat) : List Byte :=
  let t := fmtIstFields epoch
  (digits2 t.day.toNat ++ asciiBytes "-" ++ digits2 t.month.toNat ++ asciiBytes "-" ++
    digits2 (t.year.toNat / 100) ++ digits2 (t.year.toNat % 100) ++ asciiBytes " " ++
    digits2 t.hour.toNat ++ asciiBytes ":" ++ digits2 t.minute.toNat ++ asciiBytes ":" ++
    digits2 t.second.toNat).take (size - 1)

end WalnutGateway
