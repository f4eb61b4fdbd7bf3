import WalnutGateway.Common.TimeConversion

/-!
# Agreement of the conversions

Each conversion counts the seconds since 1970. The one of `time_utils.c` rejects every tuple
that is no date and time; that of `utils.c` looks neither at the length of the month nor at the
time of day, and that of the RMC fields not at the time of day.
-/

namespace WalnutGateway

namespace Calendar

/-- The seconds since 1970, also of a tuple that has no such day or time. -/
def seconds (y m d h mi s : Nat) : Nat :=
  (dayNumber y m d - 719528) * 86400 + h * 3600 + mi * 60 + s

theorem daysBeforeYear_1970 : daysBeforeYear 1970 = 719528 := by
  have h : daysBeforeYear 1970 + 1969 / 100 = _ := daysBeforeYear_succ 1969
  omega

/-- A count of the days of each year from 1970 on. -/
theorem daysFrom1970_eq {f : Nat → Nat} (hzero : f 0 = 0)
    (hsucc : ∀ n, f (n + 1) = f n + if isLeap (1970 + n) then 366 else 365) (n : Nat) :
    f n + 719528 = daysBeforeYear (1970 + n) := by
  induction n with
  | zero => rw [hzero, Nat.zero_add, ← daysBeforeYear_1970]
  | succ n ih =>
    rw [← Nat.add_assoc, daysBeforeYear, ← ih, hsucc]
    omega

theorem dayNumber_ge {y : Nat} (hy : 1970 ≤ y) (m d : Nat) : 719528 ≤ dayNumber y m d := by
  have h := daysBeforeYear_mono hy
  rw [daysBeforeYear_1970] at h
  exact h.trans (daysBeforeYear_le_dayNumber y m d)

/-- The dates up to 2099 are well within an unsigned 32-bit count, whatever the time fields. -/
theorem seconds_le {y m d h mi s : Nat} (hy : 1970 ≤ y) (hy' : y ≤ 2099)
    (hdate : ValidDate y m d) (hh : h ≤ 99) (hmi : mi ≤ 99) (hs : s ≤ 99) :
    seconds y m d h mi s ≤ uint32Max := by
  have hmarch := dayNumber_eq_march (show 1 ≤ y by omega) hdate.month_pos hdate.month_le d
  have hday := hdate.day_le.trans (daysInMonth_le y m)
  have hyear : marchYear y m ≤ 2099 := by
    unfold marchYear
    split
    · omega
    · omega
  have hmonth : marchMonth m ≤ 11 := by
    have := hdate.month_le
    unfold marchMonth
    split
    · omega
    · omega
  simp only [seconds, uint32Max]
  omega

end Calendar

open Calendar

/-! ## What each conversion counts -/

namespace TimeUtils

/-- The table of the months, as it is written in both places. -/
theorem mdays_getD {m : Nat} (hm : 1 ≤ m) (hm' : m ≤ 12) :
    mdays.getD (m - 1) 0 =
      if m = 2 then 28 else if m = 4 ∨ m = 6 ∨ m = 9 ∨ m = 11 then 30 else 31 := by
  interval_cases m
  all_goals rfl

theorem daysInMonth_eq (y : Nat) {m : Nat} (hm : 1 ≤ m) (hm' : m ≤ 12) :
    daysInMonth y m = Calendar.daysInMonth y m := by
  have hleap : isLeapYear y = isLeap y := rfl
  rw [daysInMonth, Calendar.daysInMonth, mdays_getD hm hm', hleap]
  by_cases hfebruary : m = 2
  · rw [if_pos hfebruary, if_pos hfebruary, if_pos hfebruary]
    cases isLeap y <;> rfl
  · rw [if_neg hfebruary, if_neg hfebruary, if_neg hfebruary]

theorem daysOfYears_eq (n : Nat) : daysOfYears n + 719528 = daysBeforeYear (1970 + n) :=
  daysFrom1970_eq rfl (fun _ => rfl) n

theorem daysOfMonths_eq (y : Nat) {n : Nat} (hn : n ≤ 12) :
    daysOfMonths y n = Calendar.daysOfMonths y n := by
  induction n with
  | zero => rfl
  | succ n ih =>
    rw [daysOfMonths, Calendar.daysOfMonths, ih (by omega),
      daysInMonth_eq y (by omega) hn]

/-- It counts the seconds of the dates and times from 1970 to 2099. -/
theorem calendarToUnix_eq {y m d h mi s : Nat} (hy : 1970 ≤ y) (hy' : y ≤ 2099)
    (hdate : ValidDate y m d) (htime : ValidTime h mi s) :
    calendarToUnix y m d h mi s = some (UInt32.ofNat (seconds y m d h mi s)) := by
  obtain ⟨hm, hm', hd, hd'⟩ := hdate
  obtain ⟨hh, hmi, hs⟩ := htime
  have hmonth := daysInMonth_eq y hm hm'
  have hday := hd'.trans (daysInMonth_le y m)
  have hdays : daysOfYears ((y : Int) - 1970).toNat +
      daysOfMonths y ((m : Int) - 1).toNat + ((d : Int) - 1).toNat =
      dayNumber y m d - 719528 := by
    have hyears := daysOfYears_eq (y - 1970)
    rw [show 1970 + (y - 1970) = y by omega] at hyears
    rw [show ((y : Int) - 1970).toNat = y - 1970 by omega,
      show ((m : Int) - 1).toNat = m - 1 by omega, show ((d : Int) - 1).toNat = d - 1 by omega,
      daysOfMonths_eq y (by omega), dayNumber]
    omega
  have hle := seconds_le hy hy' ⟨hm, hm', hd, hd'⟩ (show h ≤ 99 by omega)
    (show mi ≤ 99 by omega) (show s ≤ 99 by omega)
  unfold calendarToUnix
  simp only [maxYear, Int.toNat_natCast, hmonth]
  rw [if_neg (by omega), if_neg (by omega), hdays]
  exact if_neg (not_lt.mpr hle)

/-- It rejects whatever is no date and time. -/
theorem of_calendarToUnix_eq_some {y mo d h mi s : Int} {u : UInt32}
    (hsome : calendarToUnix y mo d h mi s = some u) :
    (0 ≤ y ∧ 0 ≤ h ∧ 0 ≤ mi ∧ 0 ≤ s) ∧ ValidDate y.toNat mo.toNat d.toNat ∧
      ValidTime h.toNat mi.toNat s.toNat := by
  unfold calendarToUnix at hsome
  split at hsome
  · contradiction
  · rename_i hrange
    split at hsome
    · contradiction
    · rename_i hday
      rw [daysInMonth_eq _ (by omega) (by omega)] at hday
      refine ⟨by omega, ⟨by omega, by omega, by omega, by omega⟩, ⟨by omega, by omega, by omega⟩⟩

end TimeUtils

/-- The fields of a tuple in its range. -/
theorem NetworkTime.outOfRange_eq_false_iff {t : NetworkTime} : t.outOfRange = false ↔
    2000 ≤ t.year.toNat ∧ 1 ≤ t.month.toNat ∧ t.month.toNat ≤ 12 ∧ 1 ≤ t.day.toNat ∧
      t.day.toNat ≤ 31 := by
  have hzero : ∀ b : UInt8, b = 0 ↔ b.toNat = 0 :=
    fun b => ⟨fun h => h ▸ rfl, fun h => UInt8.toNat_inj.mp h⟩
  simp [outOfRange, UInt8.le_iff_toNat_le, UInt16.le_iff_toNat_le, Nat.one_le_iff_ne_zero, hzero]

/-- It counts the seconds of every tuple in its range, as the UINT32 has them. -/
theorem utilsTimeToUnix_eq {t : NetworkTime} (h : t.outOfRange = false) :
    utilsTimeToUnix t = UInt32.ofNat (seconds t.year.toNat t.month.toNat t.day.toNat
      t.hour.toNat t.minute.toNat t.second.toNat) := by
  obtain ⟨hy, hm, hm', hd, -⟩ := NetworkTime.outOfRange_eq_false_iff.mp h
  unfold utilsTimeToUnix
  rw [h, if_neg Bool.false_ne_true]
  have hmarch := dayNumber_eq_march (show 1 ≤ t.year.toNat by omega) hm hm' t.day.toNat
  have hge := dayNumber_ge (show 1970 ≤ t.year.toNat by omega) t.month.toNat t.day.toNat
  have hyear : t.year.toNat - (if t.month.toNat ≤ 2 then 1 else 0) =
      marchYear t.year.toNat t.month.toNat := by
    unfold marchYear
    split
    · rfl
    · rfl
  have hmonth : (if t.month.toNat > 2 then t.month.toNat - 3 else t.month.toNat + 9) =
      marchMonth t.month.toNat := by
    unfold marchMonth
    split
    · rw [if_neg (by omega)]
    · rw [if_pos (by omega)]
  simp only [hyear, hmonth, seconds]
  generalize marchYear t.year.toNat t.month.toNat = y at hmarch
  generalize dayNumber t.year.toNat t.month.toNat t.day.toNat = days at hmarch hge
  have hdays : y / 400 * 146097 + ((y - y / 400 * 400) * 365 + (y - y / 400 * 400) / 4 -
      (y - y / 400 * 400) / 100 + ((153 * marchMonth t.month.toNat + 2) / 5 + t.day.toNat - 1)) -
      719468 = days - 719528 := by
    have hera := days_of_era y
    omega
  rw [hdays]

/-! ## RMC fields -/

theorem nmeaDaysInMonth_eq (y : Nat) {m : Nat} (hm : 1 ≤ m) (hm' : m ≤ 12) :
    nmeaDaysInMonth y m = Calendar.daysInMonth y m := by
  have hleap : nmeaIsLeap y = isLeap y := rfl
  have htable : nmeaMonthDays = TimeUtils.mdays := rfl
  rw [nmeaDaysInMonth, if_neg (by omega), Calendar.daysInMonth, htable,
    TimeUtils.mdays_getD hm hm', hleap]
  by_cases hfebruary : m = 2
  · cases hy : isLeap y with
    | true => rw [if_pos ⟨hfebruary, rfl⟩, if_pos hfebruary, if_pos rfl]
    | false =>
      rw [if_neg fun h => Bool.false_ne_true h.2, if_pos hfebruary, if_pos hfebruary,
        if_neg Bool.false_ne_true]
  · rw [if_neg fun h => hfebruary h.1, if_neg hfebruary, if_neg hfebruary]

theorem nmeaDaysOfYears_eq (n : Nat) : nmeaDaysOfYears n + 719528 = daysBeforeYear (1970 + n) :=
  daysFrom1970_eq rfl (fun _ => rfl) n

/-- The year that two digits stand for. -/
def nmeaYear (year2 : Nat) : Nat := year2 + if 70 ≤ year2 then 1900 else 2000

/-- It counts the seconds of every date with two digits for each time field. -/
theorem nmeaTupleToUnix_eq {year2 m d h mi s : Nat} (hyear : year2 ≤ 99)
    (hdate : ValidDate (nmeaYear year2) m d) (hh : h ≤ 99) (hmi : mi ≤ 99) (hs : s ≤ 99) :
    nmeaTupleToUnix year2 m d h mi s = UInt32.ofNat (seconds (nmeaYear year2) m d h mi s) := by
  have hy : 1970 ≤ nmeaYear year2 ∧ nmeaYear year2 ≤ 2099 := by
    unfold nmeaYear
    split
    · omega
    · omega
  have hle := seconds_le hy.1 hy.2 hdate hh hmi hs
  obtain ⟨hm, hm', hd, hd'⟩ := hdate
  have hmonth := nmeaDaysInMonth_eq (nmeaYear year2) hm hm'
  have hdays : nmeaDaysOfYears (nmeaYear year2 - 1970) + nmeaMonthDaysBefore.getD (m - 1) 0 +
      (if m > 2 ∧ nmeaIsLeap (nmeaYear year2) then 1 else 0) + (d - 1) =
      dayNumber (nmeaYear year2) m d - 719528 := by
    have hyears := nmeaDaysOfYears_eq (nmeaYear year2 - 1970)
    rw [show 1970 + (nmeaYear year2 - 1970) = nmeaYear year2 by omega] at hyears
    have hmonths := Calendar.daysOfMonths_eq (show m - 1 < 12 by omega) (nmeaYear year2)
    have hleap : (m > 2 ∧ nmeaIsLeap (nmeaYear year2) = true) ↔
        (2 ≤ m - 1 ∧ isLeap (nmeaYear year2) = true) := by
      have hsame : nmeaIsLeap (nmeaYear year2) = isLeap (nmeaYear year2) := rfl
      rw [hsame]
      exact and_congr_left fun _ => by omega
    rw [dayNumber, hmonths, ← if_congr hleap rfl rfl, nmeaMonthDaysBefore]
    omega
  have hfold : year2 + (if 70 ≤ year2 then 1900 else 2000) = nmeaYear year2 := rfl
  unfold nmeaTupleToUnix
  simp only [hfold]
  rw [if_neg (by omega), hdays]
  exact if_pos hle

/-- It rejects a date that does not exist. -/
theorem nmeaTupleToUnix_of_not_valid {year2 m d : Nat} (h : ¬ ValidDate (nmeaYear year2) m d)
    (hour mi s : Nat) : nmeaTupleToUnix year2 m d hour mi s = 0 := by
  apply if_pos
  change nmeaYear year2 < 1970 ∨ m < 1 ∨ m > 12 ∨ d < 1 ∨ d > nmeaDaysInMonth (nmeaYear year2) m
  by_contra hnone
  simp only [not_or, not_lt, gt_iff_lt] at hnone
  obtain ⟨-, hm, hm', hd, hd'⟩ := hnone
  rw [nmeaDaysInMonth_eq _ hm hm'] at hd'
  exact h ⟨hm, hm', hd, hd'⟩

/-- Two digits are read as they were printed. -/
theorem nmeaParseDec2_digits2 {n : Nat} (h : n ≤ 99) (rest : List Byte) :
    nmeaParseDec2 (digits2 n ++ rest) = some n := by
  have hall : ∀ n < 100, isdigit (UInt8.ofNat (0x30 + n / 10)) = true ∧
      isdigit (UInt8.ofNat (0x30 + n % 10)) = true ∧
      ((UInt8.ofNat (0x30 + n / 10)).toNat - 0x30) * 10 +
        ((UInt8.ofNat (0x30 + n % 10)).toNat - 0x30) = n := by decide +kernel
  obtain ⟨htens, hones, hvalue⟩ := hall n (by omega)
  change (if isdigit _ ∧ isdigit _ then some _ else none) = _
  rw [if_pos ⟨htens, hones⟩, hvalue]

namespace NetworkTime

/-- The texts of the time and the date in a sentence, where two digits are enough for each. -/
def rmcFields (t : NetworkTime) : Option (List Byte × List Byte) :=
  if 1970 ≤ t.year ∧ t.year ≤ 2069 ∧ t.month ≤ 99 ∧ t.day ≤ 99 ∧ t.hour ≤ 99 ∧ t.minute ≤ 99 ∧
      t.second ≤ 99 then
    some (digits2 t.hour.toNat ++ digits2 t.minute.toNat ++ digits2 t.second.toNat,
      digits2 t.day.toNat ++ digits2 t.month.toNat ++ digits2 (t.year.toNat % 100))
  else none

/-- The date exists. -/
def IsDate (t : NetworkTime) : Prop := ValidDate t.year.toNat t.month.toNat t.day.toNat

/-- The date and the time of day exist. -/
structure IsValid (t : NetworkTime) : Prop where
  date : t.IsDate
  time : ValidTime t.hour.toNat t.minute.toNat t.second.toNat

/-- The seconds since 1970, fields that are too large being carried over. -/
def toSeconds (t : NetworkTime) : Nat :=
  seconds t.year.toNat t.month.toNat t.day.toNat t.hour.toNat t.minute.toNat t.second.toNat

/-- `calendar_to_unix` of the tuple. -/
def calendarToUnix (t : NetworkTime) : Option UInt32 :=
  TimeUtils.calendarToUnix t.year.toNat t.month.toNat t.day.toNat t.hour.toNat t.minute.toNat
    t.second.toNat

/-- `nmea_rmc_time_date_to_unix` of the tuple, where it can be written so. -/
def rmcToUnix (t : NetworkTime) : Option UInt32 :=
  t.rmcFields.map fun fields => nmeaRmcTimeDateToUnix fields.1 fields.2

variable {t : NetworkTime}

theorem rmcToUnix_isSome : t.rmcToUnix.isSome = t.rmcFields.isSome := Option.isSome_map

/-- The RMC fields are read as the tuple. -/
theorem rmcToUnix_eq_some {u : UInt32} (h : t.rmcToUnix = some u) :
    (1970 ≤ t.year.toNat ∧ t.year.toNat ≤ 2069 ∧ t.hour.toNat ≤ 99 ∧ t.minute.toNat ≤ 99 ∧
      t.second.toNat ≤ 99) ∧
    nmeaYear (t.year.toNat % 100) = t.year.toNat ∧
    u = nmeaTupleToUnix (t.year.toNat % 100) t.month.toNat t.day.toNat t.hour.toNat t.minute.toNat
      t.second.toNat := by
  unfold rmcToUnix rmcFields at h
  split at h
  · rename_i hsmall
    simp only [UInt16.le_iff_toNat_le, UInt8.le_iff_toNat_le] at hsmall
    obtain ⟨hy, hy', hmo, hd, hh, hmi, hs⟩ := hsmall
    have hcentury : t.year.toNat % 100 ≤ 99 := by omega
    refine ⟨⟨hy, hy', hh, hmi, hs⟩, ?_, ?_⟩
    · unfold nmeaYear
      change 1970 ≤ _ at hy
      change _ ≤ 2069 at hy'
      split
      · omega
      · omega
    · have hnone : ∀ n : Nat, ∀ rest, digits2 n ++ rest ≠ [] := fun _ _ => List.cons_ne_nil _ _
      have hdrop : ∀ n : Nat, ∀ rest, (digits2 n ++ rest).drop 2 = rest := fun _ _ => rfl
      have hdrop4 : ∀ n k : Nat, ∀ rest, (digits2 n ++ (digits2 k ++ rest)).drop 4 = rest :=
        fun _ _ _ => rfl
      have hlast : ∀ n ≤ 99, nmeaParseDec2 (digits2 n) = some n := by
        intro n hn
        rw [← List.append_nil (digits2 n)]
        exact nmeaParseDec2_digits2 hn []
      cases h
      unfold nmeaRmcTimeDateToUnix
      dsimp only
      rw [List.append_assoc, List.append_assoc, if_neg (by simp [hnone]), hdrop, hdrop, hdrop4,
        hdrop4, nmeaParseDec2_digits2 hd, nmeaParseDec2_digits2 hmo, hlast _ hcentury,
        nmeaParseDec2_digits2 hh, nmeaParseDec2_digits2 hmi, hlast _ hs]
  · contradiction

/-! ## Agreement and rejection -/

/-- The conversions agree on the tuple if it is a date and time of the years that all of them
know, and each rejects it if it is none. -/
structure Converts (t : NetworkTime) : Prop where
  agree : t.IsValid → 2000 ≤ t.year.toNat → t.year.toNat ≤ 2069 →
    t.calendarToUnix = some (utilsTimeToUnix t) ∧ t.rmcToUnix = some (utilsTimeToUnix t)
  calendar : ¬ t.IsValid → t.calendarToUnix = none
  utils : ¬ t.IsValid → utilsTimeToUnix t = 0
  rmc : ¬ t.IsValid → ∀ u ∈ t.rmcToUnix, u = 0

/-- The tuple is a date and time; or it is out of the range of `utils_time_to_unix`, or its
seconds are a multiple of 2^32, and its date does not exist if it can be written as RMC
fields. -/
def Clear (t : NetworkTime) : Prop :=
  t.IsValid ∨ ((t.outOfRange = true ∨ t.toSeconds % 2 ^ 32 = 0) ∧
    (t.rmcFields.isSome = true → ¬ t.IsDate))

theorem calendarToUnix_of_not_valid (h : ¬ t.IsValid) : t.calendarToUnix = none := by
  rw [Option.eq_none_iff_forall_not_mem]
  intro u hu
  obtain ⟨-, hdate, htime⟩ := TimeUtils.of_calendarToUnix_eq_some hu
  exact h ⟨hdate, htime⟩

theorem IsDate.outOfRange (h : t.IsDate) (hy : 2000 ≤ t.year.toNat) : t.outOfRange = false :=
  outOfRange_eq_false_iff.mpr
    ⟨hy, h.month_pos, h.month_le, h.day_pos, h.day_le.trans (daysInMonth_le _ _)⟩

theorem utilsTimeToUnix_eq_zero_iff :
    utilsTimeToUnix t = 0 ↔ t.outOfRange = true ∨ t.toSeconds % 2 ^ 32 = 0 := by
  cases h : t.outOfRange with
  | true =>
    rw [utilsTimeToUnix, if_pos h]
    exact iff_of_true rfl (Or.inl rfl)
  | false =>
    rw [utilsTimeToUnix_eq h, ← UInt32.toNat_inj, UInt32.toNat_ofNat']
    simp [toSeconds]

/-- The RMC fields of a date that exists are not rejected, whatever the time of day. -/
theorem IsDate.rmcToUnix (h : t.IsDate) {u : UInt32} (hu : t.rmcToUnix = some u) :
    u = UInt32.ofNat t.toSeconds ∧ t.toSeconds < 2 ^ 32 := by
  obtain ⟨⟨hy, hy', hh, hmi, hs⟩, hyear, rfl⟩ := rmcToUnix_eq_some hu
  have hdate : ValidDate (nmeaYear (t.year.toNat % 100)) t.month.toNat t.day.toNat := by
    rw [hyear]
    exact h
  rw [nmeaTupleToUnix_eq (by omega) hdate hh hmi hs, hyear]
  refine ⟨rfl, ?_⟩
  have hle := seconds_le hy (by omega) h hh hmi hs
  exact Nat.lt_of_le_of_lt hle (by decide)

theorem rmcToUnix_of_not_date (h : ¬ t.IsDate) {u : UInt32} (hu : t.rmcToUnix = some u) :
    u = 0 := by
  obtain ⟨-, hyear, rfl⟩ := rmcToUnix_eq_some hu
  apply nmeaTupleToUnix_of_not_valid
  rw [hyear]
  exact h

/-- A tuple with a time of day that does not exist has some seconds. -/
theorem IsDate.toSeconds_pos (h : ¬ t.IsValid) (hdate : t.IsDate) : 0 < t.toSeconds := by
  by_contra hzero
  refine h ⟨hdate, ?_⟩
  simp only [toSeconds, seconds] at hzero
  exact ⟨by omega, by omega, by omega⟩

theorem IsValid.rmcFields (h : t.IsValid) (hy : 1970 ≤ t.year.toNat) (hy' : t.year.toNat ≤ 2069) :
    ∃ u, t.rmcToUnix = some u := by
  have hday := h.date.day_le.trans (daysInMonth_le _ _)
  obtain ⟨⟨-, hmo, -, -⟩, ⟨hh, hmi, hs⟩⟩ := h
  unfold NetworkTime.rmcToUnix NetworkTime.rmcFields
  rw [if_pos]
  · exact ⟨_, rfl⟩
  · simp only [UInt16.le_iff_toNat_le, UInt8.le_iff_toNat_le]
    exact ⟨hy, hy', hmo.trans (by decide), hday.trans (by decide), hh.trans (by decide),
      hmi.trans (by decide), hs.trans (by decide)⟩

/-- On a date and time the conversions agree. -/
theorem IsValid.agree (h : t.IsValid) (hy : 2000 ≤ t.year.toNat) (hy' : t.year.toNat ≤ 2069) :
    t.calendarToUnix = some (utilsTimeToUnix t) ∧ t.rmcToUnix = some (utilsTimeToUnix t) := by
  rw [utilsTimeToUnix_eq (h.date.outOfRange hy)]
  refine ⟨TimeUtils.calendarToUnix_eq (by omega) (by omega) h.date h.time, ?_⟩
  obtain ⟨u, hu⟩ := h.rmcFields (by omega) hy'
  rw [hu, (h.date.rmcToUnix hu).1]
  rfl

theorem converts_iff (t : NetworkTime) : t.Converts ↔ t.Clear := by
  by_cases hvalid : t.IsValid
  · refine iff_of_true ⟨fun _ => hvalid.agree, ?_, ?_, ?_⟩ (Or.inl hvalid)
    all_goals exact fun hnot => absurd hvalid hnot
  · constructor
    · intro h
      refine Or.inr ⟨utilsTimeToUnix_eq_zero_iff.mp (h.utils hvalid), fun hsome hdate => ?_⟩
      rw [← rmcToUnix_isSome] at hsome
      obtain ⟨u, hu⟩ := Option.isSome_iff_exists.mp hsome
      obtain ⟨heq, hlt⟩ := hdate.rmcToUnix hu
      have hpos := IsDate.toSeconds_pos hvalid hdate
      have hzero := congrArg UInt32.toNat (heq.symm.trans (h.rmc hvalid u hu))
      rw [UInt32.toNat_ofNat', Nat.mod_eq_of_lt hlt] at hzero
      exact hpos.ne' hzero
    · rintro (hvalid' | ⟨hutils, hrmc⟩)
      · exact absurd hvalid' hvalid
      · refine ⟨fun hvalid' => absurd hvalid' hvalid, calendarToUnix_of_not_valid,
          fun _ => utilsTimeToUnix_eq_zero_iff.mpr hutils, fun _ u hu => ?_⟩
        apply rmcToUnix_of_not_date (hrmc _) hu
        rw [← rmcToUnix_isSome]
        exact Option.isSome_iff_exists.mpr ⟨u, hu⟩

end NetworkTime

/-- A text that is not rejected has six numbers of two digits and a date that exists. -/
theorem of_nmeaRmcTimeDateToUnix_ne_zero {hhmmss ddmmyy : List Byte}
    (h : nmeaRmcTimeDateToUnix hhmmss ddmmyy ≠ 0) : ∃ year2 month day hour minute second,
      (nmeaParseDec2 ddmmyy = some day ∧ nmeaParseDec2 (ddmmyy.drop 2) = some month ∧
        nmeaParseDec2 (ddmmyy.drop 4) = some year2 ∧ nmeaParseDec2 hhmmss = some hour ∧
        nmeaParseDec2 (hhmmss.drop 2) = some minute ∧
        nmeaParseDec2 (hhmmss.drop 4) = some second) ∧
      ValidDate (nmeaYear year2) month day := by
  unfold nmeaRmcTimeDateToUnix at h
  split at h
  · exact absurd rfl h
  · split at h
    · rename_i day month year2 hour minute second hd hmo hy hh hmi hs
      refine ⟨year2, month, day, hour, minute, second, ⟨hd, hmo, hy, hh, hmi, hs⟩, ?_⟩
      by_contra hnot
      exact h (nmeaTupleToUnix_of_not_valid hnot hour minute second)
    · exact absurd rfl h

/-! ## The printed date -/

/-- The day of a UINT32 is of the years 1970 to 2106. -/
theorem ofMarchDay_year {days : Nat} (h : days ≤ 49710) :
    1970 ≤ (ofMarchDay (days + 719468)).1 ∧ (ofMarchDay (days + 719468)).1 ≤ 2106 := by
  obtain ⟨hdate, hnumber⟩ := @ofMarchDay_spec (days + 719468) (by omega)
  constructor
  · apply hdate.le_year
    rw [hnumber, daysBeforeYear_1970]
    omega
  · have hlast : daysBeforeYear 2107 + 2106 / 100 = _ := daysBeforeYear_succ 2106
    have hlt := year_lt (z := 2107) (show dayNumber _ _ _ < _ by rw [hnumber]; omega)
    omega

/-- The printed fields: the date of the day, and the time of day. -/
theorem fmtIstFields_toNat {e : UInt32} {ist : Nat} (he : e.toNat + 19800 = ist)
    (hist : ist < 2 ^ 32) :
    ((fmtIstFields e).year.toNat, (fmtIstFields e).month.toNat, (fmtIstFields e).day.toNat) =
        ofMarchDay (ist / 86400 + 719468) ∧
      (fmtIstFields e).hour.toNat = ist % 86400 / 3600 ∧
      (fmtIstFields e).minute.toNat = ist % 86400 % 3600 / 60 ∧
      (fmtIstFields e).second.toNat = ist % 86400 % 60 := by
  have hshift : (e + 19800).toNat = ist := by
    rw [UInt32.toNat_add]
    change (e.toNat + 19800) % 2 ^ 32 = ist
    rw [he]
    exact Nat.mod_eq_of_lt hist
  have hday : ((e + 19800) / 86400).toNat = ist / 86400 := by
    rw [UInt32.toNat_div, hshift]
    rfl
  have htod : ((e + 19800) % 86400).toNat = ist % 86400 := by
    rw [UInt32.toNat_mod, hshift]
    rfl
  have hhour : ((e + 19800) % 86400 / 3600).toNat = ist % 86400 / 3600 := by
    rw [UInt32.toNat_div, htod]
    rfl
  have hminute : ((e + 19800) % 86400 % 3600 / 60).toNat = ist % 86400 % 3600 / 60 := by
    rw [UInt32.toNat_div, UInt32.toNat_mod, htod]
    rfl
  have hsecond : ((e + 19800) % 86400 % 60).toNat = ist % 86400 % 60 := by
    rw [UInt32.toNat_mod, htod]
    rfl
  have hera : ist / 86400 + 719468 - (ist / 86400 + 719468) / 146097 * 146097 =
      (ist / 86400 + 719468) % 146097 := by omega
  have hyear : (fmtIstFields e).year =
      UInt16.ofNat ((ofMarchDay (ist / 86400 + 719468)).1 % 10000) := by
    unfold fmtIstFields
    simp only [hday, hera]
    rfl
  have hmonth : (fmtIstFields e).month =
      UInt8.ofNat ((ofMarchDay (ist / 86400 + 719468)).2.1 % 100) := by
    unfold fmtIstFields
    simp only [hday, hera]
    rfl
  have hdayField : (fmtIstFields e).day =
      UInt8.ofNat ((ofMarchDay (ist / 86400 + 719468)).2.2 % 100) := by
    unfold fmtIstFields
    simp only [hday, hera]
    rfl
  obtain ⟨hdate, -⟩ := @ofMarchDay_spec (ist / 86400 + 719468) (by omega)
  have hyears := @ofMarchDay_year (ist / 86400) (by omega)
  have hmonths := hdate.month_le
  have hdays := hdate.day_le.trans (daysInMonth_le _ _)
  rw [hyear, hmonth, hdayField]
  generalize ofMarchDay (ist / 86400 + 719468) = date at hyears hmonths hdays
  rw [UInt16.toNat_ofNat', UInt8.toNat_ofNat', UInt8.toNat_ofNat']
  refine ⟨?_, ?_, ?_, ?_⟩
  · ext
    · change date.1 % 10000 % 2 ^ 16 = date.1
      omega
    · change date.2.1 % 100 % 2 ^ 8 = date.2.1
      omega
    · change date.2.2 % 100 % 2 ^ 8 = date.2.2
      omega
  · change (UInt8.ofNat _).toNat = _
    rw [UInt8.toNat_ofNat', hhour]
    omega
  · change (UInt8.ofNat _).toNat = _
    rw [UInt8.toNat_ofNat', hminute]
    omega
  · change (UInt8.ofNat _).toNat = _
    rw [UInt8.toNat_ofNat', hsecond]
    omega

/-- The printed fields are a date and time from 1970, with the seconds of the shifted epoch. -/
theorem fmtIstFields_spec {e : UInt32} (he : e.toNat + 19800 < 2 ^ 32) :
    (fmtIstFields e).IsValid ∧ 1970 ≤ (fmtIstFields e).year.toNat ∧
      (fmtIstFields e).toSeconds = e.toNat + 19800 := by
  obtain ⟨hfields, hhour, hminute, hsecond⟩ := fmtIstFields_toNat rfl he
  generalize e.toNat + 19800 = ist at he hfields hhour hminute hsecond
  obtain ⟨hdate, hnumber⟩ := @ofMarchDay_spec (ist / 86400 + 719468) (by omega)
  have hyears := @ofMarchDay_year (ist / 86400) (by omega)
  rw [← hfields] at hdate hnumber hyears
  refine ⟨⟨hdate, ?_⟩, hyears.1, ?_⟩
  · rw [hhour, hminute, hsecond]
    exact ⟨by omega, by omega, by omega⟩
  · rw [NetworkTime.toSeconds, seconds, hnumber, hhour, hminute, hsecond]
    omega

/-- The text of a date and time, in a buffer that holds it, has each of its fields. -/
structure Printed (text : List Byte) (t : NetworkTime) : Prop where
  length : text.length = 19
  day : nmeaParseDec2 text = some t.day.toNat
  month : nmeaParseDec2 (text.drop 3) = some t.month.toNat
  century : nmeaParseDec2 (text.drop 6) = some (t.year.toNat / 100)
  year : nmeaParseDec2 (text.drop 8) = some (t.year.toNat % 100)
  hour : nmeaParseDec2 (text.drop 11) = some t.hour.toNat
  minute : nmeaParseDec2 (text.drop 14) = some t.minute.toNat
  second : nmeaParseDec2 (text.drop 17) = some t.second.toNat

theorem fmtIstDatetime_printed {e : UInt32} (he : e.toNat + 19800 < 2 ^ 32) {size : Nat}
    (hsize : 20 ≤ size) : Printed (fmtIstDatetime e size) (fmtIstFields e) := by
  obtain ⟨⟨hdate, htime⟩, -, -⟩ := fmtIstFields_spec he
  have hyear : (fmtIstFields e).year.toNat ≤ 9999 := by
    obtain ⟨hfields, -⟩ := fmtIstFields_toNat rfl he
    have hyears := @ofMarchDay_year ((e.toNat + 19800) / 86400) (by omega)
    rw [← hfields] at hyears
    exact hyears.2.trans (by decide)
  have hday := hdate.day_le.trans (daysInMonth_le _ _)
  have hmonth := hdate.month_le
  obtain ⟨hhour, hminute, hsecond⟩ := htime
  unfold fmtIstDatetime
  generalize fmtIstFields e = t at hyear hday hmonth hhour hminute hsecond
  dsimp only
  rw [List.take_of_length_le]
  · refine ⟨rfl, ?_, ?_, ?_, ?_, ?_, ?_, ?_⟩
    · exact nmeaParseDec2_digits2 (hday.trans (by decide)) _
    · exact nmeaParseDec2_digits2 (hmonth.trans (by decide)) _
    · exact nmeaParseDec2_digits2 (by omega) _
    · exact nmeaParseDec2_digits2 (by omega) _
    · exact nmeaParseDec2_digits2 (hhour.trans (by decide)) _
    · exact nmeaParseDec2_digits2 (hminute.trans (by decide)) _
    · exact nmeaParseDec2_digits2 (hsecond.trans (by decide)) []
  · change 19 ≤ size - 1
    omega

/-- The printed fields, given to a converter that knows their year, are the shifted epoch. -/
structure Inverts (e : UInt32) : Prop where
  printed : ∀ size, 20 ≤ size → Printed (fmtIstDatetime e size) (fmtIstFields e)
  calendar : (fmtIstFields e).year.toNat ≤ 2099 →
    (fmtIstFields e).calendarToUnix = some (e + 19800)
  utils : 2000 ≤ (fmtIstFields e).year.toNat → utilsTimeToUnix (fmtIstFields e) = e + 19800
  rmc : (fmtIstFields e).year.toNat ≤ 2069 → (fmtIstFields e).rmcToUnix = some (e + 19800)

theorem fmtIstDatetime_inverts {e : UInt32} (he : e.toNat + 19800 < 2 ^ 32) : Inverts e := by
  obtain ⟨hvalid, hyear, hseconds⟩ := fmtIstFields_spec he
  have hshift : UInt32.ofNat (fmtIstFields e).toSeconds = e + 19800 := by
    rw [hseconds, UInt32.ofNat_add, UInt32.ofNat_toNat]
    rfl
  refine ⟨fun _ => fmtIstDatetime_printed he, ?_, ?_, ?_⟩
  · intro hyear'
    rw [← hshift]
    exact TimeUtils.calendarToUnix_eq hyear hyear' hvalid.date hvalid.time
  · intro hyear'
    rw [← hshift]
    exact utilsTimeToUnix_eq (hvalid.date.outOfRange hyear')
  · intro hyear'
    obtain ⟨u, hu⟩ := hvalid.rmcFields hyear hyear'
    rw [hu, (hvalid.date.rmcToUnix hu).1, hshift]

/-! ## Main result -/

/-- The conversions agree on every date and time, and each rejects a tuple that is none,
exactly on the clear tuples; `calendar_to_unix` rejects all that is none, the RMC texts are
rejected without six numbers and a date, and the printed date inverts the conversions. -/
theorem time_conversions (t : NetworkTime) :
    (t.Converts ↔ t.Clear) ∧
    (∀ (y mo d h mi s : Int) (u : UInt32), TimeUtils.calendarToUnix y mo d h mi s = some u →
      (0 ≤ y ∧ 0 ≤ h ∧ 0 ≤ mi ∧ 0 ≤ s) ∧ ValidDate y.toNat mo.toNat d.toNat ∧
        ValidTime h.toNat mi.toNat s.toNat) ∧
    (∀ hhmmss ddmmyy, nmeaRmcTimeDateToUnix hhmmss ddmmyy ≠ 0 →
      ∃ year2 month day hour minute second,
        (nmeaParseDec2 ddmmyy = some day ∧ nmeaParseDec2 (ddmmyy.drop 2) = some month ∧
          nmeaParseDec2 (ddmmyy.drop 4) = some year2 ∧ nmeaParseDec2 hhmmss = some hour ∧
          nmeaParseDec2 (hhmmss.drop 2) = some minute ∧
          nmeaParseDec2 (hhmmss.drop 4) = some second) ∧
        ValidDate (nmeaYear year2) month day) ∧
    ∀ e : UInt32, e.toNat + 19800 < 2 ^ 32 → Inverts e := by
  refine ⟨t.converts_iff, ?_, ?_, fun _ => fmtIstDatetime_inverts⟩
  · intro y mo d h mi s u hsome
    exact TimeUtils.of_calendarToUnix_eq_some hsome
  · intro hhmmss ddmmyy hne
    exact of_nmeaRmcTimeDateToUnix_ne_zero hne

/-- The 31st of February is the 3rd of March to `utils_time_to_unix`, and a time of day of
25 hours is taken from the RMC fields. -/
theorem not_date_accepted :
    (¬ ∀ t : NetworkTime, t.Converts) ∧
    (¬ (⟨2023, 2, 31, 0, 0, 0⟩ : NetworkTime).IsValid ∧
      utilsTimeToUnix ⟨2023, 2, 31, 0, 0, 0⟩ = 1677801600) ∧
    ¬ (⟨2023, 2, 28, 25, 0, 0⟩ : NetworkTime).IsValid ∧
      (⟨2023, 2, 28, 25, 0, 0⟩ : NetworkTime).rmcToUnix = some 1677632400 := by
  have hfebruary : ¬ (⟨2023, 2, 31, 0, 0, 0⟩ : NetworkTime).IsValid :=
    fun h => absurd h.date.day_le (by decide)
  have hhour : ¬ (⟨2023, 2, 28, 25, 0, 0⟩ : NetworkTime).IsValid :=
    fun h => absurd h.time.hour (by decide)
  have hutils : utilsTimeToUnix ⟨2023, 2, 31, 0, 0, 0⟩ = 1677801600 := by decide +kernel
  have hrmc : (⟨2023, 2, 28, 25, 0, 0⟩ : NetworkTime).rmcToUnix = some 1677632400 := by
    decide +kernel
  refine ⟨fun hall => ?_, ⟨hfebruary, hutils⟩, hhour, hrmc⟩
  have hzero := (hall ⟨2023, 2, 31, 0, 0, 0⟩).utils hfebruary
  rw [hutils] at hzero
  exact absurd hzero (by decide)

end WalnutGateway
