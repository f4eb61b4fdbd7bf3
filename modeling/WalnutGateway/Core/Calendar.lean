import Mathlib.Data.Nat.Basic
import Mathlib.Tactic.IntervalCases

/-!
# The Gregorian calendar

Days are counted from the first of January of the year 0. Years that begin in March have their
leap day at the end, so the months before it do not depend on the year; an era of 400 such
years splits into centuries, groups of four years, and years.
-/

namespace WalnutGateway

namespace Calendar

/-- A leap year. -/
def isLeap (y : Nat) : Bool := (y % 4 = 0 ∧ y % 100 ≠ 0) ∨ y % 400 = 0

/-- The days of a month. -/
def daysInMonth (y m : Nat) : Nat :=
  if m = 2 then if isLeap y then 29 else 28
  else if m = 4 ∨ m = 6 ∨ m = 9 ∨ m = 11 then 30 else 31

/-- The days of the years before `y`. -/
def daysBeforeYear : Nat → Nat
  | 0 => 0
  | y + 1 => daysBeforeYear y + if isLeap y then 366 else 365

/-- The days of the first `m` months of a year. -/
def daysOfMonths (y : Nat) : Nat → Nat
  | 0 => 0
  | m + 1 => daysOfMonths y m + daysInMonth y (m + 1)

/-- The number of a day, also where the month has no such day. -/
def dayNumber (y m d : Nat) : Nat := daysBeforeYear y + daysOfMonths y (m - 1) + (d - 1)

/-- The date exists. -/
structure ValidDate (y m d : Nat) : Prop where
  month_pos : 1 ≤ m
  month_le : m ≤ 12
  day_pos : 1 ≤ d
  day_le : d ≤ daysInMonth y m

/-- The time of day exists. -/
structure ValidTime (h mi s : Nat) : Prop where
  hour : h ≤ 23
  minute : mi ≤ 59
  second : s ≤ 59

instance (y m d : Nat) : Decidable (ValidDate y m d) :=
  decidable_of_iff (1 ≤ m ∧ m ≤ 12 ∧ 1 ≤ d ∧ d ≤ daysInMonth y m)
    ⟨fun ⟨a, b, c, e⟩ => ⟨a, b, c, e⟩, fun ⟨a, b, c, e⟩ => ⟨a, b, c, e⟩⟩

instance (h mi s : Nat) : Decidable (ValidTime h mi s) :=
  decidable_of_iff (h ≤ 23 ∧ mi ≤ 59 ∧ s ≤ 59)
    ⟨fun ⟨a, b, c⟩ => ⟨a, b, c⟩, fun ⟨a, b, c⟩ => ⟨a, b, c⟩⟩

theorem isLeap_eq_true_iff {y : Nat} :
    isLeap y = true ↔ (y % 4 = 0 ∧ y % 100 ≠ 0) ∨ y % 400 = 0 := by
  simp [isLeap]

theorem daysInMonth_le (y m : Nat) : daysInMonth y m ≤ 31 := by
  unfold daysInMonth
  split_ifs <;> omega

/-- The days of the years before, in closed form. -/
theorem daysBeforeYear_succ (y : Nat) :
    daysBeforeYear (y + 1) + y / 100 = 366 + 365 * y + y / 4 + y / 400 := by
  induction y with
  | zero => rfl
  | succ y ih =>
    rw [daysBeforeYear]
    have hleap := @isLeap_eq_true_iff (y + 1)
    split
    · rename_i h
      have := hleap.mp h
      omega
    · rename_i h
      rw [hleap] at h
      omega

/-- The days of the first months. -/
theorem daysOfMonths_eq {m : Nat} (hm : m < 12) (y : Nat) :
    daysOfMonths y m = [0, 31, 59, 90, 120, 151, 181, 212, 243, 273, 304, 334].getD m 0 +
      if 2 ≤ m ∧ isLeap y then 1 else 0 := by
  interval_cases m
  all_goals cases h : isLeap y <;> simp [daysOfMonths, daysInMonth, h]

theorem daysBeforeYear_mono {y z : Nat} (h : y ≤ z) : daysBeforeYear y ≤ daysBeforeYear z := by
  induction h with
  | refl => exact le_refl _
  | step _ ih => exact ih.trans (Nat.le_add_right _ _)

theorem daysOfMonths_mono (y : Nat) {m n : Nat} (h : m ≤ n) :
    daysOfMonths y m ≤ daysOfMonths y n := by
  induction h with
  | refl => exact le_refl _
  | step _ ih => exact ih.trans (Nat.le_add_right _ _)

theorem daysOfMonths_twelve (y : Nat) : daysOfMonths y 12 = if isLeap y then 366 else 365 := by
  cases h : isLeap y <;> simp [daysOfMonths, daysInMonth, h]

theorem daysBeforeYear_le_dayNumber (y m d : Nat) : daysBeforeYear y ≤ dayNumber y m d :=
  (Nat.le_add_right _ _).trans (Nat.le_add_right _ _)

/-- A date that exists is before the next year. -/
theorem ValidDate.dayNumber_lt {y m d : Nat} (h : ValidDate y m d) :
    dayNumber y m d < daysBeforeYear (y + 1) := by
  obtain ⟨hm, hm', hd, hd'⟩ := h
  obtain ⟨n, rfl⟩ := Nat.exists_eq_add_of_le' hm
  have hyear := daysOfMonths_mono y hm'
  rw [daysOfMonths_twelve, daysOfMonths] at hyear
  rw [dayNumber, daysBeforeYear, Nat.add_sub_cancel]
  omega

/-- The year of a date that exists is found from its number. -/
theorem ValidDate.le_year {y m d z : Nat} (h : ValidDate y m d)
    (hz : daysBeforeYear z ≤ dayNumber y m d) : z ≤ y := by
  by_contra hlt
  have hmono := daysBeforeYear_mono (show y + 1 ≤ z by omega)
  exact absurd (hz.trans_lt h.dayNumber_lt) (not_lt.mpr hmono)

theorem year_lt {y m d z : Nat} (hz : dayNumber y m d < daysBeforeYear z) : y < z := by
  by_contra hle
  have hmono := daysBeforeYear_mono (not_lt.mp hle)
  have hnumber := daysBeforeYear_le_dayNumber y m d
  omega

theorem daysInMonth_one_le (y m : Nat) : daysInMonth 1 m ≤ daysInMonth y m := by
  have hleap : isLeap 1 = false := by decide
  unfold daysInMonth
  rw [hleap]
  split
  · cases isLeap y with
    | true => decide
    | false => exact le_refl _
  · exact le_refl _

/-! ## Years from March -/

/-- The year and the month counted from March. -/
def marchYear (y m : Nat) : Nat := if m ≤ 2 then y - 1 else y

/-- The months since March. -/
def marchMonth (m : Nat) : Nat := if m ≤ 2 then m + 9 else m - 3

/-- The days of the months before, of a month of the year that began in March. -/
theorem daysOfMonths_add (y : Nat) {m : Nat} (hm : 1 ≤ m) (hm' : m ≤ 12) :
    daysOfMonths y (m - 1) + (if m ≤ 2 then 306 else 0) =
      (153 * marchMonth m + 2) / 5 + if m ≤ 2 then 0 else if isLeap y then 60 else 59 := by
  rw [daysOfMonths_eq (by omega)]
  cases isLeap y with
  | true =>
    interval_cases m
    all_goals rfl
  | false =>
    interval_cases m
    all_goals rfl

/-- The number of a day, counted in years from March; the first of March of the year 0 is
day 60. -/
theorem dayNumber_eq_march {y m : Nat} (hy : 1 ≤ y) (hm : 1 ≤ m) (hm' : m ≤ 12) (d : Nat) :
    dayNumber y m d + marchYear y m / 100 =
      60 + 365 * marchYear y m + marchYear y m / 4 + marchYear y m / 400 +
        (153 * marchMonth m + 2) / 5 + (d - 1) := by
  obtain ⟨x, rfl⟩ := Nat.exists_eq_add_of_le' hy
  have hmonths := daysOfMonths_add (x + 1) hm hm'
  rw [dayNumber]
  unfold marchYear
  by_cases hjan : m ≤ 2
  · have hyear := daysBeforeYear_succ x
    rw [if_pos hjan, if_pos hjan] at hmonths
    rw [if_pos hjan, Nat.add_sub_cancel]
    omega
  · have hyear := daysBeforeYear_succ (x + 1)
    rw [if_neg hjan, if_neg hjan] at hmonths
    rw [if_neg hjan]
    rw [daysBeforeYear] at hyear
    split at hyear
    · rename_i hleap
      rw [if_pos hleap] at hmonths
      omega
    · rename_i hleap
      rw [if_neg hleap] at hmonths
      omega

/-- The days of the years before, counted by eras. -/
theorem days_of_era (y : Nat) :
    y / 400 * 146097 + ((y - y / 400 * 400) * 365 + (y - y / 400 * 400) / 4 -
      (y - y / 400 * 400) / 100) + y / 100 = 365 * y + y / 4 + y / 400 := by
  have hsplit : y = 400 * (y / 400) + (y - y / 400 * 400) := by omega
  have hyears : y - y / 400 * 400 < 400 := by omega
  generalize y - y / 400 * 400 = yoe at hsplit hyears
  have hgroups : y / 4 = 100 * (y / 400) + yoe / 4 := by omega
  have hcenturies : y / 100 = 4 * (y / 400) + yoe / 100 := by omega
  omega

/-! ## The date of a day -/

/-- The year of an era that a day of it is in. -/
def yearOfEra (doe : Nat) : Nat := (doe - doe / 1460 + doe / 36524 - doe / 146096) / 365

/-- The month and the day of a day of a year from March. -/
def monthDay (doy : Nat) : Nat × Nat :=
  let mp := (5 * doy + 2) / 153
  (if mp < 10 then mp + 3 else mp - 9, doy - (153 * mp + 2) / 5 + 1)

/-- The date of a day, counted from the first of March of the year 0. -/
def ofMarchDay (z : Nat) : Nat × Nat × Nat :=
  let doe := z % 146097
  let yoe := yearOfEra doe
  let md := monthDay (doe - (365 * yoe + yoe / 4 - yoe / 100))
  (yoe + z / 146097 * 400 + (if md.1 ≤ 2 then 1 else 0), md.1, md.2)

/-- A day of an era: its century, group of four years, year and day of the year. The last day
of a group, of a century and of the era are where their leap day is. -/
theorem exists_era_parts {doe : Nat} (h : doe < 146097) :
    ∃ c q k r, c ≤ 3 ∧ q ≤ 24 ∧ k ≤ 3 ∧ doe = 36524 * c + 1461 * q + 365 * k + r ∧
      (r ≤ 364 ∨ (r = 365 ∧ k = 3 ∧ (q ≤ 23 ∨ c = 3))) := by
  have hc : min (doe / 36524) 3 ≤ 3 := Nat.min_le_right _ _
  have hr : doe - 36524 * min (doe / 36524) 3 ≤ 36524 := by omega
  have hr' : min (doe / 36524) 3 < 3 → doe - 36524 * min (doe / 36524) 3 ≤ 36523 := by omega
  have hsub : doe = 36524 * min (doe / 36524) 3 + (doe - 36524 * min (doe / 36524) 3) := by omega
  generalize min (doe / 36524) 3 = c at hc hr hr' hsub
  generalize doe - 36524 * c = r1 at hr hr' hsub
  have hrest : r1 % 1461 ≤ 1460 := by omega
  refine ⟨c, r1 / 1461, min (r1 % 1461 / 365) 3, r1 % 1461 - 365 * min (r1 % 1461 / 365) 3,
    hc, by omega, Nat.min_le_right _ _, ?_, ?_⟩
  · have hdiv := Nat.div_add_mod r1 1461
    omega
  · by_cases hleap : r1 % 1461 = 1460
    · right
      have hmin : min (r1 % 1461 / 365) 3 = 3 := by omega
      rw [hmin]
      omega
    · left
      omega

theorem yearOfEra_eq {c q k r : Nat} (hc : c ≤ 3) (hq : q ≤ 24) (hk : k ≤ 3)
    (hr : r ≤ 364 ∨ (r = 365 ∧ k = 3 ∧ (q ≤ 23 ∨ c = 3))) :
    yearOfEra (36524 * c + 1461 * q + 365 * k + r) = 100 * c + 4 * q + k := by
  unfold yearOfEra
  have hfour : (36524 * c + 1461 * q + 365 * k + r) / 1460 = 25 * c + q ∨
      ((36524 * c + 1461 * q + 365 * k + r) / 1460 = 25 * c + q + 1 ∧ 1 ≤ r ∧ k = 3) := by omega
  have hlast : ((36524 * c + 1461 * q + 365 * k + r) / 36524 = c ∧
        (36524 * c + 1461 * q + 365 * k + r) / 146096 = 0) ∨
      ((36524 * c + 1461 * q + 365 * k + r) / 36524 = c + 1 ∧
        (36524 * c + 1461 * q + 365 * k + r) / 146096 = 1) := by omega
  have hleap : r = 365 → (36524 * c + 1461 * q + 365 * k + r) / 1460 = 25 * c + q + 1 := by omega
  omega

/-- Each day of a year from March is a day of a month; only the last can be the 29th of
February. -/
theorem monthDay_spec {doy : Nat} (h : doy ≤ 365) :
    1 ≤ (monthDay doy).1 ∧ (monthDay doy).1 ≤ 12 ∧ 1 ≤ (monthDay doy).2 ∧
      (153 * marchMonth (monthDay doy).1 + 2) / 5 + ((monthDay doy).2 - 1) = doy ∧
      ∀ y, (doy = 365 → isLeap y = true) → (monthDay doy).2 ≤ daysInMonth y (monthDay doy).1 := by
  have hall : ∀ doy < 366, 1 ≤ (monthDay doy).1 ∧ (monthDay doy).1 ≤ 12 ∧ 1 ≤ (monthDay doy).2 ∧
      (153 * marchMonth (monthDay doy).1 + 2) / 5 + ((monthDay doy).2 - 1) = doy ∧
      ((monthDay doy).2 ≤ daysInMonth 1 (monthDay doy).1 ∨ doy = 365) := by decide +kernel
  obtain ⟨hpos, hle, hday, hdoy, hmonth⟩ := hall doy (by omega)
  refine ⟨hpos, hle, hday, hdoy, fun y hleap => ?_⟩
  rcases hmonth with hmonth | rfl
  · exact hmonth.trans (daysInMonth_one_le y _)
  · change 29 ≤ daysInMonth y 2
    rw [daysInMonth, if_pos rfl, if_pos (hleap rfl)]

/-- The date of a day exists and has its number. -/
theorem ofMarchDay_spec {z : Nat} (hz : 146097 ≤ z) :
    ValidDate (ofMarchDay z).1 (ofMarchDay z).2.1 (ofMarchDay z).2.2 ∧
      dayNumber (ofMarchDay z).1 (ofMarchDay z).2.1 (ofMarchDay z).2.2 = z + 60 := by
  have hera : 1 ≤ z / 146097 := by omega
  have hsplit := Nat.div_add_mod z 146097
  obtain ⟨c, q, k, r, hc, hq, hk, hdoe, hr⟩ := exists_era_parts (Nat.mod_lt z (by norm_num))
  have hyoe := yearOfEra_eq hc hq hk hr
  have hgroups : (100 * c + 4 * q + k) / 4 = 25 * c + q := by omega
  have hcenturies : (100 * c + 4 * q + k) / 100 = c := by omega
  have hdoy : 36524 * c + 1461 * q + 365 * k + r -
      (365 * (100 * c + 4 * q + k) + (100 * c + 4 * q + k) / 4 - (100 * c + 4 * q + k) / 100) =
      r := by
    rw [hgroups, hcenturies]
    omega
  have hfebruary : r = 365 → (monthDay r).1 = 2 := by
    rintro rfl
    rfl
  obtain ⟨hpos, hle, hday, hnumber, hmonth⟩ := @monthDay_spec r (by omega)
  unfold ofMarchDay
  simp only [hdoe, hyoe, hdoy]
  rw [hdoe] at hsplit
  generalize z / 146097 = era at hera hsplit ⊢
  generalize monthDay r = md at hpos hle hday hnumber hmonth hfebruary ⊢
  have hyear : marchYear (100 * c + 4 * q + k + era * 400 + if md.1 ≤ 2 then 1 else 0) md.1 =
      100 * c + 4 * q + k + era * 400 := by
    unfold marchYear
    split
    · omega
    · omega
  constructor
  · refine ⟨hpos, hle, hday, hmonth _ fun hlast => ?_⟩
    rw [if_pos (hfebruary hlast).le, isLeap_eq_true_iff]
    omega
  · have hmarch := dayNumber_eq_march
      (show 1 ≤ 100 * c + 4 * q + k + era * 400 + (if md.1 ≤ 2 then 1 else 0) by omega)
      hpos hle md.2
    rw [hyear] at hmarch
    omega

end Calendar

end WalnutGateway