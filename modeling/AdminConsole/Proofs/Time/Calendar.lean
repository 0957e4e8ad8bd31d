import AdminConsole.Time.Instant

/-! # Days and dates

The calendar counts years from March, so that the leap day ends a year, and
`Date.daysBefore` is the number of days before such a year.  A count of days
falls into one year, one month and one day of these years (`Date.exists_parts`),
and `Date.ofDays` finds them.  From this follow that the date of a day is a date
of the calendar, that it tells the day (`Date.toDays_ofDays`), and on which day
a year begins (`Date.le_year_ofDays_iff`).
-/
namespace AdminConsole

namespace Date

/-! ## Years counted from March -/

/-- The days from the first of March of the year zero to that of the year `y`. -/
def daysBefore (y : Int) : Int := 365 * y + y / 4 - y / 100 + y / 400

/-- The days from the first of March to the first of the month that stands `m` months after it. -/
def daysBeforeMonth (m : Int) : Int := (153 * m + 2) / 5

/-- The day of which the count from the first of March of the year zero starts, from 1970-01-01. -/
def marchEpoch : Int := 719468

/-- The year of a date when years are counted from March. -/
def marchYear (d : Date) : Int := if d.month ≤ 2 then d.year - 1 else d.year

theorem toDays_eq (d : Date) : d.toDays =
    daysBefore d.marchYear + (daysBeforeMonth ((d.month + 9) % 12) + d.day - 1) - marchEpoch := by
  have hera : ∀ y : Int, y / 400 * 146097 + ((y - y / 400 * 400) * 365 + (y - y / 400 * 400) / 4 -
      (y - y / 400 * 400) / 100) = daysBefore y := by
    intro y
    unfold daysBefore
    omega
  show d.marchYear / 400 * 146097 + ((d.marchYear - d.marchYear / 400 * 400) * 365 +
    (d.marchYear - d.marchYear / 400 * 400) / 4 - (d.marchYear - d.marchYear / 400 * 400) / 100 +
      (daysBeforeMonth ((d.month + 9) % 12) + d.day - 1)) - 719468 = _
  rw [← hera d.marchYear, marchEpoch]
  omega

theorem daysBefore_mono {y z : Int} (h : y ≤ z) : daysBefore y ≤ daysBefore z := by
  unfold daysBefore
  omega

/-- A year has at least 365 days. -/
theorem daysBefore_succ_ge (y : Int) : daysBefore y + 365 ≤ daysBefore (y + 1) := by
  unfold daysBefore
  omega

/-- A year that ends with February of a leap year has 366 days, and any other has 365. -/
theorem daysBefore_succ (y : Int) :
    daysBefore (y + 1) = daysBefore y + if isLeap (y + 1) then 366 else 365 := by
  unfold daysBefore isLeap
  by_cases h4 : (y + 1) % 4 = 0 <;> by_cases h100 : (y + 1) % 100 = 0 <;>
    by_cases h400 : (y + 1) % 400 = 0 <;> simp [h4, h100, h400] <;> omega

/-! ## The year of a day -/

/-- The year of a day of the first four hundred years.  The divisors are the days of four years, of
a hundred and of four hundred, less those by which such a span may fall short of its leap days. -/
theorem daysBefore_yearOfEra {e y : Int} (hfirst : 0 ≤ e) (hlast : e ≤ 146096)
    (hy : y = (e - e / 1460 + e / 36524 - e / 146096) / 365) :
    0 ≤ y ∧ y ≤ 399 ∧ daysBefore y ≤ e ∧ e < daysBefore (y + 1) := by
  unfold daysBefore
  obtain ⟨a, ha⟩ : ∃ a, a = e / 1460 := ⟨_, rfl⟩
  obtain ⟨century, hb⟩ : ∃ b, b = e / 36524 := ⟨_, rfl⟩
  by_cases hend : e = 146096
  · -- The last day is the leap day that only every fourth century has.
    subst hend
    subst hy
    decide
  · have hera : e / 146096 = 0 := by omega
    rw [hera, ← ha, ← hb] at hy
    have hcentury : 0 ≤ century ∧ century ≤ 3 := by omega
    have hleaps : 25 * century ≤ a ∧ a ≤ 25 * century + 25 := by omega
    have hyear : y / 100 = century := by omega
    have hera' : y / 400 = 0 := by omega
    have hbefore : y / 4 ≤ a := by omega
    have hafter : a ≤ (y + 1) / 4 := by omega
    have hlow : 365 * y + y / 4 - century ≤ e := by omega
    by_cases hturn : y + 1 = 100 * (century + 1)
    · omega
    · have hyear' : (y + 1) / 100 = century := by omega
      have hera'' : (y + 1) / 400 = 0 := by omega
      omega

/-- A count of days in parts: the year and the month from March, and the day of the month. -/
theorem exists_parts (n : Int) : ∃ y m day : Int,
    daysBefore y + (daysBeforeMonth m + day - 1) = n + marchEpoch ∧
      (0 ≤ m ∧ m ≤ 11) ∧ (1 ≤ day ∧ daysBeforeMonth m + day ≤ daysBeforeMonth (m + 1)) ∧
      n + marchEpoch < daysBefore (y + 1) ∧
      ofDays n = {
        year := if m < 10 then y else y + 1
        month := (if m < 10 then m + 3 else m - 9).toNat
        day := day.toNat } := by
  obtain ⟨era, hera⟩ : ∃ era, era = (n + 719468) / 146097 := ⟨_, rfl⟩
  obtain ⟨e, he⟩ : ∃ e, e = n + 719468 - era * 146097 := ⟨_, rfl⟩
  obtain ⟨y, hy⟩ : ∃ y, y = (e - e / 1460 + e / 36524 - e / 146096) / 365 := ⟨_, rfl⟩
  obtain ⟨dayOfYear, hday⟩ : ∃ d, d = e - (365 * y + y / 4 - y / 100) := ⟨_, rfl⟩
  obtain ⟨m, hm⟩ : ∃ m, m = (5 * dayOfYear + 2) / 153 := ⟨_, rfl⟩
  have hrange : 0 ≤ e ∧ e ≤ 146096 := by omega
  obtain ⟨hy0, hy399, hle, hlt⟩ := daysBefore_yearOfEra hrange.1 hrange.2 hy
  -- In years of the whole calendar.
  have hshift : ∀ z, 0 ≤ z → z ≤ 400 → daysBefore (z + era * 400) = daysBefore z + era * 146097 := by
    intro z _ _
    unfold daysBefore
    omega
  have hyear : daysBefore y = 365 * y + y / 4 - y / 100 := by
    unfold daysBefore
    omega
  have hlength : daysBefore (y + 1) ≤ daysBefore y + 366 := by
    rw [daysBefore_succ]
    split <;> omega
  refine ⟨y + era * 400, m, dayOfYear - daysBeforeMonth m + 1, ?_, ?_, ?_, ?_, ?_⟩
  · rw [hshift y hy0 (by omega), marchEpoch]
    omega
  · omega
  · unfold daysBeforeMonth
    omega
  · have hnext : y + era * 400 + 1 = y + 1 + era * 400 := by omega
    rw [hnext, hshift (y + 1) (by omega) (by omega), marchEpoch]
    omega
  · have hofDays : ofDays n = {
        year := y + era * 400 + if (if m < 10 then m + 3 else m - 9) ≤ 2 then 1 else 0
        month := (if m < 10 then m + 3 else m - 9).toNat
        day := (dayOfYear - daysBeforeMonth m + 1).toNat } := by
      subst hm hday hy he hera
      rfl
    rw [hofDays]
    by_cases hm10 : m < 10
    · simp only [if_pos hm10, if_neg (show ¬ m + 3 ≤ 2 by omega), Int.add_zero]
    · simp only [if_neg hm10, if_pos (show m - 9 ≤ 2 by omega)]

/-- **The date of a day tells the day.** -/
theorem toDays_ofDays (n : Int) : (ofDays n).toDays = n := by
  obtain ⟨y, m, day, hn, ⟨hm0, hm11⟩, ⟨hday, -⟩, -, hofDays⟩ := exists_parts n
  rw [toDays_eq, hofDays]
  have hmarch : marchYear { year := if m < 10 then y else y + 1
                            month := (if m < 10 then m + 3 else m - 9).toNat
                            day := day.toNat } = y := by
    unfold marchYear
    by_cases hm10 : m < 10
    · simp only [if_pos hm10]
      rw [if_neg (by omega)]
    · simp only [if_neg hm10]
      rw [if_pos (by omega)]
      omega
  have hmonth : (((if m < 10 then m + 3 else m - 9).toNat : Int) + 9) % 12 = m := by
    by_cases hm10 : m < 10
    · rw [if_pos hm10]
      omega
    · rw [if_neg hm10]
      omega
  rw [hmarch]
  show daysBefore y + (daysBeforeMonth ((((if m < 10 then m + 3 else m - 9).toNat : Int) + 9) % 12) +
    (day.toNat : Int) - 1) - marchEpoch = n
  rw [hmonth]
  omega

/-- The date of a day has a month of the year and a day of that month. -/
theorem monthLength_ofDays (n : Int) : 1 ≤ (ofDays n).month ∧ (ofDays n).month ≤ 12 ∧
    1 ≤ (ofDays n).day ∧ (ofDays n).day ≤ monthLength (ofDays n).year (ofDays n).month := by
  obtain ⟨y, m, day, hn, ⟨hm0, hm11⟩, ⟨hday, hlast⟩, hyear, hofDays⟩ := exists_parts n
  rw [hofDays]
  rw [daysBefore_succ] at hyear
  have hfirst : 1 ≤ day.toNat := by omega
  have hmonth : 1 ≤ (if m < 10 then m + 3 else m - 9).toNat ∧
      (if m < 10 then m + 3 else m - 9).toNat ≤ 12 := by
    split <;> omega
  refine ⟨hmonth.1, hmonth.2, hfirst, ?_⟩
  unfold daysBeforeMonth at hlast hn
  -- The months from March on; February is the last one, and it alone depends on the year.
  have hmonths : m = 11 ∨ m = 0 ∨ m = 1 ∨ m = 2 ∨ m = 3 ∨ m = 4 ∨ m = 5 ∨ m = 6 ∨ m = 7 ∨ m = 8 ∨
      m = 9 ∨ m = 10 := by omega
  rcases hmonths with rfl | hm
  · show day.toNat ≤ if isLeap (y + 1) then 29 else 28
    split at hyear
    · rw [if_pos ‹_›]
      omega
    · rw [if_neg ‹_›]
      omega
  · rcases hm with rfl | rfl | rfl | rfl | rfl | rfl | rfl | rfl | rfl | rfl | rfl
    all_goals
      simp [monthLength]
      omega

theorem monthLength_le (year : Int) (month : Nat) : monthLength year month ≤ 31 := by
  unfold monthLength
  split <;> first | decide | split <;> decide

/-! ## The first day of a year -/

/-- January begins 306 days after the March before it. -/
theorem toDays_newYear (y : Int) : toDays ⟨y, 1, 1⟩ = daysBefore (y - 1) + 306 - marchEpoch := by
  have hmarch : marchYear ⟨y, 1, 1⟩ = y - 1 := rfl
  have hday : daysBeforeMonth ((((1 : Nat) : Int) + 9) % 12) + ((1 : Nat) : Int) - 1 = 306 := by decide
  rw [toDays_eq, hmarch]
  exact congrArg (daysBefore (y - 1) + · - marchEpoch) hday

/-- **A day falls into the year or a later one unless it is before the first of January.** -/
theorem le_year_ofDays_iff (y n : Int) : y ≤ (ofDays n).year ↔ toDays ⟨y, 1, 1⟩ ≤ n := by
  obtain ⟨z, m, day, hn, ⟨hm0, hm11⟩, ⟨hday, hlast⟩, hyear, hofDays⟩ := exists_parts n
  rw [hofDays, toDays_newYear]
  show y ≤ (if m < 10 then z else z + 1) ↔ _
  unfold daysBeforeMonth at hlast hn
  by_cases hm10 : m < 10
  · rw [if_pos hm10]
    constructor
    · intro hle
      have hspan := daysBefore_succ_ge (y - 1)
      have hmono := daysBefore_mono (show y - 1 + 1 ≤ z by omega)
      omega
    · intro hle
      refine Int.not_lt.mp fun hlt => ?_
      have hmono := daysBefore_mono (show z ≤ y - 1 by omega)
      omega
  · rw [if_neg hm10]
    constructor
    · intro hle
      have hmono := daysBefore_mono (show y - 1 ≤ z by omega)
      omega
    · intro hle
      refine Int.not_lt.mp fun hlt => ?_
      have hmono := daysBefore_mono (show z + 1 ≤ y - 1 by omega)
      omega

/-- The date of a day is a date of the calendar if its year is one. -/
theorem isValid_ofDays {n : Int} (hfirst : firstYear ≤ (ofDays n).year)
    (hlast : (ofDays n).year ≤ lastYear) : (ofDays n).IsValid :=
  have hlength := monthLength_ofDays n
  ⟨hfirst, hlast, hlength.2.2.1, hlength.2.2.2⟩

end Date

namespace Instant

/-- An instant falls into the year or a later one unless it is before the first of January. -/
theorem le_year_date_iff (y : Int) (t : Instant) :
    y ≤ t.date.year ↔ Date.toDays ⟨y, 1, 1⟩ * secondsPerDay ≤ t.seconds := by
  unfold date
  rw [Date.le_year_ofDays_iff]
  exact Int.le_ediv_iff_mul_le (by decide)

/-- The seconds of an instant are those of its day and those since midnight. -/
theorem seconds_eq (t : Instant) :
    t.date.toDays * secondsPerDay + t.secondOfDay = t.seconds := by
  have hpos : 0 ≤ t.seconds % secondsPerDay := Int.emod_nonneg _ (by decide)
  rw [date, Date.toDays_ofDays, secondOfDay, Int.toNat_of_nonneg hpos]
  exact Int.mul_comm _ secondsPerDay ▸ Int.mul_ediv_add_emod t.seconds secondsPerDay

end Instant

end AdminConsole
