import Mathlib.Tactic.SplitIfs
import Tributary.Time.Calendar

/-!
# Days and dates

A day count is split into a cycle of four centuries, a year of the cycle, a day of that year and a month,
years starting in March; each step is undone by the day count of the date that comes out.

* `yearOfCycle_spec` : the year found for a day of a cycle is the one the day lies in;
* `monthFromMarch_spec` : so is the month found for a day of a year;
* `Date.dayNumber_ofDayNumber` : the date of a day count has that day count;
* `Date.isValid_ofDayNumber` : it is a date of the calendar.
-/

namespace Tributary.Time

/-! ## The year of a cycle -/

/-- The days of a cycle before one of its years. -/
def yearStart (y : Int) : Int := 365 * y + y / 4 - y / 100

def yearOfCycle (d : Int) : Int := (d - d / 1460 + d / 36524 - d / 146096) / 365

/-- Within the first 146096 days the year found for a day lies in the day's century `e`, of 36524 days, and
among the years of the day's four-year span `c`, or just before them. -/
theorem yearOfCycle_bounds {d y c e : Int} (h0 : 0 ≤ d) (h1 : d < 146096) (he : e = d / 36524)
    (hc : c = d / 1460) (hy : y = (d - c + e) / 365) : y / 100 = e ∧ y / 4 ≤ c ∧ c ≤ y / 4 + 1 := by
  have he4 : e = 0 ∨ e = 1 ∨ e = 2 ∨ e = 3 := by omega
  rcases he4 with rfl | rfl | rfl | rfl <;> omega

/-- A day lies in the year found for it, and on the 366th day of that year only if the year ends with a
leap day. -/
theorem yearOfCycle_spec {d : Int} (h0 : 0 ≤ d) (h1 : d < cycleDays) :
    0 ≤ yearOfCycle d ∧ yearOfCycle d ≤ 399 ∧ yearStart (yearOfCycle d) ≤ d ∧
      d ≤ yearStart (yearOfCycle d) + 365 ∧
      (d = yearStart (yearOfCycle d) + 365 → isLeapYear (yearOfCycle d + 1) = true) := by
  rw [cycleDays] at h1
  by_cases hlast : d = 146096
  · subst d
    decide
  · obtain ⟨y, hy⟩ : ∃ y, y = yearOfCycle d := ⟨_, rfl⟩
    have hy' : y = (d - d / 1460 + d / 36524) / 365 := by
      rw [hy, yearOfCycle, show d / 146096 = 0 by omega, Int.sub_zero]
    obtain ⟨hcentury, hlow, hhigh⟩ := yearOfCycle_bounds h0 (by omega) rfl rfl hy'
    rw [← hy, yearStart, hcentury]
    refine ⟨by omega, by omega, by omega, by omega, fun hleap => ?_⟩
    -- the day ends four years, and they do not end a century
    have hfour : y + 1 = 4 * (d / 1460) := by omega
    have hcenturies : (y + 1) % 100 ≠ 0 := by omega
    simp [isLeapYear, hcenturies, show (y + 1) % 4 = 0 by omega]

theorem isLeapYear_add_cycles (y cycles : Int) : isLeapYear (y + cycles * 400) = isLeapYear y := by
  rw [isLeapYear, isLeapYear, show (y + cycles * 400) % 4 = y % 4 by omega,
    show (y + cycles * 400) % 100 = y % 100 by omega, show (y + cycles * 400) % 400 = y % 400 by omega]

/-! ## The month of a year -/

/-- The days of a year before one of its months, both from March. -/
def monthStart (p : Int) : Int := (153 * p + 2) / 5

/-- The month, from March, to which a day of a year belongs. -/
def monthFromMarch (t : Int) : Int := (5 * t + 2) / 153

/-- The month of the calendar. -/
def monthOfMarch (p : Int) : Int := if p < 10 then p + 3 else p - 9

theorem monthFromMarch_range {t : Int} (h0 : 0 ≤ t) (h1 : t ≤ 365) :
    0 ≤ monthFromMarch t ∧ monthFromMarch t ≤ 11 := by
  rw [monthFromMarch]
  omega

/-- A day lies in the month found for it. -/
theorem monthFromMarch_spec {t y : Int} (h0 : 0 ≤ t) (h1 : t ≤ 365) (hleap : t = 365 → isLeapYear y = true) :
    monthStart (monthFromMarch t) ≤ t ∧
      t - monthStart (monthFromMarch t) < monthDays y (monthOfMarch (monthFromMarch t)) := by
  have hrange := monthFromMarch_range h0 h1
  obtain ⟨p, hp⟩ : ∃ p, p = monthFromMarch t := ⟨_, rfl⟩
  rw [← hp] at hrange ⊢
  rw [monthFromMarch] at hp
  refine ⟨by rw [monthStart]; omega, ?_⟩
  by_cases hy : isLeapYear y = true
  · simp only [monthDays, hy, if_true, monthStart, monthOfMarch]
    split_ifs <;> omega
  · have ht : t ≠ 365 := fun h => hy (hleap h)
    simp only [monthDays, if_neg hy, monthStart, monthOfMarch]
    split_ifs <;> omega

/-! ## Dates -/

namespace Date

def ofParts (cycle y t : Int) : Date :=
  let month := monthOfMarch (monthFromMarch t)
  ⟨y + cycle * 400 + (if month ≤ 2 then 1 else 0), month, t - monthStart (monthFromMarch t) + 1⟩

theorem ofDayNumber_eq (n : Int) :
    ofDayNumber n =
      ofParts ((n + epochShift) / cycleDays) (yearOfCycle ((n + epochShift) % cycleDays))
        ((n + epochShift) % cycleDays - yearStart (yearOfCycle ((n + epochShift) % cycleDays))) :=
  rfl

theorem dayNumber_ofParts {cycle y t : Int} (hy0 : 0 ≤ y) (hy1 : y ≤ 399) (ht0 : 0 ≤ t) (ht1 : t ≤ 365) :
    (ofParts cycle y t).dayNumber = cycle * cycleDays + (yearStart y + t) - epochShift := by
  have hrange := monthFromMarch_range ht0 ht1
  obtain ⟨p, hp⟩ : ∃ p, p = monthFromMarch t := ⟨_, rfl⟩
  rw [← hp] at hrange
  have hmonth : (monthOfMarch p + 9) % 12 = p := by rw [monthOfMarch]; split <;> omega
  have hyear : (if monthOfMarch p ≤ 2 then y + cycle * 400 + (if monthOfMarch p ≤ 2 then 1 else 0) - 1
      else y + cycle * 400 + (if monthOfMarch p ≤ 2 then 1 else 0)) = y + cycle * 400 := by
    split <;> omega
  have hcycle : (y + cycle * 400) / 400 = cycle := by omega
  have hrest : (y + cycle * 400) % 400 = y := by omega
  simp only [ofParts, dayNumber, ← hp, hyear, hmonth, hcycle, hrest, yearStart, monthStart]
  omega

theorem isValid_ofParts {cycle y t : Int} (ht0 : 0 ≤ t) (ht1 : t ≤ 365)
    (hleap : t = 365 → isLeapYear (y + 1) = true) : (ofParts cycle y t).isValid = true := by
  have hyear : t = 365 → isLeapYear (ofParts cycle y t).year = true := by
    rintro rfl
    have hmarch : (ofParts cycle y 365).year = y + 1 + cycle * 400 := by
      simp only [ofParts, show monthOfMarch (monthFromMarch 365) = 2 by decide, Int.le_refl, if_true]
      omega
    rw [hmarch, isLeapYear_add_cycles]
    exact hleap rfl
  have hrange := monthFromMarch_range ht0 ht1
  obtain ⟨hday0, hday1⟩ := monthFromMarch_spec ht0 ht1 hyear
  have hmonth : 1 ≤ monthOfMarch (monthFromMarch t) ∧ monthOfMarch (monthFromMarch t) ≤ 12 := by
    rw [monthOfMarch]
    split <;> omega
  refine decide_eq_true ⟨hmonth.1, hmonth.2, ?_, ?_⟩
  · simp only [ofParts]
    omega
  · exact Int.add_one_le_iff.mpr hday1

/-- The day of the cycle lies in the year that is found for it. -/
theorem ofDayNumber_spec (n : Int) :
    ∃ cycle y t, ofDayNumber n = ofParts cycle y t ∧ 0 ≤ y ∧ y ≤ 399 ∧ 0 ≤ t ∧ t ≤ 365 ∧
      (t = 365 → isLeapYear (y + 1) = true) ∧ n + epochShift = cycle * cycleDays + (yearStart y + t) := by
  have hpos : 0 ≤ (n + epochShift) % cycleDays := Int.emod_nonneg _ (by decide)
  have hlt : (n + epochShift) % cycleDays < cycleDays := Int.emod_lt_of_pos _ (by decide)
  obtain ⟨hy0, hy1, hstart, hend, hleap⟩ := yearOfCycle_spec hpos hlt
  have hsplit := Int.mul_ediv_add_emod (n + epochShift) cycleDays
  refine ⟨_, _, _, ofDayNumber_eq n, hy0, hy1, by omega, by omega, fun h => hleap (by omega), ?_⟩
  rw [Int.mul_comm]
  omega

theorem dayNumber_ofDayNumber (n : Int) : (ofDayNumber n).dayNumber = n := by
  obtain ⟨cycle, y, t, heq, hy0, hy1, ht0, ht1, -, hn⟩ := ofDayNumber_spec n
  rw [heq, dayNumber_ofParts hy0 hy1 ht0 ht1]
  omega

theorem isValid_ofDayNumber (n : Int) : (ofDayNumber n).isValid = true := by
  obtain ⟨cycle, y, t, heq, -, -, ht0, ht1, hleap, -⟩ := ofDayNumber_spec n
  rw [heq]
  exact isValid_ofParts ht0 ht1 hleap

/-- Around the epoch the years of dates have four digits. -/
theorem year_ofDayNumber {n : Int} (h0 : -106752 ≤ n) (h1 : n ≤ 106752) :
    1600 ≤ (ofDayNumber n).year ∧ (ofDayNumber n).year ≤ 2400 := by
  obtain ⟨cycle, y, t, heq, hy0, hy1, ht0, ht1, -, hn⟩ := ofDayNumber_spec n
  have hcycle : 4 ≤ cycle ∧ cycle ≤ 5 := by
    rw [epochShift, cycleDays, yearStart] at hn
    omega
  rw [heq]
  simp only [ofParts]
  split <;> omega

end Date

end Tributary.Time
