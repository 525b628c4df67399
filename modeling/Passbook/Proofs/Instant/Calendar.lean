import Mathlib.Tactic.IntervalCases
import Mathlib.Tactic.Linarith
import Passbook.Instant.Basic

/-! Days and dates. With years that start in March, a day that is only there in leap years is the last of its year. The
date of a day is in the calendar, and the number of that date is the day. -/

namespace Passbook.Calendar

section March

def yearStart (y : Int) : Int := y * 365 + y / 4 - y / 100

def yearOfEra (day : Int) : Int := (day - day / 1460 + day / 36524 - day / 146096) / 365

variable {day : Int}

lemma yearOfEra_bounds (h0 : 0 ≤ day) (h1 : day < 146097) : 0 ≤ yearOfEra day ∧ yearOfEra day < 400 := by
  unfold yearOfEra
  omega

lemma yearOfEra_eq_iff (y : Int) : yearOfEra day = y ↔
    365 * y ≤ day - day / 1460 + day / 36524 - day / 146096 ∧
      day - day / 1460 + day / 36524 - day / 146096 < 365 * y + 365 := by
  unfold yearOfEra
  omega

lemma yearStart_le (h0 : 0 ≤ day) (h1 : day < 146097) :
    yearStart (yearOfEra day) ≤ day ∧ day ≤ yearStart (yearOfEra day) + 365 := by
  obtain ⟨hge, hlt⟩ := yearOfEra_bounds h0 h1
  obtain ⟨y, hy⟩ : ∃ y, yearOfEra day = y := ⟨_, rfl⟩
  rw [hy] at hge hlt ⊢
  rw [yearOfEra_eq_iff] at hy
  -- in one century of days and one of years, what is left is linear
  obtain ⟨hcentury, hcentury'⟩ : 0 ≤ y / 100 ∧ y / 100 < 4 := by omega
  obtain ⟨hdays, hdays'⟩ : 0 ≤ day / 36524 ∧ day / 36524 < 5 := by omega
  unfold yearStart
  generalize hf : day / 36524 = f at *
  generalize hk : y / 100 = k at *
  interval_cases k <;> interval_cases f <;> omega

lemma leap_of_last_day (h0 : 0 ≤ day) (h1 : day < 146097) (hlast : day = yearStart (yearOfEra day) + 365) :
    yearOfEra day % 4 = 3 ∧ (yearOfEra day % 100 = 99 → yearOfEra day = 399) := by
  obtain ⟨hge, hlt⟩ := yearOfEra_bounds h0 h1
  obtain ⟨y, hy⟩ : ∃ y, yearOfEra day = y := ⟨_, rfl⟩
  rw [hy] at hge hlt hlast ⊢
  rw [yearOfEra_eq_iff] at hy
  unfold yearStart at hlast
  by_cases hend : day = 146096
  · omega
  · have hera : day / 146096 = 0 := by omega
    have hcentury : y / 100 ≤ day / 36524 := by omega
    have hleap : y / 4 < day / 1460 := by omega
    have hquad : y % 4 = 3 := by omega
    refine ⟨hquad, ?_⟩
    omega

end March

structure IsDate (y : Int) (m d : Nat) : Prop where
  month : 1 ≤ m ∧ m ≤ 12
  day : 1 ≤ d ∧ d ≤ daysInMonth y m

section Dates

def ofMarch (era y dayOfYear : Int) : Int × Nat × Nat :=
  let march := (5 * dayOfYear + 2) / 153
  let m := if march < 10 then march + 3 else march - 9
  (y + era * 400 + (if m ≤ 2 then 1 else 0), m.toNat, (dayOfYear - (153 * march + 2) / 5 + 1).toNat)

lemma exists_ofMarch (era : Int) {y dayOfYear : Int} (hy : 0 ≤ y ∧ y < 400) (hday : 0 ≤ dayOfYear ∧ dayOfYear ≤ 365)
    (hleap : dayOfYear = 365 → y % 4 = 3 ∧ (y % 100 = 99 → y = 399)) :
    ∃ y' m d, ofMarch era y dayOfYear = (y', m, d) ∧ IsDate y' m d ∧
      dayNumber y' m d = era * 146097 + yearStart y + dayOfYear - 719468 := by
  obtain ⟨hy0, hy400⟩ := hy
  obtain ⟨hday0, hday365⟩ := hday
  obtain ⟨march, hmarch⟩ : ∃ march, (5 * dayOfYear + 2) / 153 = march := ⟨_, rfl⟩
  obtain ⟨hmarch0, hmarch12⟩ : 0 ≤ march ∧ march < 12 := by omega
  refine ⟨_, _, _, rfl, ?_⟩
  simp only [hmarch]
  constructor
  · constructor
    · interval_cases march <;> simp
    · interval_cases march <;> simp [daysInMonth, isLeapYear] <;> omega
  · interval_cases march <;> simp [dayNumber, yearStart] <;> omega

theorem exists_date (day : Int) : ∃ y m d, date day = (y, m, d) ∧ IsDate y m d ∧ dayNumber y m d = day := by
  obtain ⟨h0, h1⟩ : 0 ≤ (day + 719468) % 146097 ∧ (day + 719468) % 146097 < 146097 := by omega
  obtain ⟨n, hn⟩ : ∃ n, (day + 719468) % 146097 = n := ⟨_, rfl⟩
  rw [hn] at h0 h1
  obtain ⟨hle, hge⟩ := yearStart_le h0 h1
  have hleap : n - yearStart (yearOfEra n) = 365 →
      yearOfEra n % 4 = 3 ∧ (yearOfEra n % 100 = 99 → yearOfEra n = 399) := by
    intro hlast
    apply leap_of_last_day h0 h1
    omega
  obtain ⟨y, m, d, hdate, his, hnumber⟩ := exists_ofMarch ((day + 719468) / 146097) (yearOfEra_bounds h0 h1)
    ⟨sub_nonneg.mpr hle, by omega⟩ hleap
  refine ⟨y, m, d, ?_, his, ?_⟩
  · rw [← hdate, ← hn]
    simp only [date, ofMarch, yearOfEra, yearStart, Int.mul_comm]
  · rw [hnumber]
    omega

variable {y : Int} {m d : Nat}

lemma IsDate.day_le (h : IsDate y m d) : d ≤ 31 := by
  refine h.day.2.trans ?_
  unfold daysInMonth
  split <;> split <;> simp

lemma minYear_le (h : IsDate y m d) (hday : dayNumber minYear 1 1 ≤ dayNumber y m d) : minYear ≤ y := by
  obtain ⟨hm, hm12⟩ := h.month
  have hd := h.day.1
  have hd31 := h.day_le
  have hfirst : dayNumber minYear 1 1 = -96465292 := by decide
  rw [hfirst] at hday
  unfold minYear
  interval_cases m <;> simp [dayNumber] at hday <;> omega

lemma le_maxYear (h : IsDate y m d) (hday : dayNumber y m d ≤ dayNumber maxYear 12 31) : y ≤ maxYear := by
  obtain ⟨hm, hm12⟩ := h.month
  have hd := h.day.1
  have hlast : dayNumber maxYear 12 31 = 95026236 := by decide
  rw [hlast] at hday
  unfold maxYear
  interval_cases m <;> simp [dayNumber] at hday <;> omega

end Dates

end Passbook.Calendar
