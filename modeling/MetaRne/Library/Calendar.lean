/-
# The Gregorian calendar

Days are numbered from the first of January of year 1, which is day 0.
`ofDay` is the date of a day and `toDay` the day of a date; a day's date is in
its month (`ofDay_valid`) and is the date of that day (`toDay_ofDay`).
-/

import Mathlib.Algebra.Ring.Nat
import Mathlib.Data.Nat.Notation

namespace Library
namespace Calendar

def isLeap (year : ℕ) : Bool := year % 4 == 0 && (year % 100 != 0 || year % 400 == 0)

/-- How many days lie before a year. -/
def daysBeforeYear (year : ℕ) : ℕ :=
  (year - 1) * 365 + (year - 1) / 4 - (year - 1) / 100 + (year - 1) / 400

/-- How many days a month has, in a leap year or not. -/
def daysInMonth (leap : Bool) (month : ℕ) : ℕ :=
  if month = 2 && leap then 29 else [31, 28, 31, 30, 31, 30, 31, 31, 30, 31, 30, 31].getD (month - 1) 0

/-- How many days of its year lie before a month. -/
def daysBeforeMonth (leap : Bool) (month : ℕ) : ℕ :=
  ((List.range (month - 1)).map fun m => daysInMonth leap (m + 1)).sum

structure Date where
  year : ℕ
  month : ℕ
  day : ℕ
  deriving DecidableEq, Repr

/-- The date is in the calendar. -/
def Date.isValid (date : Date) : Bool :=
  1 ≤ date.year && 1 ≤ date.month && date.month ≤ 12 && 1 ≤ date.day &&
    date.day ≤ daysInMonth (isLeap date.year) date.month

/-- The day of a date. -/
def Date.toDay (date : Date) : ℕ :=
  daysBeforeYear date.year + daysBeforeMonth (isLeap date.year) date.month + (date.day - 1)

/-- The year of a day, and which day of the year it is.

The last day of a cycle of 400 or of 4 years would start a fifth part of it: it is
the 366th day of the year before. -/
def yearOf (n : ℕ) : ℕ × ℕ :=
  let centuries := n % 146097 / 36524
  let inCentury := n % 146097 % 36524
  let years := inCentury % 1461 / 365
  let before := 400 * (n / 146097) + 100 * centuries + 4 * (inCentury / 1461) + years
  if centuries = 4 ∨ years = 4 then (before, 365)
  else (before + 1, inCentury % 1461 % 365)

/-- The month of a day of the year: as many months as do not start after it. -/
def monthOf (leap : Bool) (k : ℕ) : ℕ :=
  ((List.range 12).filter fun m => daysBeforeMonth leap (m + 1) ≤ k).length

/-- The date of a day. -/
def ofDay (n : ℕ) : Date :=
  let (year, k) := yearOf n
  let month := monthOf (isLeap year) k
  ⟨year, month, k - daysBeforeMonth (isLeap year) month + 1⟩

/-! ### A day has one date -/

theorem isLeap_iff {year : ℕ} :
    isLeap year = true ↔ year % 4 = 0 ∧ (year % 100 ≠ 0 ∨ year % 400 = 0) := by
  simp only [isLeap, Bool.and_eq_true, beq_iff_eq, Bool.or_eq_true, bne_iff_ne]

theorem isLeap_of_century {a : ℕ} : isLeap (400 * a + 400) = true := by
  rw [isLeap_iff]
  omega

theorem isLeap_of_fourth {a b c : ℕ} (hc : c ≤ 23) : isLeap (400 * a + 100 * b + 4 * c + 4) = true := by
  rw [isLeap_iff]
  omega

/-- The days before a year, by the cycles of 400, 100 and 4 years that lie before it. -/
theorem daysBeforeYear_eq {a b c d : ℕ} (hb : b ≤ 3) (hc : c ≤ 24) (hd : d ≤ 3) :
    daysBeforeYear (400 * a + 100 * b + 4 * c + d + 1) =
      146097 * a + 36524 * b + 1461 * c + 365 * d := by
  have hyear : 400 * a + 100 * b + 4 * c + d + 1 - 1 = 400 * a + 100 * b + 4 * c + d := by omega
  have hfourths : (400 * a + 100 * b + 4 * c + d) / 4 = 100 * a + 25 * b + c := by omega
  have hcenturies : (400 * a + 100 * b + 4 * c + d) / 100 = 4 * a + b := by omega
  have hcycles : (400 * a + 100 * b + 4 * c + d) / 400 = a := by omega
  rw [daysBeforeYear, hyear, hfourths, hcenturies, hcycles]
  omega

/-- A year is found with the days before it, and with as many days as it has. -/
theorem yearOf_spec (n : ℕ) :
    1 ≤ (yearOf n).1 ∧ daysBeforeYear (yearOf n).1 + (yearOf n).2 = n ∧
      (yearOf n).2 < 366 ∧ ((yearOf n).2 = 365 → isLeap (yearOf n).1 = true) := by
  have hcentury : n % 146097 / 36524 ≤ 4 := by omega
  have hfourth : n % 146097 % 36524 / 1461 ≤ 24 := by omega
  have hyears : n % 146097 % 36524 % 1461 / 365 ≤ 4 := by omega
  by_cases hlast : n % 146097 / 36524 = 4
  · -- The last day of 400 years.
    have hfourth0 : n % 146097 % 36524 / 1461 = 0 := by omega
    have hyears0 : n % 146097 % 36524 % 1461 / 365 = 0 := by omega
    have hdays := daysBeforeYear_eq (a := n / 146097) (b := 3) (c := 24) (d := 3) (by decide)
      (by decide) (by decide)
    have hfound : yearOf n = (400 * (n / 146097) + 400, 365) := by
      simp only [yearOf, hlast, hfourth0, hyears0, true_or, if_true]
    rw [hfound]
    have hyear : 400 * (n / 146097) + 400 = 400 * (n / 146097) + 100 * 3 + 4 * 24 + 3 + 1 := by
      omega
    refine ⟨by omega, ?_, Nat.lt_succ_self 365, fun _ => isLeap_of_century⟩
    simp only [hyear, hdays]
    omega
  · by_cases hfifth : n % 146097 % 36524 % 1461 / 365 = 4
    · -- The last day of four years.
      have hfourth23 : n % 146097 % 36524 / 1461 ≤ 23 := by omega
      have hdays := daysBeforeYear_eq (a := n / 146097) (b := n % 146097 / 36524)
        (c := n % 146097 % 36524 / 1461) (d := 3) (by omega) hfourth le_rfl
      have hfound : yearOf n = (400 * (n / 146097) + 100 * (n % 146097 / 36524) +
          4 * (n % 146097 % 36524 / 1461) + 4, 365) := by
        simp only [yearOf, hfifth, or_true, if_true]
      rw [hfound]
      refine ⟨by omega, ?_, Nat.lt_succ_self 365, fun _ => isLeap_of_fourth hfourth23⟩
      simp only [hdays]
      omega
    · have hdays := daysBeforeYear_eq (a := n / 146097) (b := n % 146097 / 36524)
        (c := n % 146097 % 36524 / 1461) (d := n % 146097 % 36524 % 1461 / 365)
        (by omega) hfourth (by omega)
      have hfound : yearOf n = (400 * (n / 146097) + 100 * (n % 146097 / 36524) +
          4 * (n % 146097 % 36524 / 1461) + n % 146097 % 36524 % 1461 / 365 + 1,
          n % 146097 % 36524 % 1461 % 365) := by
        simp only [yearOf, hlast, hfifth, or_self, if_false]
      have hday : n % 146097 % 36524 % 1461 % 365 < 365 := Nat.mod_lt _ (by decide)
      rw [hfound]
      refine ⟨Nat.le_add_left 1 _, ?_, by omega, fun h => absurd h (Nat.ne_of_lt hday)⟩
      simp only [hdays]
      omega

theorem daysInMonth_le : ∀ leap : Bool, ∀ month ≤ 12, daysInMonth leap month ≤ 31 := by decide

/-- Whether a day of the year is in the month found for it. -/
def monthFits (leap : Bool) (k : ℕ) : Bool :=
  1 ≤ monthOf leap k && monthOf leap k ≤ 12 && daysBeforeMonth leap (monthOf leap k) ≤ k &&
    k - daysBeforeMonth leap (monthOf leap k) + 1 ≤ daysInMonth leap (monthOf leap k)

theorem monthFits_of_lt : ∀ leap : Bool, ∀ k < 366, (k = 365 → leap = true) →
    monthFits leap k = true := by
  decide +kernel

theorem ofDay_valid (n : ℕ) : (ofDay n).isValid = true := by
  obtain ⟨hyear, -, hlt, hleap⟩ := yearOf_spec n
  have hfits := monthFits_of_lt (isLeap (yearOf n).1) _ hlt hleap
  simp only [monthFits, Bool.and_eq_true, decide_eq_true_eq] at hfits
  obtain ⟨⟨⟨hpos, hle⟩, -⟩, hday⟩ := hfits
  have hpos' : 1 ≤ (ofDay n).month := hpos
  have hyear' : 1 ≤ (ofDay n).year := hyear
  simp only [Date.isValid, Bool.and_eq_true, decide_eq_true_eq]
  exact ⟨⟨⟨⟨hyear', hpos'⟩, hle⟩, Nat.le_add_left 1 _⟩, hday⟩

theorem toDay_ofDay (n : ℕ) : (ofDay n).toDay = n := by
  obtain ⟨-, hsum, hlt, hleap⟩ := yearOf_spec n
  have hfits := monthFits_of_lt (isLeap (yearOf n).1) _ hlt hleap
  simp only [monthFits, Bool.and_eq_true, decide_eq_true_eq] at hfits
  obtain ⟨⟨-, hbefore⟩, -⟩ := hfits
  simp only [ofDay, Date.toDay]
  omega

/-- A day before year 10000 has a year of at most four digits. -/
theorem ofDay_year_le {n : ℕ} (h : n < 3652059) : (ofDay n).year ≤ 9999 := by
  change (yearOf n).1 ≤ 9999
  simp only [yearOf]
  split_ifs with hlast
  · dsimp only
    omega
  · dsimp only
    omega

end Calendar
end Library
