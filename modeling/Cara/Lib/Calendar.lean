import Mathlib.Data.Int.Order.Basic
import Mathlib.Tactic.IntervalCases

/-! The proleptic Gregorian calendar. Days are counted through the lengths of years and months, and the closed
formula of a civil date agrees with the count. -/
namespace Calendar

section Count

def isLeap (year : ℕ) : Bool := decide (year % 4 = 0 ∧ (year % 100 ≠ 0 ∨ year % 400 = 0))

def yearLength (year : ℕ) : ℕ := if isLeap year then 366 else 365

/-- The length of a month from January to December, and zero for any other number. -/
def monthLength (year : ℕ) : ℕ → ℕ
  | 1 | 3 | 5 | 7 | 8 | 10 | 12 => 31
  | 4 | 6 | 9 | 11 => 30
  | 2 => if isLeap year then 29 else 28
  | _ => 0

def daysBeforeYear : ℕ → ℕ
  | 0 => 0
  | year+1 => daysBeforeYear year + yearLength year

def daysBeforeMonth (year : ℕ) : ℕ → ℕ
  | 0 => 0
  | month+1 => daysBeforeMonth year month + monthLength year month

def IsMonth (month : ℕ) : Prop := 1 ≤ month ∧ month ≤ 12

def IsDate (year month day : ℕ) : Prop := IsMonth month ∧ 1 ≤ day ∧ day ≤ monthLength year month

/-- The days from the first of January 1970; days behind the end of a month count into the next one. -/
def dayNumber (year month day : ℕ) : ℤ :=
  daysBeforeYear year + daysBeforeMonth year month + day - 1 - daysBeforeYear 1970

end Count

section Closed

/-- Every fourth year has another day, but for the centuries that are not divisible by four hundred. -/
theorem daysBeforeYear_eq (year : ℕ) :
    (daysBeforeYear year : ℤ) = 365 * year + (year + 3) / 4 - (year + 99) / 100 + (year + 399) / 400 := by
  induction year with
  | zero => rfl
  | succ year ih =>
    rw [daysBeforeYear,yearLength]
    simp only [isLeap,decide_eq_true_eq]
    push_cast
    rw [ih]
    split <;> omega

/-- The days before a month, counted from the first of March. -/
theorem daysBeforeMonth_eq (year : ℕ) {month : ℕ} (h : IsMonth month) : daysBeforeMonth year month =
    if month ≤ 2 then 31 * (month - 1)
    else (153 * ((month + 9) % 12) + 2) / 5 + 59 + if isLeap year then 1 else 0 := by
  obtain ⟨hlower,hupper⟩ := h
  interval_cases month
  all_goals
    simp only [daysBeforeMonth,monthLength]
    cases isLeap year <;> rfl

/-- The count in closed form. A year that begins in March has its leap day at its end. -/
theorem dayNumber_eq (year day : ℕ) {month : ℕ} (h : IsMonth month) : dayNumber year month day =
    (let y : ℤ := if month ≤ 2 then year - 1 else year
     365 * y + y / 4 - y / 100 + y / 400 + (153 * ((month + 9) % 12) + 2) / 5 + day - 1 - 719468) := by
  have hepoch : (daysBeforeYear 1970 : ℤ) = 719528 := daysBeforeYear_eq 1970
  unfold dayNumber
  rw [hepoch,daysBeforeYear_eq,daysBeforeMonth_eq year h]
  simp only [isLeap,decide_eq_true_eq]
  obtain ⟨hlower,hupper⟩ := h
  split
  case isTrue hearly =>
    have hmonth : month = 1 ∨ month = 2 := by omega
    rcases hmonth with rfl | rfl <;> omega
  case isFalse hlate =>
    push_cast
    split <;> omega

end Closed

end Calendar
