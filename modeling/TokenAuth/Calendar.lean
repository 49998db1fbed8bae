/-!
The proleptic Gregorian calendar. Days are numbered from 1970-01-01. Years are counted from March,
so that the leap day closes its year, and 400 years have 146097 days.
-/
namespace TokenAuth

structure CalendarDate where
  year : Int
  month : Nat
  day : Nat
  deriving DecidableEq, Repr

namespace CalendarDate

def IsLeapYear (year : Int) : Prop :=
  year % 4 = 0 ∧ (year % 100 ≠ 0 ∨ year % 400 = 0)

instance (year : Int) : Decidable (IsLeapYear year) := inferInstanceAs (Decidable (_ ∧ _))

def daysInMonth (year : Int) (month : Nat) : Nat :=
  if month = 2 then (if IsLeapYear year then 29 else 28)
  else if month = 4 ∨ month = 6 ∨ month = 9 ∨ month = 11 then 30
  else 31

def Exists (d : CalendarDate) : Prop :=
  1 ≤ d.month ∧ d.month ≤ 12 ∧ 1 ≤ d.day ∧ d.day ≤ daysInMonth d.year d.month

instance (d : CalendarDate) : Decidable d.Exists := inferInstanceAs (Decidable (_ ∧ _))

/-- Months since March. -/
def monthFromMarch (month : Nat) : Nat := (month + 9) % 12

/-- Days from the first of March to the first of a month. -/
def daysBeforeMonth (fromMarch : Nat) : Nat := (153 * fromMarch + 2) / 5

/-- The number of the day, 1970-01-01 being day 0. -/
def dayNumber (d : CalendarDate) : Int :=
  let y : Int := if d.month ≤ 2 then d.year - 1 else d.year
  365 * y + y / 4 - y / 100 + y / 400 + daysBeforeMonth (monthFromMarch d.month) + (d.day - 1) - 719468

/-- The date of a day number. -/
def ofDayNumber (n : Int) : CalendarDate :=
  let z := n + 719468
  let era := z / 146097
  let dayOfEra := z % 146097
  let century := min (dayOfEra / 36524) 3
  let dayOfCentury := dayOfEra - 36524 * century
  let quad := dayOfCentury / 1461
  let dayOfQuad := dayOfCentury % 1461
  let yearOfQuad := min (dayOfQuad / 365) 3
  let dayOfYear := (dayOfQuad - 365 * yearOfQuad).toNat
  let fromMarch := (5 * dayOfYear + 2) / 153
  let month := (fromMarch + 2) % 12 + 1
  { year := 400 * era + 100 * century + 4 * quad + yearOfQuad + (if month ≤ 2 then 1 else 0)
    month
    day := dayOfYear - daysBeforeMonth fromMarch + 1 }

end CalendarDate

end TokenAuth
