import TokenAuth.Calendar
import Mathlib.Tactic.IntervalCases

/-!
Dates and day numbers determine each other. A day number is taken apart into eras of 400 years,
centuries, spans of four years and years that begin in March; the date put together from these parts
exists in the calendar and has the number it came from. Day numbers also bound the years they fall in.
-/
namespace TokenAuth.CalendarDate

/-- The day of the year counted from March, when the March years before it are full. -/
def dayOfMarchYear (y : Int) (dayOfYear : Nat) : Int :=
  365 * y + y / 4 - y / 100 + y / 400 + dayOfYear - 719468

/-- The parts of a day number: the year that begins in March, and the day in it. The last day of a
year of 366 days belongs to a year whose February is a leap one. -/
theorem exists_marchYear (n : Int) :
    ∃ (y : Int) (d : Nat), n = dayOfMarchYear y d ∧ d ≤ 365 ∧ (d = 365 → IsLeapYear (y + 1)) ∧
      ofDayNumber n =
        { year := y + (if ((5 * d + 2) / 153 + 2) % 12 + 1 ≤ 2 then 1 else 0)
          month := ((5 * d + 2) / 153 + 2) % 12 + 1
          day := d - daysBeforeMonth ((5 * d + 2) / 153) + 1 } := by
  let z := n + 719468
  let era := z / 146097
  let dayOfEra := z % 146097
  let century := min (dayOfEra / 36524) 3
  let dayOfCentury := dayOfEra - 36524 * century
  let quad := dayOfCentury / 1461
  let dayOfQuad := dayOfCentury % 1461
  let yearOfQuad := min (dayOfQuad / 365) 3
  have hera : z = 146097 * era + dayOfEra ∧ 0 ≤ dayOfEra ∧ dayOfEra < 146097 := by
    simp only [era, dayOfEra]
    omega
  have hcentury : 0 ≤ century ∧ century ≤ 3 ∧ 0 ≤ dayOfCentury ∧ dayOfCentury ≤ 36524 ∧
      (dayOfCentury = 36524 → century = 3) := by
    simp only [century, dayOfCentury]
    omega
  have hquad : dayOfCentury = 1461 * quad + dayOfQuad ∧ 0 ≤ quad ∧ quad ≤ 24 ∧
      0 ≤ dayOfQuad ∧ dayOfQuad ≤ 1460 := by
    simp only [quad, dayOfQuad]
    omega
  have hyear : 0 ≤ yearOfQuad ∧ yearOfQuad ≤ 3 ∧ 0 ≤ dayOfQuad - 365 * yearOfQuad ∧
      dayOfQuad - 365 * yearOfQuad ≤ 365 ∧
      (dayOfQuad - 365 * yearOfQuad = 365 → yearOfQuad = 3) := by
    simp only [yearOfQuad]
    omega
  refine ⟨400 * era + 100 * century + 4 * quad + yearOfQuad,
    (dayOfQuad - 365 * yearOfQuad).toNat, ?_, ?_, ?_, rfl⟩
  · have hz : n = 146097 * era + (36524 * century + dayOfCentury) - 719468 := by
      simp only [dayOfCentury, z] at hera ⊢
      omega
    clear_value era century quad yearOfQuad dayOfCentury dayOfQuad
    have hfour : (400 * era + 100 * century + 4 * quad + yearOfQuad) / 4 =
        100 * era + 25 * century + quad := by omega
    have hhundred : (400 * era + 100 * century + 4 * quad + yearOfQuad) / 100 =
        4 * era + century := by omega
    have hera' : (400 * era + 100 * century + 4 * quad + yearOfQuad) / 400 = era := by omega
    unfold dayOfMarchYear
    rw [hfour, hhundred, hera']
    omega
  · clear_value yearOfQuad dayOfQuad
    omega
  · intro hlast
    clear_value era century quad yearOfQuad dayOfCentury dayOfQuad
    unfold IsLeapYear
    omega

/-- The months from March on have 31, 30, 31, 30, 31, 31, 30, 31, 30, 31, 31 and at most 29 days. -/
theorem month_of_dayOfYear (d : Nat) (hd : d ≤ 365) :
    (5 * d + 2) / 153 ≤ 11 ∧ daysBeforeMonth ((5 * d + 2) / 153) ≤ d ∧
      (((5 * d + 2) / 153 + 2) % 12 + 1 ≤ 2 ↔ 305 < d) := by
  refine ⟨by omega, by unfold daysBeforeMonth; omega, ?_⟩
  rcases Nat.lt_or_ge 305 d with h | h
  · have hmod : ((5 * d + 2) / 153 + 2) % 12 = (5 * d + 2) / 153 + 2 - 12 := by omega
    omega
  · rw [Nat.mod_eq_of_lt (by omega)]
    omega

theorem dayNumber_ofDayNumber (n : Int) : (ofDayNumber n).dayNumber = n := by
  obtain ⟨y, d, hn, hd, -, hdate⟩ := exists_marchYear n
  obtain ⟨hmonth, hday, -⟩ := month_of_dayOfYear d hd
  rw [hdate]
  generalize hm : (5 * d + 2) / 153 = m at hmonth hday ⊢
  have hfrom : monthFromMarch ((m + 2) % 12 + 1) = m := by
    unfold monthFromMarch
    omega
  have hyear : (if (m + 2) % 12 + 1 ≤ 2 then (y + if (m + 2) % 12 + 1 ≤ 2 then 1 else 0) - 1
      else y + if (m + 2) % 12 + 1 ≤ 2 then 1 else 0) = y := by
    split <;> omega
  simp only [dayNumber, hfrom, hyear]
  rw [hn]
  unfold dayOfMarchYear
  omega

theorem exists_ofDayNumber (n : Int) : (ofDayNumber n).Exists := by
  obtain ⟨y, d, -, hd, hleap, hdate⟩ := exists_marchYear n
  obtain ⟨hmonth, hday, -⟩ := month_of_dayOfYear d hd
  rw [hdate]
  generalize hm : (5 * d + 2) / 153 = m at hmonth hday ⊢
  refine ⟨by simp only; omega, by simp only; omega, by simp only; omega, ?_⟩
  simp only [daysInMonth, daysBeforeMonth] at hday ⊢
  interval_cases m <;> simp only [Nat.reduceAdd, Nat.reduceMod, Nat.reduceMul, Nat.reduceDiv,
    Nat.reduceEqDiff, Nat.reduceLeDiff, if_true, if_false, or_true, or_false] <;>
    first
    | omega
    | (split
       · omega
       · next h =>
         have : d ≠ 365 := fun hlast => h (hleap hlast)
         omega)

theorem daysInMonth_lt (year : Int) (month : Nat) : daysInMonth year month < 100 := by
  unfold daysInMonth
  split
  · split <;> decide
  · split <;> decide

/-- The first and the last day of which an instant knows lie in the first and the last year. -/
theorem year_ofDayNumber_bounds (n : Int) (hfirst : -96465292 ≤ n) (hlast : n ≤ 95026236) :
    -262143 ≤ (ofDayNumber n).year ∧ (ofDayNumber n).year ≤ 262142 := by
  obtain ⟨y, d, hn, hd, -, hdate⟩ := exists_marchYear n
  rw [hdate]
  unfold dayOfMarchYear at hn
  have hafter : -262144 ≤ y := by
    by_contra hy
    omega
  have hbefore : y ≤ 262142 := by
    by_contra hy
    omega
  obtain ⟨-, -, hwinter⟩ := month_of_dayOfYear d hd
  simp only [hwinter]
  split
  · omega
  · constructor
    · by_contra hy
      omega
    · omega

end TokenAuth.CalendarDate
