import Mathlib

namespace BdPay.Data

/-! The proleptic Gregorian calendar, counted from 1 January of year 1.

`civil` splits a day number into year, month and day; `dayNumber` puts it back.
-/

namespace Calendar

structure Civil where
  (year month day : Nat)

def isLeap (year : Nat) : Bool := year % 4 == 0 && (year % 100 != 0 || year % 400 == 0)

/-- Days of a common year before the first of `month`. -/
def daysBefore (month : Nat) : Nat := [0, 0, 31, 59, 90, 120, 151, 181, 212, 243, 273, 304, 334].getD month 0

def daysBeforeMonth (leap : Bool) (month : Nat) : Nat :=
  daysBefore month + (if leap && decide (2 < month) then 1 else 0)

def daysBeforeYear (year : Nat) : Nat :=
  (year - 1) * 365 + (year - 1) / 4 - (year - 1) / 100 + (year - 1) / 400

def dayNumber (date : Civil) : Nat :=
  daysBeforeYear date.year + daysBeforeMonth (isLeap date.year) date.month + (date.day - 1)

/-- The month and the day of the month of the `ordinal`-th day of a year,
counted from zero. -/
def monthDay (leap : Bool) (ordinal : Nat) : Nat × Nat :=
  let estimate := (ordinal + 50) / 32
  let month := if ordinal < daysBeforeMonth leap estimate then estimate - 1 else estimate
  (month, ordinal - daysBeforeMonth leap month + 1)

/-- The year of a day number and how many of that year's days came before it. -/
def yearOrdinal (number : Nat) : Nat × Nat :=
  let cycle := number / 146097
  let century := number % 146097 / 36524
  let quad := number % 146097 % 36524 / 1461
  let single := number % 146097 % 36524 % 1461 / 365
  let year := cycle * 400 + century * 100 + quad * 4 + single + 1
  -- The last day of a leap year ends a cycle one day after its regular years do.
  if century = 4 ∨ single = 4 then (year - 1, 365)
  else (year, number % 146097 % 36524 % 1461 % 365)

def civil (number : Nat) : Civil :=
  let (year, ordinal) := yearOrdinal number
  let (month, day) := monthDay (isLeap year) ordinal
  ⟨year, month, day⟩

theorem monthDay_inverse : ∀ leap, ∀ ordinal < (if leap then 366 else 365),
    daysBeforeMonth leap (monthDay leap ordinal).1 + ((monthDay leap ordinal).2 - 1) = ordinal ∧
      0 < (monthDay leap ordinal).1 ∧ (monthDay leap ordinal).1 < 13 ∧ (monthDay leap ordinal).2 < 32 := by
  decide +kernel

theorem daysBeforeYear_eq (centuryBound : century < 4) (quadBound : quad < 25) (singleBound : single < 4) :
    daysBeforeYear (cycle * 400 + century * 100 + quad * 4 + single + 1) =
      cycle * 146097 + century * 36524 + quad * 1461 + single * 365 := by
  have quarter : (cycle * 400 + century * 100 + quad * 4 + single) / 4 = cycle * 100 + century * 25 + quad := by
    omega
  have hundredth : (cycle * 400 + century * 100 + quad * 4 + single) / 100 = cycle * 4 + century := by omega
  have fourHundredth : (cycle * 400 + century * 100 + quad * 4 + single) / 400 = cycle := by omega
  simp only [daysBeforeYear, Nat.add_sub_cancel, quarter, hundredth, fourHundredth]
  omega

/-- Where a day number falls in the 400, 100, 4 and 1 year cycles. -/
theorem yearOrdinal_spec (number : Nat) : ∃ cycle century quad single ordinal, century < 4 ∧ quad < 25 ∧ single < 4 ∧
      number = cycle * 146097 + century * 36524 + quad * 1461 + single * 365 + ordinal ∧
      yearOrdinal number = (cycle * 400 + century * 100 + quad * 4 + single + 1, ordinal) ∧
      (ordinal < 365 ∨ ordinal = 365 ∧ single = 3 ∧ (quad < 24 ∨ century = 3)) := by
  simp only [yearOrdinal]
  by_cases lastOfCycle : number % 146097 / 36524 = 4
  · refine ⟨number / 146097, 3, 24, 3, 365, by omega, by omega, by omega, by omega, ?_, by omega⟩
    have exhausted : number % 146097 % 36524 = 0 := by omega
    simp [lastOfCycle, exhausted]
  · by_cases lastOfQuad : number % 146097 % 36524 % 1461 / 365 = 4
    · refine ⟨number / 146097, number % 146097 / 36524, number % 146097 % 36524 / 1461, 3, 365,
        by omega, by omega, by omega, by omega, ?_, by omega⟩
      simp [lastOfQuad]
    · refine ⟨number / 146097, number % 146097 / 36524, number % 146097 % 36524 / 1461,
        number % 146097 % 36524 % 1461 / 365, number % 146097 % 36524 % 1461 % 365,
        by omega, by omega, by omega, by omega, ?_, by omega⟩
      simp [lastOfCycle, lastOfQuad]

/-- The day found lies in its year, the 366th only when the year is a leap year. -/
theorem yearOrdinal_lt (number : Nat) :
    (yearOrdinal number).2 < (if isLeap (yearOrdinal number).1 then 366 else 365) := by
  obtain ⟨cycle, century, quad, single, ordinal, -, quadBound, -, -, year, bound⟩ := yearOrdinal_spec number
  rw [year]
  rcases bound with regular | ⟨rfl, rfl, full⟩
  · split_ifs <;> simp only <;> omega
  · have leap : isLeap (cycle * 400 + century * 100 + quad * 4 + 3 + 1) = true := by
      simp only [isLeap, Bool.and_eq_true, Bool.or_eq_true, beq_iff_eq, bne_iff_ne, ne_eq]
      omega
    simp [leap]

theorem dayNumber_civil (number : Nat) : dayNumber (civil number) = number := by
  have inverse := (monthDay_inverse _ _ (yearOrdinal_lt number)).1
  obtain ⟨cycle, century, quad, single, ordinal, centuryBound, quadBound, singleBound, split, year, -⟩ :=
    yearOrdinal_spec number
  simp only [year] at inverse
  simp only [civil, year, dayNumber, daysBeforeYear_eq centuryBound quadBound singleBound]
  omega

theorem civil_injective : Function.Injective civil := fun left right same => by
  rw [← dayNumber_civil left, same, dayNumber_civil]

end Calendar

end BdPay.Data
