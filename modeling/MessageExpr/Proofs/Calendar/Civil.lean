import MessageExpr.Calendar.Civil

/-!
# Day numbers

The day with a number is computed in years that start on 1 March. An era of 400 such years has four
centuries, a century has 25 quads of four years, and each of these parts may lack a day at its end.
So a day of an era is some whole centuries, quads and years and then a day of a year
(`yearOfEra_eq`), and a day of a year is some whole months and then a day of a month. `PlacedAt`
states where a numbered day is in the era, the year and the month, and that the calendar has it.

It follows that every number is that of a day of the calendar (`isValid_ofDayNumber`), and that the
day has this number (`toDayNumber_ofDayNumber`).
-/

set_option autoImplicit false

namespace MessageExpr.CivilDate

/-- The year of an era in which a day of the era lies. -/
def yearOfEra (dayOfEra : Int) : Int :=
  (dayOfEra - dayOfEra / 1460 + dayOfEra / 36524 - dayOfEra / 146096) / 365

/-- The days of an era before one of its years. -/
def daysBeforeYear (yearOfEra : Int) : Int := 365 * yearOfEra + yearOfEra / 4 - yearOfEra / 100

/-- The days of a year before one of its months, where March is month 0. -/
def daysBeforeMonth (month : Int) : Int := (153 * month + 2) / 5

/-- A day by its year from March on, its month, where March is month 0, and its day of the month. -/
def fromMarch (year month day : Int) : CivilDate where
  year := if month < 10 then year else year + 1
  month := (if month < 10 then month + 3 else month - 9).toNat
  day := day.toNat

/-! ## The year of a day -/

/-- **A day of an era is some whole centuries, quads and years and a day of a year.** Only a last
year of a quad has a day 365; the last quad of a century lacks it, except in the last century. -/
theorem yearOfEra_eq (dayOfEra : Int) (nonnegative : 0 ≤ dayOfEra) (below : dayOfEra < 146097) :
    ∃ centuries quads years dayOfYear : Int,
      (0 ≤ centuries ∧ centuries ≤ 3) ∧ (0 ≤ quads ∧ quads ≤ 24) ∧ (0 ≤ years ∧ years ≤ 3) ∧
      dayOfEra = 36524 * centuries + 1461 * quads + 365 * years + dayOfYear ∧
      yearOfEra dayOfEra = 100 * centuries + 4 * quads + years ∧ 0 ≤ dayOfYear ∧
      (dayOfYear ≤ 364 ∨ dayOfYear = 365 ∧ years = 3 ∧ (quads ≤ 23 ∨ centuries = 3)) := by
  by_cases last : dayOfEra = 146096
  · subst last
    exact ⟨3, 24, 3, 365, by decide⟩
  · obtain ⟨centuries, century⟩ : ∃ centuries, centuries = dayOfEra / 36524 := ⟨_, rfl⟩
    obtain ⟨rest, isRest⟩ : ∃ rest, rest = dayOfEra - 36524 * centuries := ⟨_, rfl⟩
    obtain ⟨quads, quad⟩ : ∃ quads, quads = rest / 1461 := ⟨_, rfl⟩
    obtain ⟨dayOfQuad, isDay⟩ : ∃ day, day = rest - 1461 * quads := ⟨_, rfl⟩
    -- Counting in 1460 days is ahead by one quad near the end of a quad.
    obtain ⟨ahead, isAhead⟩ : ∃ ahead, ahead = (24 * centuries + quads + dayOfQuad) / 1460 :=
      ⟨_, rfl⟩
    have aheadBound : 0 ≤ ahead ∧ ahead ≤ 1 := by omega
    have quadsOfEra : dayOfEra / 1460 = 25 * centuries + quads + ahead := by omega
    have beforeLast : dayOfEra / 146096 = 0 := by omega
    obtain ⟨years, year⟩ : ∃ years, years = (dayOfQuad - ahead) / 365 := ⟨_, rfl⟩
    have yearsBound : 0 ≤ years ∧ years ≤ 3 := by omega
    have isYear : yearOfEra dayOfEra = 100 * centuries + 4 * quads + years := by
      rw [yearOfEra, quadsOfEra, beforeLast, ← century]
      omega
    refine ⟨centuries, quads, years, dayOfQuad - 365 * years, ?_, ?_, yearsBound, ?_, isYear, ?_,
      ?_⟩
    all_goals omega

/-! ## The place of a day -/

/-- The numbered day is a day of a month of a year of an era, and the calendar has it. -/
structure PlacedAt (number era year month day : Int) : Prop where
  inEra : 0 ≤ year ∧ year < 400
  inYear : 0 ≤ month ∧ month ≤ 11
  positive : 1 ≤ day
  /-- The day is one of its month, as far as the next month tells. -/
  fits : day ≤ daysBeforeMonth (month + 1) - daysBeforeMonth month
  /-- The last month of the year, which is February, may lack a day. -/
  february : month = 11 → day ≤ 28 ∨ day = 29 ∧ isLeapYear (year + era * 400 + 1) = true
  number_eq : number =
    era * 146097 + (daysBeforeYear year + (daysBeforeMonth month + day - 1)) - 719468

theorem ofDayNumber_eq (number : Int) :
    ∃ era year month day, PlacedAt number era year month day ∧
      ofDayNumber number = fromMarch (year + era * 400) month day := by
  obtain ⟨era, isEra⟩ : ∃ era, era = (number + 719468) / 146097 := ⟨_, rfl⟩
  obtain ⟨dayOfEra, isDayOfEra⟩ : ∃ day, day = number + 719468 - era * 146097 := ⟨_, rfl⟩
  obtain ⟨centuries, quads, years, dayOfYear, century, quad, year, split, isYear, nonnegative,
    leap⟩ := yearOfEra_eq dayOfEra (by omega) (by omega)
  have before : dayOfEra - daysBeforeYear (yearOfEra dayOfEra) = dayOfYear := by
    rw [isYear, daysBeforeYear]
    omega
  obtain ⟨month, isMonth⟩ : ∃ month, month = (5 * dayOfYear + 2) / 153 := ⟨_, rfl⟩
  obtain ⟨day, isDay⟩ : ∃ day, day = dayOfYear - daysBeforeMonth month + 1 := ⟨_, rfl⟩
  have inYear : 0 ≤ month ∧ month ≤ 11 := by omega
  refine ⟨era, yearOfEra dayOfEra, month, day, ⟨by omega, inYear, ?positive, ?fits, ?february,
    by omega⟩, ?date⟩
  case positive =>
    rw [daysBeforeMonth] at isDay
    omega
  case fits =>
    rw [daysBeforeMonth] at isDay
    rw [daysBeforeMonth, daysBeforeMonth]
    omega
  case february =>
    rintro rfl
    rw [daysBeforeMonth] at isDay
    rcases leap with common | ⟨last, isLast, notCentury⟩
    · exact .inl (by omega)
    · refine .inr ⟨by omega, ?_⟩
      simp only [isYear, isLeapYear, Bool.and_eq_true, Bool.or_eq_true, beq_iff_eq, bne_iff_ne]
      omega
  case date =>
    have unfolded : ofDayNumber number =
        { year := yearOfEra dayOfEra + era * 400 +
            if (if month < 10 then month + 3 else month - 9) ≤ 2 then 1 else 0
          month := (if month < 10 then month + 3 else month - 9).toNat
          day := day.toNat } := by
      rw [isDay, isMonth, ← before, isDayOfEra, isEra]
      rfl
    rw [unfolded, fromMarch]
    by_cases early : month < 10
    · have notFirst : ¬ month + 3 ≤ 2 := by omega
      simp only [if_pos early, if_neg notFirst, Int.add_zero]
    · have first : month - 9 ≤ 2 := by omega
      simp only [if_neg early, if_pos first]

namespace PlacedAt

variable {number era year month day : Int} (placed : PlacedAt number era year month day)
include placed

theorem toDayNumber_fromMarch : (fromMarch (year + era * 400) month day).toDayNumber = number := by
  obtain ⟨inEra, inYear, positive, -, -, number_eq⟩ := placed
  rw [number_eq, toDayNumber, fromMarch]
  by_cases early : month < 10
  · have notFirst : ¬ (month + 3).toNat ≤ 2 := by omega
    simp only [if_pos early, if_neg notFirst, daysBeforeYear, daysBeforeMonth]
    omega
  · have first : (month - 9).toNat ≤ 2 := by omega
    simp only [if_neg early, if_pos first, daysBeforeYear, daysBeforeMonth]
    omega

theorem isValid_fromMarch : (fromMarch (year + era * 400) month day).isValid = true := by
  obtain ⟨-, inYear, positive, fits, february, -⟩ := placed
  obtain rfl | earlier : month = 11 ∨ month ≤ 10 := by omega
  · rcases february rfl with common | ⟨rfl, leap⟩
    · cases leap : isLeapYear (year + era * 400 + 1) <;>
        simp [isValid, fromMarch, daysInMonth, leap] <;> omega
    · simp [isValid, fromMarch, daysInMonth, leap]
  · have isMonth : month = 0 ∨ month = 1 ∨ month = 2 ∨ month = 3 ∨ month = 4 ∨ month = 5 ∨
        month = 6 ∨ month = 7 ∨ month = 8 ∨ month = 9 ∨ month = 10 := by omega
    rcases isMonth with rfl | rfl | rfl | rfl | rfl | rfl | rfl | rfl | rfl | rfl | rfl <;>
      simp [daysBeforeMonth] at fits <;> simp [isValid, fromMarch, daysInMonth] <;> omega

end PlacedAt

/-! ## Days and their numbers -/

/-- **The day with a number has this number.** -/
theorem toDayNumber_ofDayNumber (number : Int) : (ofDayNumber number).toDayNumber = number := by
  obtain ⟨era, year, month, day, placed, isDate⟩ := ofDayNumber_eq number
  rw [isDate, placed.toDayNumber_fromMarch]

/-- **The day with a number is one of the calendar.** -/
theorem isValid_ofDayNumber (number : Int) : (ofDayNumber number).isValid = true := by
  obtain ⟨era, year, month, day, placed, isDate⟩ := ofDayNumber_eq number
  rw [isDate, placed.isValid_fromMarch]

/-- The day after 28 February, in a century that is a leap year and in one that is not. -/
example : ofDayNumber (toDayNumber ⟨2000, 2, 28⟩ + 1) = ⟨2000, 2, 29⟩ ∧
    ofDayNumber (toDayNumber ⟨1900, 2, 28⟩ + 1) = ⟨1900, 3, 1⟩ := by
  decide

theorem isValid_iff {date : CivilDate} :
    date.isValid = true ↔ (1 ≤ date.month ∧ date.month ≤ 12) ∧
      1 ≤ date.day ∧ date.day ≤ daysInMonth date.year date.month := by
  simp [isValid, and_assoc]

theorem daysInMonth_le (year : Int) (month : Nat) : daysInMonth year month ≤ 31 := by
  rw [daysInMonth]
  repeat' split
  all_goals decide

end MessageExpr.CivilDate
