/-!
# The civil calendar

Days are numbered from 1 January 1970. The calendar is the Gregorian one, carried back before its
introduction and on to years below one. It repeats every 400 years, which are 146097 days; inside
such an era the years are counted from 1 March, so that the day that some years lack comes last.
-/

set_option autoImplicit false

namespace MessageExpr

/-- A day of the civil calendar. -/
structure CivilDate where
  /-- The year; the year before year 1 is year 0. -/
  year : Int
  /-- The month, from 1 to 12. -/
  month : Nat
  /-- The day of the month, from 1 on. -/
  day : Nat
deriving DecidableEq, Inhabited

namespace CivilDate

/-- Whether a year has a 29 February. -/
def isLeapYear (year : Int) : Bool :=
  year % 4 == 0 && (year % 100 != 0 || year % 400 == 0)

/-- How many days a month has. -/
def daysInMonth (year : Int) (month : Nat) : Nat :=
  if month = 2 then (if isLeapYear year then 29 else 28)
  else if month = 4 || month = 6 || month = 9 || month = 11 then 30
  else 31

/-- Whether the calendar has this day. -/
def isValid (date : CivilDate) : Bool :=
  1 ≤ date.month && date.month ≤ 12 && 1 ≤ date.day && date.day ≤ daysInMonth date.year date.month

/-- The number of a day. -/
def toDayNumber (date : CivilDate) : Int :=
  let shiftedYear := if date.month ≤ 2 then date.year - 1 else date.year
  let shiftedMonth : Int := if date.month ≤ 2 then date.month + 9 else date.month - 3
  let era := shiftedYear / 400
  let yearOfEra := shiftedYear - era * 400
  let dayOfYear := (153 * shiftedMonth + 2) / 5 + date.day - 1
  let dayOfEra := yearOfEra * 365 + yearOfEra / 4 - yearOfEra / 100 + dayOfYear
  era * 146097 + dayOfEra - 719468

/-- The day with a number. -/
def ofDayNumber (number : Int) : CivilDate :=
  let fromEras := number + 719468
  let era := fromEras / 146097
  let dayOfEra := fromEras - era * 146097
  let yearOfEra := (dayOfEra - dayOfEra / 1460 + dayOfEra / 36524 - dayOfEra / 146096) / 365
  let dayOfYear := dayOfEra - (365 * yearOfEra + yearOfEra / 4 - yearOfEra / 100)
  let shiftedMonth := (5 * dayOfYear + 2) / 153
  let month := if shiftedMonth < 10 then shiftedMonth + 3 else shiftedMonth - 9
  { year := yearOfEra + era * 400 + (if month ≤ 2 then 1 else 0)
    month := month.toNat
    day := (dayOfYear - (153 * shiftedMonth + 2) / 5 + 1).toNat }

/-- The place of a day in its year, from 1 on. -/
def ordinal (date : CivilDate) : Nat :=
  (date.toDayNumber - toDayNumber ⟨date.year, 1, 1⟩ + 1).toNat

/-- The weekday of a numbered day, counted from Monday, which is 0. -/
def daysSinceMonday (number : Int) : Nat := ((number + 3) % 7).toNat

/-- The weekday of a numbered day, counted from Sunday, which is 0. -/
def daysSinceSunday (number : Int) : Nat := ((number + 4) % 7).toNat

/-- The Thursday of the week from Monday to Sunday that holds a numbered day. A week belongs to the
year of its Thursday. -/
def thursdayOfWeek (number : Int) : CivilDate :=
  ofDayNumber (number - daysSinceMonday number + 3)

end CivilDate

end MessageExpr
