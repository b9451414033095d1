import MessageExpr.Calendar.DateText
import MessageExpr.Calendar.Duration
import MessageExpr.Message.Basic

/-!
# Messages of dates

A date answers with its parts, its text by a pattern, its distance to other dates and the date some
seconds later. Distances are differences of binary64 counts of seconds. `today` reads the clock and
`dateFromString:` reads its argument; neither looks at the receiver.
-/

set_option autoImplicit false

namespace MessageExpr.Temporal

variable {World : Type}

/-- The seconds from the start of 1970 to the start of 2001. -/
def referenceSeconds : Int := 978307200

/-- A thousand million as a binary64 number. -/
def nanosecondsPerSecond : Binary64 := .ofInt Instant.nanosecondsPerSecond

/-- The seconds since the start of 1970 as a binary64 number. -/
def secondsSince1970 (instant : Instant) : Binary64 :=
  (Binary64.ofInt instant.seconds).add
    ((Binary64.ofInt instant.nanoseconds).divide nanosecondsPerSecond)

/-- The date a number of seconds later. The fraction of the seconds is rounded to nanoseconds; the
whole seconds and the sum of both have to be durations. -/
def adding (instant : Instant) (seconds : Binary64) : Except BuiltinFailure Value :=
  let fraction := seconds.subtract seconds.truncate
  match seconds.truncate?, (fraction.multiply nanosecondsPerSecond).round? with
  | some whole, some nanoseconds =>
    match (Duration.ofParts? whole nanoseconds).bind instant.add? with
    | some later => .ok (.date later)
    | none => .error .dateOutOfRange
  | _, _ => .error .dateOutOfRange

/-- The date that a text writes. -/
def reading (text : String) : Except BuiltinFailure Value :=
  match DateText.read? text with
  | some instant => .ok (.date instant)
  | none => .error (.invalidDate text)

/-- The text of a date by a pattern. -/
def writing (instant : Instant) (pattern : String) : Except BuiltinFailure Value :=
  match DatePattern.read? pattern with
  | some items => .ok (.string (DatePattern.write items instant))
  | none => .error (.invalidDateFormat pattern)

/-- A number from 1 to 4 with its ending. -/
def ordinalText (number : Nat) : String :=
  toString number ++
    match number with
    | 1 => "st"
    | 2 => "nd"
    | 3 => "rd"
    | _ => "th"

/-- A message that answers with a text about the receiver. -/
def describing (selector : String) (describe : Instant → String) : String × Message World :=
  (selector, .computingUnary .string fun receiver => do
    let instant ← dateOperand selector receiver
    return .string (describe instant))

/-- A message that answers with a distance from the receiver. -/
def measuring (selector : String) (measure : Instant → Binary64) : String × Message World :=
  (selector, .computingUnary .double fun receiver => do
    let instant ← dateOperand selector receiver
    return .double (measure instant))

/-- The messages of dates. -/
def messages : MessageTable World := .ofList
  [("dateAddingTimeInterval:", .computing .double .date fun receiver argument => do
      let instant ← dateOperand "dateAddingTimeInterval:" receiver
      let seconds ← doubleOperand "dateAddingTimeInterval:" argument
      adding instant seconds),
    ("dateFromString:", .computing .string .date fun _ argument => do
      let text ← stringOperand "dateFromString:" argument
      reading text),
    describing "day" DatePattern.weekdayName,
    describing "month" DatePattern.monthName,
    describing "year" fun instant => DatePattern.yearText .zeros instant.date.year,
    describing "dayOfWeekInMonth" fun instant => toString ((instant.date.day - 1) / 7 + 1),
    describing "quarter" fun instant =>
      ordinalText ((instant.date.month - 1) / 3 + 1) ++ " quarter",
    ("today", ⟨.unary .date, fun _ _ => .now fun instant => .returning (.date instant)⟩),
    ("stringWithFormat:", .computing .string .string fun receiver argument => do
      let instant ← dateOperand "stringWithFormat:" receiver
      let pattern ← stringOperand "stringWithFormat:" argument
      writing instant pattern),
    measuring "timeIntervalSince1970" secondsSince1970,
    measuring "timeIntervalSinceReferenceDate" fun instant =>
      (secondsSince1970 instant).subtract (.ofInt referenceSeconds),
    ("timeIntervalSinceDate:", .computing .date .double fun receiver argument => do
      let later ← dateOperand "timeIntervalSinceDate:" receiver
      let earlier ← dateOperand "timeIntervalSinceDate:" argument
      return .double ((secondsSince1970 later).subtract (secondsSince1970 earlier)))]

/-- The words that every date advertises. -/
def aliases : Dictionary String := .ofList [("today", "today")]

end MessageExpr.Temporal
