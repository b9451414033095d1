import MessageExpr.Calendar.Pattern
import MessageExpr.Number.Decimal
import MessageExpr.Text.Basic

/-!
# The text of a date

A date is written as its day, its time of day and its offset from universal time, as in
`2024-02-29 13:45:30 +0000` (`DateText.write`). Reading (`DateText.read?`) takes the same form with
any offset below a day, and is lenient about blanks: they may be missing between the three parts and
may stand before every number. Second 60 is a leap second.
-/

set_option autoImplicit false

namespace MessageExpr.DateText

/-- The items of a date's text. -/
def items : List PatternItem :=
  DatePattern.hyphenatedItems ++ [.literal " "] ++ DatePattern.clockItems ++
    [.literal " ", .text .offset]

/-- The pattern of a date's text, as messages show it. -/
def patternText : String := "%Y-%m-%d %H:%M:%S %z"

/-- The text of a date. -/
def write (instant : Instant) : String := DatePattern.write items instant

/-! ## Reading -/

/-- Reads one or more digits, at most `limit` of them, and leaves the rest. -/
def readDigits? (limit : Nat) (characters : List Char) : Option (Nat × List Char) :=
  let digits := (characters.take limit).takeWhile Char.isDigit
  if digits.isEmpty then none
  else some (Decimal.valueOfDigits digits, characters.drop digits.length)

/-- Reads a number of one or two digits up to a bound, after any blanks. -/
def readNumber? (bound : Nat) (characters : List Char) : Option (Nat × List Char) :=
  match readDigits? 2 (characters.dropWhile Text.isBlank) with
  | some (number, rest) => if number ≤ bound then some (number, rest) else none
  | none => none

/-- Reads a year after any blanks. With a sign it may have any number of digits, without one at
most four. -/
def readYear? (characters : List Char) : Option (Int × List Char) :=
  match characters.dropWhile Text.isBlank with
  | '-' :: rest => (readDigits? rest.length rest).map fun (year, left) => (-(year : Int), left)
  | '+' :: rest => (readDigits? rest.length rest).map fun (year, left) => ((year : Int), left)
  | rest => (readDigits? 4 rest).map fun (year, left) => ((year : Int), left)

/-- Takes one given character off the front. -/
def expect? (expected : Char) : List Char → Option (List Char)
  | character :: rest => if character = expected then some rest else none
  | [] => none

/-- Whether a character may stand between the hours and the minutes of an offset. -/
def isOffsetSeparator (character : Char) : Bool := character = ':' || Text.isBlank character

/-- Reads exactly two digits. -/
def readTwoDigits? : List Char → Option (Nat × List Char)
  | tens :: ones :: rest =>
    if tens.isDigit && ones.isDigit then some (Decimal.valueOfDigits [tens, ones], rest) else none
  | _ => none

/-- Reads the sign of an offset; `true` stands for minus, which has two characters. -/
def readOffsetSign? : List Char → Option (Bool × List Char)
  | '+' :: rest => some (false, rest)
  | '-' :: rest => some (true, rest)
  | '−' :: rest => some (true, rest)
  | _ => none

/-- Reads an offset, in seconds east of universal time: a sign, two digits of hours, any colons and
blanks, and two digits of minutes. -/
def readOffset? (characters : List Char) : Option (Int × List Char) := do
  let (negative, afterSign) ← readOffsetSign? (characters.dropWhile Text.isBlank)
  let (hours, afterHours) ← readTwoDigits? afterSign
  let (minutes, rest) ← readTwoDigits? (afterHours.dropWhile isOffsetSeparator)
  if minutes < 60 && hours < 24 then
    some (Decimal.withSign negative (hours * 3600 + minutes * 60), rest)
  else none

/-- The instant of a local day and time of day; nothing if there is no such day or the instant is
not representable. -/
def toInstant? (date : CivilDate) (hour minute second : Nat) (offset : Int) : Option Instant :=
  let ordinarySecond := min second 59
  let seconds := date.toDayNumber * Instant.secondsPerDay +
    (hour * 3600 + minute * 60 + ordinarySecond : Nat)
  if date.isValid && Instant.isRepresentable seconds && Instant.isRepresentable (seconds - offset)
  then some ⟨seconds - offset, (second - ordinarySecond) * Instant.nanosecondsPerSecond⟩
  else none

/-- Reads the characters of a date. -/
def readCharacters? (characters : List Char) : Option Instant := do
  let (year, rest) ← readYear? characters
  let (month, rest) ← readNumber? 12 (← expect? '-' rest)
  let (day, rest) ← readNumber? 31 (← expect? '-' rest)
  let (hour, rest) ← readNumber? 23 rest
  let (minute, rest) ← readNumber? 59 (← expect? ':' rest)
  let (second, rest) ← readNumber? 60 (← expect? ':' rest)
  let (offset, rest) ← readOffset? rest
  if rest.isEmpty then toInstant? ⟨year, month, day⟩ hour minute second offset else none

/-- Reads the text of a date. -/
def read? (text : String) : Option Instant := readCharacters? text.toList

end MessageExpr.DateText
