import MessageExpr.Calendar.Instant

/-!
# Date patterns

A date pattern is text in which a percent sign and a letter stand for a part of a date. Between the
two, `-`, `0` or `_` chooses the padding of a single number. Some letters stand for several parts.
A pattern is read into items (`DatePattern.read?`) and written item by item (`DatePattern.write`).
All dates are written in universal time.
-/

set_option autoImplicit false

namespace MessageExpr

/-- What fills a number up to its width. -/
inductive Padding where
  /-- Nothing. -/
  | bare
  /-- Zeros in front. -/
  | zeros
  /-- Spaces in front. -/
  | spaces
deriving DecidableEq

/-- A part of a date that is written as a number. -/
inductive NumericPart where
  /-- The year. -/
  | year
  /-- The year without its last two digits. -/
  | century
  /-- The last two digits of the year. -/
  | yearOfCentury
  /-- The year that the week belongs to. -/
  | weekYear
  /-- The last two digits of the year that the week belongs to. -/
  | weekYearOfCentury
  /-- The quarter of the year. -/
  | quarter
  /-- The month. -/
  | month
  /-- The day of the month. -/
  | day
  /-- The number of the week, where weeks start on Sunday and week 1 with the first one. -/
  | weekFromSunday
  /-- The number of the week, where weeks start on Monday and week 1 with the first one. -/
  | weekFromMonday
  /-- The number of the week in the year that it belongs to. -/
  | weekOfWeekYear
  /-- The weekday, where Sunday is 0. -/
  | daysSinceSunday
  /-- The weekday, where Monday is 1. -/
  | weekdayFromMonday
  /-- The day of the year. -/
  | ordinal
  /-- The hour of 24. -/
  | hour
  /-- The hour of 12. -/
  | hourOfHalfDay
  /-- The minute. -/
  | minute
  /-- The second. -/
  | second
  /-- The nanoseconds past the second. -/
  | nanosecond
  /-- The seconds since the start of 1970. -/
  | timestamp
deriving DecidableEq

/-- A part of a date that is written as text. -/
inductive TextPart where
  /-- The first three letters of the month. -/
  | shortMonth
  /-- The month's name. -/
  | longMonth
  /-- The first three letters of the weekday. -/
  | shortWeekday
  /-- The weekday's name. -/
  | longWeekday
  /-- The half of the day, in lower case. -/
  | lowerHalfDay
  /-- The half of the day, in upper case. -/
  | upperHalfDay
  /-- A point and as few of 3, 6 or 9 digits as are exact; nothing on a whole second. -/
  | fraction
  /-- The first 3, 6 or 9 digits of the fraction. -/
  | fractionDigits (count : Nat)
  /-- The name of the time zone. -/
  | zoneName
  /-- The offset from universal time in hours and minutes. -/
  | offset
  /-- The offset with a colon. -/
  | offsetWithColon
  /-- The offset with seconds. -/
  | offsetWithSeconds
  /-- The offset in hours. -/
  | offsetHours
deriving DecidableEq

/-- An item of a pattern. -/
inductive PatternItem where
  /-- Text that is written as it is. -/
  | literal (text : String)
  /-- A number and its padding. -/
  | numeric (part : NumericPart) (padding : Padding)
  /-- A text. -/
  | text (part : TextPart)
deriving DecidableEq

namespace DatePattern

/-! ## Reading a pattern -/

/-- The hour, minute and second with colons between them. -/
def clockItems : List PatternItem :=
  [.numeric .hour .zeros, .literal ":", .numeric .minute .zeros, .literal ":",
    .numeric .second .zeros]

/-- The month, day and year of the century with slashes between them. -/
def slashedItems : List PatternItem :=
  [.numeric .month .zeros, .literal "/", .numeric .day .zeros, .literal "/",
    .numeric .yearOfCentury .zeros]

/-- The year, month and day with hyphens between them. -/
def hyphenatedItems : List PatternItem :=
  [.numeric .year .zeros, .literal "-", .numeric .month .zeros, .literal "-",
    .numeric .day .zeros]

/-- The number that a letter stands for, with the padding that it has by itself. -/
def numericOfLetter? : Char → Option (NumericPart × Padding)
  | 'C' => some (.century, .zeros)
  | 'G' => some (.weekYear, .zeros)
  | 'H' => some (.hour, .zeros)
  | 'I' => some (.hourOfHalfDay, .zeros)
  | 'M' => some (.minute, .zeros)
  | 'S' => some (.second, .zeros)
  | 'U' => some (.weekFromSunday, .zeros)
  | 'V' => some (.weekOfWeekYear, .zeros)
  | 'W' => some (.weekFromMonday, .zeros)
  | 'Y' => some (.year, .zeros)
  | 'd' => some (.day, .zeros)
  | 'e' => some (.day, .spaces)
  | 'f' => some (.nanosecond, .zeros)
  | 'g' => some (.weekYearOfCentury, .zeros)
  | 'j' => some (.ordinal, .zeros)
  | 'k' => some (.hour, .spaces)
  | 'l' => some (.hourOfHalfDay, .spaces)
  | 'm' => some (.month, .zeros)
  | 'q' => some (.quarter, .bare)
  | 's' => some (.timestamp, .bare)
  | 'u' => some (.weekdayFromMonday, .bare)
  | 'w' => some (.daysSinceSunday, .bare)
  | 'y' => some (.yearOfCentury, .zeros)
  | _ => none

/-- The items that a letter stands for, numbers left out. -/
def itemsOfLetter? : Char → Option (List PatternItem)
  | 'A' => some [.text .longWeekday]
  | 'B' => some [.text .longMonth]
  | 'D' => some slashedItems
  | 'F' => some hyphenatedItems
  | 'P' => some [.text .lowerHalfDay]
  | 'R' => some [.numeric .hour .zeros, .literal ":", .numeric .minute .zeros]
  | 'T' => some clockItems
  | 'X' => some clockItems
  | 'Z' => some [.text .zoneName]
  | 'a' => some [.text .shortWeekday]
  | 'b' => some [.text .shortMonth]
  | 'c' => some ([.text .shortWeekday, .literal " ", .text .shortMonth, .literal " ",
      .numeric .day .spaces, .literal " "] ++ clockItems ++ [.literal " ", .numeric .year .zeros])
  | 'h' => some [.text .shortMonth]
  | 'n' => some [.literal "\n"]
  | 'p' => some [.text .upperHalfDay]
  | 'r' => some [.numeric .hourOfHalfDay .zeros, .literal ":", .numeric .minute .zeros,
      .literal ":", .numeric .second .zeros, .literal " ", .text .upperHalfDay]
  | 't' => some [.literal "\t"]
  | 'v' => some [.numeric .day .spaces, .literal "-", .text .shortMonth, .literal "-",
      .numeric .year .zeros]
  | 'x' => some slashedItems
  | 'z' => some [.text .offset]
  | '+' => some (hyphenatedItems ++ [.literal "T"] ++ clockItems ++
      [.text .fraction, .text .offsetWithColon])
  | '%' => some [.literal "%"]
  | _ => none

/-- The items of a directive that is a letter by itself. -/
def plainDirective? (letter : Char) : Option (List PatternItem) :=
  match numericOfLetter? letter with
  | some (part, padding) => some [.numeric part padding]
  | none => itemsOfLetter? letter

/-- The items of a directive with a chosen padding, which only a single number may have. -/
def paddedDirective? (padding : Padding) (letter : Char) : Option (List PatternItem) :=
  (numericOfLetter? letter).map fun (part, _) => [.numeric part padding]

/-- The number of digits that a fraction may be cut to. -/
def fractionCount? : Char → Option Nat
  | '3' => some 3
  | '6' => some 6
  | '9' => some 9
  | _ => none

/-- Puts the items of a directive in front of those that follow; a malformed directive spoils the
pattern. -/
def followedBy (directive : Option (List PatternItem)) (rest : Option (List PatternItem)) :
    Option (List PatternItem) :=
  match directive, rest with
  | some items, some more => some (items ++ more)
  | _, _ => none

/-- Reads the characters of a pattern; nothing if a directive is malformed. -/
def readCharacters? : List Char → Option (List PatternItem)
  | [] => some []
  | '%' :: '-' :: letter :: rest => followedBy (paddedDirective? .bare letter) (readCharacters? rest)
  | '%' :: '0' :: letter :: rest => followedBy (paddedDirective? .zeros letter) (readCharacters? rest)
  | '%' :: '_' :: letter :: rest =>
    followedBy (paddedDirective? .spaces letter) (readCharacters? rest)
  | '%' :: ':' :: ':' :: ':' :: 'z' :: rest =>
    followedBy (some [.text .offsetHours]) (readCharacters? rest)
  | '%' :: ':' :: ':' :: 'z' :: rest =>
    followedBy (some [.text .offsetWithSeconds]) (readCharacters? rest)
  | '%' :: ':' :: 'z' :: rest => followedBy (some [.text .offsetWithColon]) (readCharacters? rest)
  | '%' :: '.' :: 'f' :: rest => followedBy (some [.text .fraction]) (readCharacters? rest)
  | '%' :: '.' :: digit :: 'f' :: rest =>
    followedBy ((fractionCount? digit).map fun count => [.literal ".", .text (.fractionDigits count)])
      (readCharacters? rest)
  | '%' :: letter :: rest =>
    match fractionCount? letter, rest with
    | some count, 'f' :: afterLetter =>
      followedBy (some [.text (.fractionDigits count)]) (readCharacters? afterLetter)
    | some _, _ => none
    | none, rest => followedBy (plainDirective? letter) (readCharacters? rest)
  | ['%'] => none
  | character :: rest =>
    followedBy (some [.literal character.toString]) (readCharacters? rest)

/-- Reads a pattern; nothing if it is malformed. -/
def read? (pattern : String) : Option (List PatternItem) := readCharacters? pattern.toList

/-! ## Writing a date -/

/-- A number filled up to a width. A minus sign, or a sign that is asked for, counts to the width;
zeros come after it and spaces before it. -/
def padded (padding : Padding) (width : Nat) (signed : Bool) (number : Int) : String :=
  let sign := if number < 0 then "-" else if signed then "+" else ""
  let digits := toString number.natAbs
  let missing := width - (sign.length + digits.length)
  match padding with
  | .bare => sign ++ digits
  | .zeros => sign ++ String.ofList (List.replicate missing '0') ++ digits
  | .spaces => String.ofList (List.replicate missing ' ') ++ sign ++ digits

/-- A number of two digits. The tens are one character whatever their count; past nine they go on
with the characters after the digit nine. -/
def twoDigits (padding : Padding) (number : Nat) : String :=
  let tens := number / 10
  let ones := Char.ofNat ('0'.toNat + number % 10)
  if tens = 0 then
    match padding with
    | .bare => String.ofList [ones]
    | .zeros => String.ofList ['0', ones]
    | .spaces => String.ofList [' ', ones]
  else String.ofList [Char.ofNat ('0'.toNat + tens), ones]

/-- A year has four digits or more. Below year 0 and beyond year 9999 it always has a sign, which
is one place more. -/
def yearText (padding : Padding) (year : Int) : String :=
  if 0 ≤ year && year ≤ 9999 then padded padding 4 false year else padded padding 5 true year

/-- The number of the week, where weeks start on a weekday that was `daysSince` days ago. -/
def weekNumber (ordinal daysSince : Nat) : Nat := (ordinal + 6 - daysSince) / 7

/-- The hour of 12 in which an hour of 24 lies. -/
def hourOfHalfDay (hour : Nat) : Nat := if hour % 12 = 0 then 12 else hour % 12

/-- The text of a number of a date. The century is kept in eight bits. -/
def writeNumeric (instant : Instant) (padding : Padding) : NumericPart → String
  | .year => yearText padding instant.date.year
  | .century => twoDigits padding (instant.date.year / 100 % 256).toNat
  | .yearOfCentury => twoDigits padding (instant.date.year % 100).toNat
  | .weekYear => yearText padding (CivilDate.thursdayOfWeek instant.dayNumber).year
  | .weekYearOfCentury =>
    twoDigits padding ((CivilDate.thursdayOfWeek instant.dayNumber).year % 100).toNat
  | .quarter => toString ((instant.date.month - 1) / 3 + 1)
  | .month => twoDigits padding instant.date.month
  | .day => twoDigits padding instant.date.day
  | .weekFromSunday =>
    twoDigits padding
      (weekNumber instant.date.ordinal (CivilDate.daysSinceSunday instant.dayNumber))
  | .weekFromMonday =>
    twoDigits padding
      (weekNumber instant.date.ordinal (CivilDate.daysSinceMonday instant.dayNumber))
  | .weekOfWeekYear =>
    twoDigits padding (((CivilDate.thursdayOfWeek instant.dayNumber).ordinal - 1) / 7 + 1)
  | .daysSinceSunday => toString (CivilDate.daysSinceSunday instant.dayNumber)
  | .weekdayFromMonday => toString (CivilDate.daysSinceMonday instant.dayNumber + 1)
  | .ordinal => padded padding 3 false instant.date.ordinal
  | .hour => twoDigits padding instant.hour
  | .hourOfHalfDay => twoDigits padding (hourOfHalfDay instant.hour)
  | .minute => twoDigits padding instant.minute
  | .second => twoDigits padding instant.second
  | .nanosecond => padded padding 9 false instant.subsecond
  | .timestamp => padded padding 9 false instant.seconds

/-- The names of the months. -/
def monthNames : List String :=
  ["January", "February", "March", "April", "May", "June", "July", "August", "September",
    "October", "November", "December"]

/-- The names of the weekdays, from Monday on. -/
def weekdayNames : List String :=
  ["Monday", "Tuesday", "Wednesday", "Thursday", "Friday", "Saturday", "Sunday"]

/-- The name of the instant's month. -/
def monthName (instant : Instant) : String := monthNames.getD (instant.date.month - 1) ""

/-- The name of the instant's weekday. -/
def weekdayName (instant : Instant) : String :=
  weekdayNames.getD (CivilDate.daysSinceMonday instant.dayNumber) ""

/-- The first three letters of a name. -/
def shortName (name : String) : String := String.ofList (name.toList.take 3)

/-- The first digits of a fraction of a second. -/
def fractionDigits (count subsecond : Nat) : String :=
  padded .zeros count false (subsecond / Nat.pow 10 (9 - count) : Nat)

/-- A point and the digits of a fraction; nothing for none. -/
def fraction (subsecond : Nat) : String :=
  if subsecond = 0 then ""
  else if subsecond % 1000000 = 0 then "." ++ fractionDigits 3 subsecond
  else if subsecond % 1000 = 0 then "." ++ fractionDigits 6 subsecond
  else "." ++ fractionDigits 9 subsecond

/-- The text of a named part of a date. -/
def writeText (instant : Instant) : TextPart → String
  | .shortMonth => shortName (monthName instant)
  | .longMonth => monthName instant
  | .shortWeekday => shortName (weekdayName instant)
  | .longWeekday => weekdayName instant
  | .lowerHalfDay => if instant.hour < 12 then "am" else "pm"
  | .upperHalfDay => if instant.hour < 12 then "AM" else "PM"
  | .fraction => fraction instant.subsecond
  | .fractionDigits count => fractionDigits count instant.subsecond
  | .zoneName => "UTC"
  | .offset => "+0000"
  | .offsetWithColon => "+00:00"
  | .offsetWithSeconds => "+00:00:00"
  | .offsetHours => "+00"

/-- The text of an item. -/
def writeItem (instant : Instant) : PatternItem → String
  | .literal text => text
  | .numeric part padding => writeNumeric instant padding part
  | .text part => writeText instant part

/-- The text of an instant by a pattern. -/
def write (items : List PatternItem) (instant : Instant) : String :=
  String.join (items.map (writeItem instant))

end DatePattern

end MessageExpr
