import MessageExpr.Number.Binary64

/-!
# Reading decimal numbers

An integer is an optional sign and one or more digits, and has to fit in 64 bits. A decimal number
is an optional sign, digits with at most one point among them, and an optional exponent; it is read
as the nearest binary64 number.
-/

set_option autoImplicit false

namespace MessageExpr.Decimal

/-- The number that ASCII digits write. -/
def valueOfDigits (digits : List Char) : Nat :=
  digits.foldl (fun value digit => 10 * value + (digit.toNat - '0'.toNat)) 0

/-- Whether the characters are one or more ASCII digits. -/
def areDigits (characters : List Char) : Bool :=
  !characters.isEmpty && characters.all Char.isDigit

/-- Splits an optional sign off the front; `true` stands for minus. -/
def splitSign : List Char → Bool × List Char
  | '-' :: rest => (true, rest)
  | '+' :: rest => (false, rest)
  | characters => (false, characters)

/-- A natural with a sign. -/
def withSign (negative : Bool) (magnitude : Nat) : Int :=
  if negative then -(magnitude : Int) else magnitude

/-- Whether an integer fits in 64 bits with a sign. -/
def fitsInt64 (integer : Int) : Bool := -Int.pow 2 63 ≤ integer && integer < Int.pow 2 63

/-- Reads a 64-bit integer. -/
def readInt64? (characters : List Char) : Option Int64 :=
  let (negative, digits) := splitSign characters
  let integer := withSign negative (valueOfDigits digits)
  if areDigits digits && fitsInt64 integer then some (Int64.ofInt integer) else none

/-! ## Decimal numbers -/

/-- The binary64 number nearest to `coefficient · 10 ^ exponent`. A coefficient of `places` digits
makes a number of at least `10 ^ (places - 1 + exponent)` and less than `10 ^ (places + exponent)`;
one of 310 or more places before the point is infinite, and one that starts 330 or more places
behind it is zero, so no power of ten beyond those is computed. -/
def nearest (negative : Bool) (coefficient : Nat) (exponent : Int) : Binary64 :=
  let places : Int := (Nat.toDigits 10 coefficient).length
  if coefficient = 0 then .signedZero negative
  else if 310 ≤ places - 1 + exponent then .infinity negative
  else if places + exponent ≤ -330 then .signedZero negative
  else
    match exponent with
    | .ofNat power => .ofQuotient negative (coefficient * Nat.pow 10 power) 1
    | .negSucc power => .ofQuotient negative coefficient (Nat.pow 10 (power + 1))

/-- Reads what may follow the digits: nothing, or the letter E and a signed exponent. -/
def readExponent? : List Char → Option Int
  | [] => some 0
  | letter :: rest =>
    let (negative, digits) := splitSign rest
    if (letter = 'e' || letter = 'E') && areDigits digits then
      some (withSign negative (valueOfDigits digits))
    else none

/-- Splits digits off the front. -/
def splitDigits (characters : List Char) : List Char × List Char :=
  (characters.takeWhile Char.isDigit, characters.dropWhile Char.isDigit)

/-- Splits a point and the digits after it off the front; without a point there are none. -/
def splitFraction : List Char → List Char × List Char
  | '.' :: rest => splitDigits rest
  | characters => ([], characters)

/-- Reads an unsigned decimal number and gives it the sign. -/
def readUnsigned? (negative : Bool) (characters : List Char) : Option Binary64 :=
  let (whole, afterWhole) := splitDigits characters
  let (fraction, afterFraction) := splitFraction afterWhole
  if whole.isEmpty && fraction.isEmpty then none
  else
    (readExponent? afterFraction).map fun exponent =>
      nearest negative (valueOfDigits (whole ++ fraction)) (exponent - fraction.length)

/-- Reads one of the words for the numbers that no digits write, in letters of any case. -/
def readWord? (negative : Bool) (characters : List Char) : Option Binary64 :=
  let word := String.ofList (characters.map Char.toLower)
  if word = "inf" || word = "infinity" then some (.infinity negative)
  else if word = "nan" then some .nan
  else none

/-- Reads a binary64 number from digits or from one of the words. -/
def readBinary64? (characters : List Char) : Option Binary64 :=
  let (negative, body) := splitSign characters
  (readUnsigned? negative body).orElse fun _ => readWord? negative body

end MessageExpr.Decimal
