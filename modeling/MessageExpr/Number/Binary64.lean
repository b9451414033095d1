/-!
# Binary64 numbers

A number of the IEEE 754 binary64 format is not a number, an infinity with a sign, or a sign and a
magnitude `significand · 2 ^ exponent`. A magnitude is kept in its one canonical form: the
significand has 53 bits, or the exponent is the least one. So two magnitudes are equal as data
exactly when they are equal as numbers.

Each operation computes its exact result on integers and then rounds once, to the nearest
magnitude with ties to the even significand (`Magnitude.round`). Beyond the largest magnitude the
result is an infinity. Powers are written with `Nat.pow`, so that no imported notion of power takes
their place.
-/

set_option autoImplicit false

namespace MessageExpr

/-! ## Magnitudes -/

/-- The one form in which a magnitude is written. -/
def IsCanonical (significand : Nat) (exponent : Int) : Prop :=
  significand < Nat.pow 2 53 ∧ -1074 ≤ exponent ∧ exponent ≤ 971 ∧
    (Nat.pow 2 52 ≤ significand ∨ exponent = -1074)

instance (significand : Nat) (exponent : Int) : Decidable (IsCanonical significand exponent) := by
  unfold IsCanonical; infer_instance

/-- The absolute value of a finite number. -/
structure Magnitude where
  /-- The number is this many units. -/
  significand : Nat
  /-- The unit is two to this power. -/
  exponent : Int
  /-- Each magnitude has one form only. -/
  canonical : IsCanonical significand exponent
deriving DecidableEq

namespace Magnitude

/-- The magnitude of zero. -/
def zero : Magnitude := ⟨0, -1074, by decide⟩

instance : Inhabited Magnitude := ⟨zero⟩

/-- The magnitude with these parts, if the parts are canonical. -/
def ofParts? (significand : Nat) (exponent : Int) : Option Magnitude :=
  if canonical : IsCanonical significand exponent then
    some ⟨significand, exponent, canonical⟩
  else
    none

/-- The quotient of two naturals rounded to the nearest natural, a half to the even one. -/
def roundHalfEven (numerator denominator : Nat) : Nat :=
  let quotient := numerator / denominator
  let remainder := numerator % denominator
  if 2 * remainder < denominator then quotient
  else if denominator < 2 * remainder then quotient + 1
  else quotient + quotient % 2

/-- A positive rational over a power of two, as a numerator and a denominator. -/
def overPowerOfTwo (numerator denominator : Nat) (power : Int) : Nat × Nat :=
  match power with
  | .ofNat shift => (numerator, denominator * Nat.pow 2 shift)
  | .negSucc shift => (numerator * Nat.pow 2 (shift + 1), denominator)

/-- The exponent on which a positive rational is rounded: the least one, from the format's least
exponent on, under which the rational has at most 53 bits before the point. -/
def roundingExponent (numerator denominator : Nat) : Int :=
  let upper : Int := (Nat.log2 numerator : Int) - (Nat.log2 denominator : Int) - 52
  let halved := overPowerOfTwo numerator denominator (upper - 1)
  max (-1074) (if halved.1 < Nat.pow 2 53 * halved.2 then upper - 1 else upper)

/-- The magnitude nearest to a rational, of two equally near ones that with the even significand;
nothing if that lies beyond the largest magnitude. -/
def round (numerator denominator : Nat) : Option Magnitude :=
  let exponent := roundingExponent numerator denominator
  let scaled := overPowerOfTwo numerator denominator exponent
  let significand := roundHalfEven scaled.1 scaled.2
  if numerator = 0 then some zero
  else if significand = Nat.pow 2 53 then ofParts? (Nat.pow 2 52) (exponent + 1)
  else ofParts? significand exponent

/-- A magnitude as an exact quotient of naturals. -/
def toQuotient (magnitude : Magnitude) : Nat × Nat :=
  match magnitude.exponent with
  | .ofNat shift => (magnitude.significand * Nat.pow 2 shift, 1)
  | .negSucc shift => (magnitude.significand, Nat.pow 2 (shift + 1))

/-- The whole part of a magnitude. -/
def whole (magnitude : Magnitude) : Nat :=
  magnitude.toQuotient.1 / magnitude.toQuotient.2

end Magnitude

/-! ## Numbers -/

/-- A number of the binary64 format. All not-a-numbers are one. -/
inductive Binary64 where
  /-- The result of an operation that has none. -/
  | nan
  /-- A result beyond the largest magnitude, or a quotient by zero. -/
  | infinity (negative : Bool)
  /-- A sign and a magnitude; zero has both signs. -/
  | finite (negative : Bool) (magnitude : Magnitude)
deriving DecidableEq

namespace Binary64

/-- Zero with a sign. -/
def signedZero (negative : Bool) : Binary64 := .finite negative .zero

instance : Inhabited Binary64 := ⟨signedZero false⟩

/-- Whether a number is neither an infinity nor not a number. -/
def isFinite : Binary64 → Bool
  | .finite _ _ => true
  | _ => false

/-- The number nearest to a signed rational. -/
def ofQuotient (negative : Bool) (numerator denominator : Nat) : Binary64 :=
  match Magnitude.round numerator denominator with
  | some magnitude => .finite negative magnitude
  | none => .infinity negative

/-- The number nearest to an integer; zero is positive. -/
def ofInt (integer : Int) : Binary64 :=
  ofQuotient (decide (integer < 0)) integer.natAbs 1

/-- A finite number as an exact integer numerator over a positive denominator. -/
def signedQuotient (negative : Bool) (magnitude : Magnitude) : Int × Nat :=
  let quotient := magnitude.toQuotient
  (if negative then -(quotient.1 : Int) else quotient.1, quotient.2)

/-- The integer that a finite number truncates to; nothing for the others. -/
def truncate? : Binary64 → Option Int
  | .finite negative magnitude =>
    some (if negative then -(magnitude.whole : Int) else magnitude.whole)
  | _ => none

/-- The number without its fractional part; the sign of zero is kept. -/
def truncate : Binary64 → Binary64
  | .finite negative magnitude => ofQuotient negative magnitude.whole 1
  | number => number

/-- The integer nearest to a finite number, a half going away from zero; nothing for the
others. -/
def round? : Binary64 → Option Int
  | .finite negative magnitude =>
    let quotient := magnitude.toQuotient
    let nearest := (2 * quotient.1 + quotient.2) / (2 * quotient.2)
    some (if negative then -(nearest : Int) else nearest)
  | _ => none

/-! ## Arithmetic -/

/-- The number with the other sign. -/
def negate : Binary64 → Binary64
  | .nan => .nan
  | .infinity negative => .infinity (!negative)
  | .finite negative magnitude => .finite (!negative) magnitude

/-- The sum of two finite numbers. An exact zero is negative only if both terms are. -/
def addFinite (leftNegative : Bool) (left : Magnitude) (rightNegative : Bool)
    (right : Magnitude) : Binary64 :=
  let (leftNumerator, leftDenominator) := signedQuotient leftNegative left
  let (rightNumerator, rightDenominator) := signedQuotient rightNegative right
  let numerator := leftNumerator * rightDenominator + rightNumerator * leftDenominator
  if numerator = 0 then signedZero (leftNegative && rightNegative)
  else ofQuotient (decide (numerator < 0)) numerator.natAbs (leftDenominator * rightDenominator)

/-- The rounded sum. -/
def add : Binary64 → Binary64 → Binary64
  | .nan, _ => .nan
  | _, .nan => .nan
  | .infinity left, .infinity right => if left = right then .infinity left else .nan
  | .infinity left, .finite _ _ => .infinity left
  | .finite _ _, .infinity right => .infinity right
  | .finite leftNegative left, .finite rightNegative right =>
    addFinite leftNegative left rightNegative right

/-- The rounded difference. -/
def subtract (left right : Binary64) : Binary64 := left.add right.negate

/-- The rounded product. -/
def multiply : Binary64 → Binary64 → Binary64
  | .nan, _ => .nan
  | _, .nan => .nan
  | .infinity left, .infinity right => .infinity (left ^^ right)
  | .infinity left, .finite right magnitude =>
    if magnitude.significand = 0 then .nan else .infinity (left ^^ right)
  | .finite left magnitude, .infinity right =>
    if magnitude.significand = 0 then .nan else .infinity (left ^^ right)
  | .finite leftNegative left, .finite rightNegative right =>
    let (leftNumerator, leftDenominator) := left.toQuotient
    let (rightNumerator, rightDenominator) := right.toQuotient
    ofQuotient (leftNegative ^^ rightNegative) (leftNumerator * rightNumerator)
      (leftDenominator * rightDenominator)

/-- The rounded quotient. A number other than zero over zero is an infinity. -/
def divide : Binary64 → Binary64 → Binary64
  | .nan, _ => .nan
  | _, .nan => .nan
  | .infinity _, .infinity _ => .nan
  | .infinity left, .finite right _ => .infinity (left ^^ right)
  | .finite left _, .infinity right => signedZero (left ^^ right)
  | .finite leftNegative left, .finite rightNegative right =>
    let negative := leftNegative ^^ rightNegative
    if right.significand = 0 then
      if left.significand = 0 then .nan else .infinity negative
    else
      let (leftNumerator, leftDenominator) := left.toQuotient
      let (rightNumerator, rightDenominator) := right.toQuotient
      ofQuotient negative (leftNumerator * rightDenominator) (leftDenominator * rightNumerator)

/-- The largest natural whose square is at most the given one, by halving the interval
`low ≤ root < low + 2 ^ bits`. -/
def squareRootBelow (square : Nat) : Nat → Nat → Nat
  | 0, low => low
  | bits + 1, low =>
    let middle := low + Nat.pow 2 bits
    squareRootBelow square bits (if middle * middle ≤ square then middle else low)

/-- The whole part of the square root of a natural. -/
def wholeSquareRoot (square : Nat) : Nat :=
  squareRootBelow square (Nat.log2 square / 2 + 1) 0

/-- The rounded square root of a magnitude. The radicand is scaled by an even power of two until
its root has more bits than a significand. A root that is not whole is replaced by the middle of the
two whole numbers around it, which rounds as the root does. -/
def squareRootMagnitude (magnitude : Magnitude) : Binary64 :=
  let even := magnitude.exponent.toNat % 2 + (-magnitude.exponent).toNat % 2
  let radicand := magnitude.significand * Nat.pow 2 (even + 120)
  let root := wholeSquareRoot radicand
  let twice := if root * root = radicand then 2 * root else 2 * root + 1
  let (numerator, denominator) :=
    Magnitude.overPowerOfTwo twice 2 (-((magnitude.exponent - even - 120) / 2))
  ofQuotient false numerator denominator

/-- The rounded square root; a number below zero has none, and a zero keeps its sign. -/
def squareRoot : Binary64 → Binary64
  | .nan => .nan
  | .infinity false => .infinity false
  | .infinity true => .nan
  | .finite negative magnitude =>
    if magnitude.significand = 0 then .finite negative magnitude
    else if negative then .nan
    else squareRootMagnitude magnitude

/-! ## Comparison -/

/-- Numerical equality: not a number differs from itself, and the zeros are equal. -/
def numericallyEqual : Binary64 → Binary64 → Bool
  | .infinity left, .infinity right => left == right
  | .finite leftNegative left, .finite rightNegative right =>
    left == right && (leftNegative == rightNegative || left.significand == 0)
  | _, _ => false

/-- Whether a number is less than another. Not a number is less than none, and none is less than
it. -/
def isBelow : Binary64 → Binary64 → Bool
  | .nan, _ => false
  | _, .nan => false
  | .infinity left, .infinity right => left && !right
  | .infinity left, .finite _ _ => left
  | .finite _ _, .infinity right => !right
  | .finite leftNegative left, .finite rightNegative right =>
    let (leftNumerator, leftDenominator) := signedQuotient leftNegative left
    let (rightNumerator, rightDenominator) := signedQuotient rightNegative right
    decide (leftNumerator * rightDenominator < rightNumerator * leftDenominator)

/-- Whether a number is less than another or equal to it. -/
def isAtMost (left right : Binary64) : Bool := left.isBelow right || left.numericallyEqual right

end Binary64

end MessageExpr
