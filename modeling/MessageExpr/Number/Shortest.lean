import MessageExpr.Number.Binary64

/-!
# The shortest decimal text of a number

A finite number is written with the fewest digits that read back as the number; of several such
decimals the nearest is taken, and of two equally near ones the larger. The decimals that read back
fill an interval whose ends lie half-way to the neighbouring numbers; the ends belong to it if the
significand is even.

The search runs over decimal grids, the coarsest first (`Shortest.search`). On a grid only the two
neighbours of the number have to be tried, because a point of the grid in the interval has one of
them between it and the number.
-/

set_option autoImplicit false

namespace MessageExpr

/-- A decimal number `digits · 10 ^ exponent`. -/
structure DecimalForm where
  /-- The digits, as a natural. -/
  digits : Nat
  /-- The power of ten of the last digit. -/
  exponent : Int
deriving DecidableEq, Inhabited

namespace Shortest

/-- The numbers around a magnitude that round to it. All three are numerators over `denominator`. -/
structure Interval where
  /-- The lower end. -/
  low : Nat
  /-- The magnitude. -/
  value : Nat
  /-- The upper end. -/
  high : Nat
  /-- The common denominator. -/
  denominator : Nat
  /-- Whether the ends belong to the interval. -/
  closed : Bool

/-- The interval of a magnitude, in quarters of its unit. Below the least significand of an
exponent the neighbours are half as far apart. -/
def Interval.around (magnitude : Magnitude) : Interval :=
  let quarters := 4 * magnitude.significand
  let halfGapBelow :=
    if magnitude.significand = Nat.pow 2 52 && magnitude.exponent != -1074 then 1 else 2
  let up := Nat.pow 2 (magnitude.exponent - 2).toNat
  { low := (quarters - halfGapBelow) * up
    value := quarters * up
    high := (quarters + 2) * up
    denominator := Nat.pow 2 (2 - magnitude.exponent).toNat
    closed := magnitude.significand % 2 == 0 }

/-- The interval in units of a power of ten. -/
def Interval.onGrid (interval : Interval) (exponent : Int) : Interval :=
  let up := Nat.pow 10 (-exponent).toNat
  { low := interval.low * up
    value := interval.value * up
    high := interval.high * up
    denominator := interval.denominator * Nat.pow 10 exponent.toNat
    closed := interval.closed }

/-- Whether a natural lies in the interval. -/
def Interval.contains (interval : Interval) (natural : Nat) : Bool :=
  let point := natural * interval.denominator
  if interval.closed then interval.low ≤ point && point ≤ interval.high
  else interval.low < point && point < interval.high

/-- The natural in the interval that is nearest to its value, if there is one. -/
def Interval.nearest? (interval : Interval) : Option Nat :=
  let below := interval.value / interval.denominator
  let rest := interval.value % interval.denominator
  match interval.contains below && below != 0, interval.contains (below + 1) with
  | true, true => some (if 2 * rest < interval.denominator then below else below + 1)
  | true, false => some below
  | false, true => some (below + 1)
  | false, false => none

/-- The first hit on grids of decreasing power of ten. -/
def search (interval : Interval) : Nat → Int → DecimalForm
  | 0, exponent => ⟨0, exponent⟩
  | steps + 1, exponent =>
    match (interval.onGrid exponent).nearest? with
    | some digits => ⟨digits, exponent⟩
    | none => search interval steps (exponent - 1)

/-- A power of ten above the upper end of an interval, and close to it. -/
def Interval.upperPower (interval : Interval) : Int :=
  if interval.denominator ≤ interval.high then
    (Nat.toDigits 10 (interval.high / interval.denominator)).length
  else
    1 - ((Nat.toDigits 10 (interval.denominator / interval.high)).length : Int)

/-- The shortest decimal of a magnitude other than zero. Twenty grids are enough, because
seventeen digits always read back. -/
def ofMagnitude (magnitude : Magnitude) : DecimalForm :=
  let interval := Interval.around magnitude
  search interval 20 interval.upperPower

end Shortest

/-! ## Layout -/

namespace DecimalForm

/-- The digits as characters. -/
def characters (form : DecimalForm) : List Char := Nat.toDigits 10 form.digits

/-- How many digits stand before the point; a number below one has none or a negative count. -/
def pointPosition (form : DecimalForm) : Int := form.characters.length + form.exponent

/-- The number without an exponent; a whole number gets `wholeEnding` behind it. -/
def positional (form : DecimalForm) (wholeEnding : String) : String :=
  let digits := form.characters
  let position := form.pointPosition
  if 0 ≤ form.exponent then
    String.ofList (digits ++ List.replicate form.exponent.toNat '0') ++ wholeEnding
  else if 0 < position then
    String.ofList (digits.take position.toNat ++ '.' :: digits.drop position.toNat)
  else
    String.ofList ('0' :: '.' :: List.replicate (-position).toNat '0' ++ digits)

/-- The number as one digit, the others behind a point, and a power of ten. -/
def scientific (form : DecimalForm) : String :=
  let power := toString (form.pointPosition - 1)
  match form.characters with
  | [digit] => String.ofList [digit, 'e'] ++ power
  | digit :: rest => String.ofList (digit :: '.' :: rest ++ ['e']) ++ power
  | [] => ""

end DecimalForm

namespace Binary64

/-- The minus sign of a negative number. -/
def signText (negative : Bool) : String := if negative then "-" else ""

/-- The text of a number. A whole number keeps one zero behind its point. From `10 ^ 16` on and below
`10 ^ -4` it is written with an exponent. -/
def text : Binary64 → String
  | .nan => "NaN"
  | .infinity negative => signText negative ++ "inf"
  | .finite negative magnitude =>
    if magnitude.significand = 0 then signText negative ++ "0.0"
    else
      let form := Shortest.ofMagnitude magnitude
      let position := form.pointPosition
      signText negative ++
        if 17 ≤ position || position ≤ -4 then form.scientific else form.positional ".0"

/-- The text of a number without an exponent and without a fraction on whole numbers. -/
def positionalText : Binary64 → String
  | .nan => "NaN"
  | .infinity negative => signText negative ++ "inf"
  | .finite negative magnitude =>
    if magnitude.significand = 0 then signText negative ++ "0"
    else signText negative ++ (Shortest.ofMagnitude magnitude).positional ""

end Binary64

end MessageExpr
