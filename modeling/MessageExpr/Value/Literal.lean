import MessageExpr.Number.Decimal
import MessageExpr.Value.Basic

/-!
# Literals and coercion

A literal is a number or a text between double quotes. Only text that starts like a number, with an
optional sign and then a digit or a point, is read as one, so the words for infinity and for not a
number are no literals. A whole number that does not fit in 64 bits is read as a binary64 number.

A text or a whole number can stand in for an argument of a numeric type (`coerce?`), by the same
rules.
-/

set_option autoImplicit false

namespace MessageExpr

namespace Literal

/-- Whether characters start like a number. -/
def looksNumeric (characters : List Char) : Bool :=
  match (Decimal.splitSign characters).2 with
  | character :: _ => character.isDigit || character = '.'
  | [] => false

/-- Reads a whole number. -/
def readInt? (text : String) : Option Int64 :=
  if looksNumeric text.toList then Decimal.readInt64? text.toList else none

/-- Reads a binary64 number. -/
def readDouble? (text : String) : Option Binary64 :=
  if looksNumeric text.toList then Decimal.readBinary64? text.toList else none

/-- The characters between a first and a last one, if these are as given. -/
def between? (first last : Char) : List Char → Option (List Char)
  | [] => none
  | character :: rest =>
    if character = first && rest.getLast? = some last then some rest.dropLast else none

/-- The text between double quotes. -/
def unquote? (text : String) : Option String :=
  (between? '"' '"' text.toList).map String.ofList

/-- Reads a literal. -/
def read? (text : String) : Option Value :=
  match readInt? text, readDouble? text with
  | some integer, _ => some (.int integer)
  | none, some number => some (.double number)
  | none, none => (unquote? text).map .string

end Literal

namespace Value

/-- The value that stands in for this one where the target type is expected. -/
def coerce? (value : Value) (target : ValueType) : Option Value :=
  match value, target with
  | .string text, .int => (Literal.readInt? text).map .int
  | .int integer, .double => some (.double (.ofInt integer.toInt))
  | .string text, .double => (Literal.readDouble? text).map .double
  | _, _ => none

end Value

end MessageExpr
