import MessageExpr.Message.Basic

/-!
# Messages of truth values and numbers

Arithmetic is done on binary64 numbers, whatever the receiver: a whole number is first rounded to
one. The way back, `intValue`, drops the fraction, and fails unless the result fits in 64 bits.
-/

set_option autoImplicit false

namespace MessageExpr.Numeric

variable {World : Type}

/-- The receiver of an arithmetic message, as a binary64 number. -/
def numberOperand (selector : String) (value : Value) : Except BuiltinFailure Binary64 :=
  match value with
  | .int integer => .ok (.ofInt integer.toInt)
  | .double number => .ok number
  | other => .error (.operandMismatch selector .double other.type)

/-- A message that combines the receiver with the argument. -/
def arithmetic (selector : String) (combine : Binary64 → Binary64 → Binary64) :
    String × Message World :=
  (selector, .computing .double .double fun receiver argument => do
    let left ← numberOperand selector receiver
    let right ← doubleOperand selector argument
    return .double (combine left right))

/-- The messages that whole numbers and binary64 numbers share. -/
def arithmeticMessages : List (String × Message World) :=
  [arithmetic "adding:" .add, arithmetic "subtracting:" .subtract,
    arithmetic "multipliedBy:" .multiply, arithmetic "dividedBy:" .divide,
    ("squareRoot", .computingUnary .double fun receiver => do
      let number ← numberOperand "squareRoot" receiver
      return .double number.squareRoot)]

/-- The least 64-bit integer as a binary64 number. -/
def leastInteger : Binary64 := .ofInt Int64.minValue.toInt

/-- The greatest 64-bit integer as a binary64 number. -/
def greatestInteger : Binary64 := .ofInt Int64.maxValue.toInt

/-- The whole number that a binary64 number truncates to. The bounds of 64 bits are compared as
binary64 numbers, to which the greatest integer is rounded up; so the upper bound is excluded. -/
def intValue (number : Binary64) : Except BuiltinFailure Value :=
  match number.truncate? with
  | some integer =>
    if leastInteger.isAtMost number.truncate && number.truncate.isBelow greatestInteger then
      .ok (.int (Int64.ofInt integer))
    else .error (.notRepresentable number)
  | none => .error (.notRepresentable number)

/-- The messages of truth values. -/
def boolMessages : MessageTable World := .ofList
  [("invertedBool", .computingUnary .bool fun receiver => do
      let truth ← boolOperand "invertedBool" receiver
      return .bool !truth),
    ("intValue", .computingUnary .int fun receiver => do
      let truth ← boolOperand "intValue" receiver
      return .int (if truth then 1 else 0))]

/-- The messages of whole numbers. -/
def intMessages : MessageTable World := .ofList (arithmeticMessages ++
  [("doubleValue", .computingUnary .double fun receiver => do
      let integer ← intOperand "doubleValue" receiver
      return .double (.ofInt integer.toInt))])

/-- The messages of binary64 numbers. -/
def doubleMessages : MessageTable World := .ofList (arithmeticMessages ++
  [("intValue", .computingUnary .int fun receiver => do
      let number ← doubleOperand "intValue" receiver
      intValue number)])

end MessageExpr.Numeric
