import MessageExpr.Value.Basic

/-!
# Equality of values

Values of one type are equal if their data are. Numbers are compared numerically, so not a number
differs from itself and the two zeros are equal; host objects are compared by identity; arrays and
maps are compared element by element. Values of different types differ.
-/

set_option autoImplicit false

namespace MessageExpr.Value

mutual

/-- Whether two values are equal. -/
def isEqual : Value → Value → Bool
  | .null, .null => true
  | .any, .any => true
  | .bool left, .bool right => left == right
  | .int left, .int right => left == right
  | .double left, .double right => left.numericallyEqual right
  | .string left, .string right => left == right
  | .date left, .date right => left == right
  | .array left, .array right => areEqual left right
  | .map left, .map right => areEqualEntries left right
  | .object left, .object right => left.identity == right.identity
  | _, _ => false

/-- Whether two lists of values are equal element by element. -/
def areEqual : List Value → List Value → Bool
  | [], [] => true
  | left :: moreLeft, right :: moreRight => isEqual left right && areEqual moreLeft moreRight
  | _, _ => false

/-- Whether two lists of entries have the same keys and equal values. -/
def areEqualEntries : List (String × Value) → List (String × Value) → Bool
  | [], [] => true
  | (leftKey, left) :: moreLeft, (rightKey, right) :: moreRight =>
    leftKey == rightKey && isEqual left right && areEqualEntries moreLeft moreRight
  | _, _ => false

end

instance : BEq Value := ⟨isEqual⟩

end MessageExpr.Value
