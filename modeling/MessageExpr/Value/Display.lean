import MessageExpr.Calendar.DateText
import MessageExpr.Number.Shortest
import MessageExpr.Text.Basic
import MessageExpr.Value.Basic

/-!
# The text of a value

A text is shown as it is, but quoted inside a collection. An array is shown as its elements between
brackets, a map as its keys and values between brackets, and a map without entries as a colon
between brackets, so that it differs from an array without elements.
-/

set_option autoImplicit false

namespace MessageExpr.Value

mutual

/-- The text of a value, by itself or inside a collection. -/
def textWithin (collection : Bool) : Value → String
  | .null => "nil"
  | .any => "Any"
  | .bool truth => if truth then "true" else "false"
  | .int integer => toString integer.toInt
  | .double number => number.text
  | .string text => if collection then Text.quoted text else text
  | .date instant => DateText.write instant
  | .array elements => "[" ++ ", ".intercalate (elementTexts elements) ++ "]"
  | .map [] => "[:]"
  | .map (entry :: entries) =>
    "[" ++ ", ".intercalate (entryTexts (entry :: entries)) ++ "]"
  | .object host => host.description

/-- The texts of an array's elements. -/
def elementTexts : List Value → List String
  | [] => []
  | element :: rest => textWithin true element :: elementTexts rest

/-- The texts of a map's entries. -/
def entryTexts : List (String × Value) → List String
  | [] => []
  | (key, value) :: rest =>
    (Text.quoted key ++ ": " ++ textWithin true value) :: entryTexts rest

end

theorem elementTexts_eq_map (elements : List Value) :
    elementTexts elements = elements.map (textWithin true) := by
  induction elements with
  | nil => rfl
  | cons element rest ih => rw [elementTexts, ih, List.map_cons]

theorem entryTexts_eq_map (entries : List (String × Value)) :
    entryTexts entries =
      entries.map fun entry => Text.quoted entry.1 ++ ": " ++ textWithin true entry.2 := by
  induction entries with
  | nil => rfl
  | cons entry rest ih => rw [entryTexts, ih, List.map_cons]

/-- The text of a value. -/
def display (value : Value) : String := value.textWithin false

end MessageExpr.Value
