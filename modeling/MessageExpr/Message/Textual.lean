import MessageExpr.Message.Basic
import MessageExpr.Text.Basic
import MessageExpr.Text.LetterCase

/-!
# Messages of texts

Most messages of a text change its letters or their order; two take it apart into an array.
-/

set_option autoImplicit false

namespace MessageExpr.Textual

variable {World : Type}

/-- Changes the case of characters one by one: upper case at the start of a word, that is, at the
front and after a blank, and lower case elsewhere. -/
def capitalizeFrom : Bool → List Char → List Char
  | _, [] => []
  | wordStart, character :: rest =>
    (if wordStart then Text.upperCase character else Text.lowerCase character) ++
      capitalizeFrom (Text.isBlank character) rest

/-- The text with the first letter of every word in upper case and the others in lower case. -/
def capitalized (text : String) : String := String.ofList (capitalizeFrom true text.toList)

/-- Changes the case of characters one by one, in turns. -/
def alternateFrom : Bool → List Char → List Char
  | _, [] => []
  | upper, character :: rest =>
    (if upper then Text.upperCase character else Text.lowerCase character) ++
      alternateFrom (!upper) rest

/-- The text with its characters in upper and lower case by turns. -/
def ransomNote (text : String) : String := String.ofList (alternateFrom true text.toList)

/-- The text with its characters in reverse order. -/
def reversed (text : String) : String := String.ofList text.toList.reverse

/-- The characters of a text, each as a text. -/
def characters (text : String) : List Value :=
  text.toList.map fun character => .string character.toString

/-- A message that changes a text into another. -/
def transforming (selector : String) (transform : String → String) : String × Message World :=
  (selector, .computingUnary .string fun receiver => do
    let text ← stringOperand selector receiver
    return .string (transform text))

/-- The messages of texts. -/
def messages : MessageTable World := .ofList
  [transforming "capitalizedString" capitalized,
    transforming "lowercaseString" Text.toLowerCase,
    transforming "uppercaseString" Text.toUpperCase,
    transforming "ransomNoteString" ransomNote,
    transforming "reversedString" reversed,
    ("characters", .computingUnary .array fun receiver => do
      let text ← stringOperand "characters" receiver
      return .array (characters text)),
    ("componentsSeparatedByString:", .computing .string .array fun receiver argument => do
      let text ← stringOperand "componentsSeparatedByString:" receiver
      let separator ← stringOperand "componentsSeparatedByString:" argument
      return .array ((Text.splitAt separator text).map .string))]

end MessageExpr.Textual
