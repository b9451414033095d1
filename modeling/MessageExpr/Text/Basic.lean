import MessageExpr.Text.Characters

/-!
# Trimming, splitting and quoting

Trimming takes the blanks at the ends of a text away.

A text is split at the leftmost occurrences of a separator that do not overlap. The pieces around
them are the answer, so there is one more piece than there are occurrences. An empty separator does
not cut.

A quoted text stands between double quotes. Inside, a double quote and a backslash are written
after a backslash, four controls have short names, and every other character that has no shape of
its own or joins the one before it is written as its code point in braces.
-/

set_option autoImplicit false

namespace MessageExpr.Text

/-! ## Trimming -/

/-- A text without the blanks at its front. -/
def trimStart (text : String) : String := String.ofList (text.toList.dropWhile isBlank)

/-- A list of characters without the blanks at its end. -/
def dropBlanksAtEnd (characters : List Char) : List Char :=
  (characters.reverse.dropWhile isBlank).reverse

/-- A text without the blanks at its end. -/
def trimEnd (text : String) : String := String.ofList (dropBlanksAtEnd text.toList)

/-- A text without the blanks at either end. -/
def trim (text : String) : String := trimEnd (trimStart text)

/-! ## Splitting -/

/-- The pieces of a text around a separator. `skip` characters of an occurrence that has been found
are still to be passed over. -/
def piecesAround (separator : List Char) : Nat → List Char → List (List Char)
  | _, [] => [[]]
  | skip + 1, _ :: rest => piecesAround separator skip rest
  | 0, character :: rest =>
    if separator.isPrefixOf (character :: rest) then
      [] :: piecesAround separator (separator.length - 1) rest
    else
      (piecesAround separator 0 rest).modifyHead (character :: ·)

/-- The pieces of a text around a separator; the whole text if the separator is empty. -/
def splitAt (separator text : String) : List String :=
  if separator.isEmpty then [text]
  else (piecesAround separator.toList 0 text.toList).map String.ofList

/-! ## Quoting -/

/-- The code point of a character in hexadecimal digits, without leading zeros. -/
def hexadecimal (character : Char) : List Char := Nat.toDigits 16 character.toNat

/-- A character as it is written inside quotes. -/
def quotedCharacter (character : Char) : List Char :=
  if character = '"' then ['\\', '"']
  else if character = '\\' then ['\\', '\\']
  else if character = '\n' then ['\\', 'n']
  else if character = '\r' then ['\\', 'r']
  else if character = '\t' then ['\\', 't']
  else if character = '\x00' then ['\\', '0']
  else if isUnprintable character || isGraphemeExtender character then
    ['\\', 'u', '\x7b'] ++ hexadecimal character ++ ['\x7d']
  else [character]

/-- The characters of a quoted text, the quotes included. -/
def quotedCharacters (characters : List Char) : List Char :=
  '"' :: characters.flatMap quotedCharacter ++ ['"']

/-- A text between double quotes. -/
def quoted (text : String) : String := String.ofList (quotedCharacters text.toList)

end MessageExpr.Text
