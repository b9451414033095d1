import MessageExpr.Toml.Scalar

/-!
# Writing TOML

A key is written without quotes if it may be, and a string in the simplest form that holds it
unchanged: between double quotes, between single quotes, and then on several lines between three of
either. A string that needs escapes is written between double quotes, on several lines if it has
line ends. A string on several lines that has line ends starts on a line of its own.
-/

set_option autoImplicit false

namespace MessageExpr.Toml

/-! ## What a string holds -/

/-- Whether a character needs an escape in every form of a string. -/
def needsEscape (character : Char) : Bool :=
  character ≠ '\t' && character ≠ '\n' && (character < ' ' || character = '\x7f')

/-- The length of the longest run of a character, where the run under way has a length already. -/
def longestRun (sought : Char) : Nat → List Char → Nat
  | run, [] => run
  | run, character :: rest =>
    if character = sought then longestRun sought (run + 1) rest
    else max run (longestRun sought 0 rest)

/-- Whether a text can stand on one line between double quotes as it is. -/
def isPlainBasic (content : List Char) : Bool :=
  !content.any needsEscape && !content.contains '\\' && !content.contains '"' &&
    !content.contains '\n'

/-- Whether a text can stand on one line between single quotes. -/
def isPlainLiteral (content : List Char) : Bool :=
  !content.any needsEscape && !content.contains '\'' && !content.contains '\n'

/-- Whether a text can stand on several lines between double quotes as it is. -/
def isPlainMultilineBasic (content : List Char) : Bool :=
  !content.any needsEscape && !content.contains '\\' && longestRun '"' 0 content ≤ 2

/-- Whether a text can stand on several lines between single quotes. -/
def isPlainMultilineLiteral (content : List Char) : Bool :=
  !content.any needsEscape && longestRun '\'' 0 content ≤ 2

/-! ## Escapes -/

/-- Four digits of base 16, in upper case. -/
def fourHexDigits (code : Nat) : List Char :=
  let digits := (Nat.toDigits 16 code).map Char.toUpper
  List.replicate (4 - digits.length) '0' ++ digits

/-- A control or a backslash as it is written between double quotes; any other character is written
as it is. -/
def writtenCharacter (character : Char) : List Char :=
  if character = '\x08' then ['\\', 'b']
  else if character = '\t' then ['\\', 't']
  else if character = '\n' then ['\\', 'n']
  else if character = '\x0c' then ['\\', 'f']
  else if character = '\r' then ['\\', 'r']
  else if character = '"' then ['\\', '"']
  else if character = '\\' then ['\\', '\\']
  else if needsEscape character then ['\\', 'u'] ++ fourHexDigits character.toNat
  else [character]

/-- A text between double quotes on one line. -/
def writtenBasic (content : List Char) : List Char :=
  '"' :: content.flatMap writtenCharacter ++ ['"']

/-- The content of a text on several lines between double quotes, where `quotes` double quotes stand
before it. Line ends are written as they are; of double quotes in a row every third is escaped. -/
def writtenLines (quotes : Nat) : List Char → List Char
  | [] => []
  | character :: rest =>
    if character = '\n' then '\n' :: writtenLines 0 rest
    else if character = '"' && quotes < 2 then '"' :: writtenLines (quotes + 1) rest
    else writtenCharacter character ++ writtenLines 0 rest

/-- The line end in front of a text on several lines, if the text has line ends. -/
def openingLine (content : List Char) : List Char :=
  if content.contains '\n' then ['\n'] else []

/-- A text on several lines between double quotes. -/
def writtenMultilineBasic (content : List Char) : List Char :=
  ['"', '"', '"'] ++ openingLine content ++ writtenLines 0 content ++ ['"', '"', '"']

/-- A text between single quotes on one line. -/
def writtenLiteral (content : List Char) : List Char := '\'' :: content ++ ['\'']

/-- A text on several lines between single quotes. -/
def writtenMultilineLiteral (content : List Char) : List Char :=
  ['\'', '\'', '\''] ++ openingLine content ++ content ++ ['\'', '\'', '\'']

/-! ## Strings, keys and lines -/

/-- A string in the simplest form that holds it. -/
def writtenString (content : List Char) : List Char :=
  if isPlainBasic content then writtenBasic content
  else if isPlainLiteral content then writtenLiteral content
  else if isPlainMultilineBasic content then writtenMultilineBasic content
  else if isPlainMultilineLiteral content then writtenMultilineLiteral content
  else if content.contains '\n' then writtenMultilineBasic content
  else writtenBasic content

/-- A key in the simplest form that holds it. -/
def writtenKey (content : List Char) : List Char :=
  if !content.isEmpty && content.all isBare then content
  else if isPlainBasic content then writtenBasic content
  else if isPlainLiteral content then writtenLiteral content
  else writtenBasic content

/-- A line with a key and a string. -/
def stringLine (key content : String) : String :=
  String.ofList (writtenKey key.toList ++ [' ', '=', ' '] ++ writtenString content.toList ++ ['\n'])

/-- A line with a key and a natural number. -/
def naturalLine (key : String) (natural : Nat) : String :=
  String.ofList (writtenKey key.toList) ++ " = " ++ toString natural ++ "\n"

/-- The header of a table. -/
def headerLine (name : String) : String :=
  "[" ++ String.ofList (writtenKey name.toList) ++ "]\n"

end MessageExpr.Toml
