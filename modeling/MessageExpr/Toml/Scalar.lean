import MessageExpr.Calendar.Civil
import MessageExpr.Number.Decimal
import MessageExpr.Toml.Node

/-!
# Keys, strings and other scalars of TOML

A string has one of four forms: between double or single quotes, on one line or, with three quotes,
on several. Only double quotes allow escapes. Numbers, truth values, dates and times are words; the
form of a word decides what it is.

Each reader takes characters and answers with what it read and the characters left.
-/

set_option autoImplicit false

namespace MessageExpr.Toml

/-- Reads something from the front of a text. -/
abbrev Reader (Item : Type) := List Char → Option (Item × List Char)

/-! ## Characters -/

/-- Whether a character is a blank on a line. -/
def isBlank (character : Char) : Bool := character = ' ' || character = '\t'

/-- Whether a character may stand in a comment or a string as it is. -/
def isPlain (character : Char) : Bool :=
  character = '\t' || (' ' ≤ character && character ≠ '\x7f')

/-- Whether a character may stand in a key without quotes. -/
def isBare (character : Char) : Bool :=
  character.isAlphanum || character = '_' || character = '-'

/-- The text without the blanks at its front. -/
def skipBlanks (characters : List Char) : List Char := characters.dropWhile isBlank

/-- Reads the end of a line. -/
def readNewline? : List Char → Option (List Char)
  | '\n' :: rest => some rest
  | '\r' :: '\n' :: rest => some rest
  | _ => none

/-! ## Strings -/

/-- Puts a character in front of what has been read. -/
def consing (character : Char) (read : Option (List Char × List Char)) :
    Option (List Char × List Char) :=
  read.map fun (content, rest) => (character :: content, rest)

/-- The character that a letter stands for after a backslash. -/
def escaped? : Char → Option Char
  | 'b' => some '\x08'
  | 't' => some '\t'
  | 'n' => some '\n'
  | 'f' => some '\x0c'
  | 'r' => some '\r'
  | '"' => some '"'
  | '\\' => some '\\'
  | _ => none

/-- The value of a digit of base 16. -/
def hexDigit? (digit : Char) : Option Nat :=
  if digit.isDigit then some (digit.toNat - '0'.toNat)
  else if 'a' ≤ digit && digit ≤ 'f' then some (digit.toNat - 'a'.toNat + 10)
  else if 'A' ≤ digit && digit ≤ 'F' then some (digit.toNat - 'A'.toNat + 10)
  else none

/-- The character with a code point in digits of base 16. -/
def ofHexDigits? (digits : List Char) : Option Char :=
  match digits.mapM hexDigit? with
  | some values =>
    let code := values.foldl (fun code value => 16 * code + value) 0
    if code.isValidChar then some (Char.ofNat code) else none
  | none => none

/-- Puts an escaped character in front of what has been read. -/
def consingEscape (character : Option Char) (read : Option (List Char × List Char)) :
    Option (List Char × List Char) :=
  character.bind fun character => consing character read

/-- Reads a string on one line after its opening double quote. -/
def readBasic : Reader (List Char)
  | [] => none
  | '"' :: rest => some ([], rest)
  | '\\' :: 'u' :: a :: b :: c :: d :: rest =>
    consingEscape (ofHexDigits? [a, b, c, d]) (readBasic rest)
  | '\\' :: 'U' :: a :: b :: c :: d :: e :: f :: g :: h :: rest =>
    consingEscape (ofHexDigits? [a, b, c, d, e, f, g, h]) (readBasic rest)
  | '\\' :: letter :: rest => consingEscape (escaped? letter) (readBasic rest)
  | character :: rest =>
    if isPlain character && character ≠ '\\' then consing character (readBasic rest) else none

/-- Reads a string on one line after its opening single quote. -/
def readLiteral : Reader (List Char)
  | [] => none
  | '\'' :: rest => some ([], rest)
  | character :: rest => if isPlain character then consing character (readLiteral rest) else none

/-- Reads what is left of the closing quotes after three of them: one or two more belong to the
string. -/
def readClosing (quote : Char) : Reader (List Char)
  | first :: second :: rest =>
    if first = quote then
      if second = quote then some ([quote, quote], rest) else some ([quote], second :: rest)
    else some ([], first :: second :: rest)
  | [last] => if last = quote then some ([quote], []) else some ([], [last])
  | [] => some ([], [])

/-- Whether nothing but blanks stands before the end of the line. -/
def isLineEnd (characters : List Char) : Bool := (readNewline? (skipBlanks characters)).isSome

/-- Reads a string on several lines after its opening double quotes. After a backslash at the end of
a line, blanks and line ends are skipped. -/
def readMultilineBasic (skipping : Bool) : Reader (List Char)
  | [] => none
  | '"' :: '"' :: '"' :: rest => readClosing '"' rest
  | '\\' :: 'u' :: a :: b :: c :: d :: rest =>
    consingEscape (ofHexDigits? [a, b, c, d]) (readMultilineBasic false rest)
  | '\\' :: 'U' :: a :: b :: c :: d :: e :: f :: g :: h :: rest =>
    consingEscape (ofHexDigits? [a, b, c, d, e, f, g, h]) (readMultilineBasic false rest)
  | '\\' :: letter :: rest =>
    match escaped? letter with
    | some character => consing character (readMultilineBasic false rest)
    | none => if isLineEnd (letter :: rest) then readMultilineBasic true (letter :: rest) else none
  | '\r' :: '\n' :: rest =>
    if skipping then readMultilineBasic true rest
    else consing '\n' (readMultilineBasic false rest)
  | character :: rest =>
    if skipping && (isBlank character || character = '\n') then readMultilineBasic true rest
    else if character = '\n' || (isPlain character && character ≠ '\\') then
      consing character (readMultilineBasic false rest)
    else none

/-- Reads a string on several lines after its opening single quotes. -/
def readMultilineLiteral : Reader (List Char)
  | [] => none
  | '\'' :: '\'' :: '\'' :: rest => readClosing '\'' rest
  | '\r' :: '\n' :: rest => consing '\n' (readMultilineLiteral rest)
  | character :: rest =>
    if character = '\n' || isPlain character then consing character (readMultilineLiteral rest)
    else none

/-- The text without one line end at its front. -/
def dropNewline (characters : List Char) : List Char := (readNewline? characters).getD characters

/-- Reads a string of any of the four forms. -/
def readString : Reader String := fun characters =>
  let read :=
    match characters with
    | '"' :: '"' :: '"' :: rest => readMultilineBasic false (dropNewline rest)
    | '"' :: rest => readBasic rest
    | '\'' :: '\'' :: '\'' :: rest => readMultilineLiteral (dropNewline rest)
    | '\'' :: rest => readLiteral rest
    | _ => none
  read.map fun (content, rest) => (String.ofList content, rest)

/-! ## Keys -/

/-- Reads one name of a key. -/
def readName : Reader String
  | '"' :: rest => (readBasic rest).map fun (content, left) => (String.ofList content, left)
  | '\'' :: rest => (readLiteral rest).map fun (content, left) => (String.ofList content, left)
  | characters =>
    let name := characters.takeWhile isBare
    if name.isEmpty then none else some (String.ofList name, characters.dropWhile isBare)

/-- Reads the names of a dotted key, with blanks around each. A key has at least one name and at most
`limit`. -/
def readKey : Nat → Reader (List String)
  | 0, _ => none
  | limit + 1, characters =>
    match readName (skipBlanks characters) with
    | none => none
    | some (name, rest) =>
      match skipBlanks rest with
      | '.' :: after => (readKey limit after).map fun (names, left) => (name :: names, left)
      | left => some ([name], left)

/-! ## Words -/

/-- Whether a character may stand in a number, a truth value, a date or a time. -/
def isWordCharacter (character : Char) : Bool :=
  character.isAlphanum || character = '+' || character = '-' || character = '_' ||
    character = '.' || character = ':'

/-- Takes the single underscores out of digits, each of which must stand between two of them. -/
def withoutUnderscores? (isDigit : Char → Bool) : List Char → Option (List Char)
  | [] => none
  | [digit] => if isDigit digit then some [digit] else none
  | digit :: '_' :: rest =>
    if isDigit digit then (withoutUnderscores? isDigit rest).map (digit :: ·) else none
  | digit :: rest =>
    if isDigit digit then (withoutUnderscores? isDigit rest).map (digit :: ·) else none

/-- The value of digits of a base. -/
def ofDigits? (base : Nat) (digits : List Char) : Option Int :=
  let isDigit := fun digit => (hexDigit? digit).any (· < base)
  ((withoutUnderscores? isDigit digits).bind fun plain => plain.mapM hexDigit?).map fun values =>
    (values.foldl (fun value digit => base * value + digit) 0 : Nat)

/-- The decimal digits of a whole number, which has no leading zero. -/
def wholeDigits? (digits : List Char) : Option (List Char) :=
  match withoutUnderscores? Char.isDigit digits with
  | some ('0' :: _ :: _) => none
  | plain => plain

/-- Reads a whole number. -/
def readInteger? (word : List Char) : Option Int :=
  let value :=
    match word with
    | '0' :: 'x' :: digits => ofDigits? 16 digits
    | '0' :: 'o' :: digits => ofDigits? 8 digits
    | '0' :: 'b' :: digits => ofDigits? 2 digits
    | _ =>
      let (negative, digits) := Decimal.splitSign word
      (wholeDigits? digits).map fun plain =>
        Decimal.withSign negative (Decimal.valueOfDigits plain)
  value.bind fun integer => if Decimal.fitsInt64 integer then some integer else none

/-- Takes the underscores out of an exponent with its letter; nothing stays nothing. -/
def plainExponent? : List Char → Option (List Char)
  | [] => some []
  | letter :: rest =>
    let (negative, digits) := Decimal.splitSign rest
    if letter = 'e' || letter = 'E' then
      (withoutUnderscores? Char.isDigit digits).map fun plain =>
        'e' :: (if negative then '-' else '+') :: plain
    else none

/-- Takes the underscores out of a fraction with its point and of the exponent after it. -/
def plainFraction? : List Char → Option (List Char)
  | '.' :: rest =>
    let digits := rest.takeWhile fun character => character.isDigit || character = '_'
    match withoutUnderscores? Char.isDigit digits, plainExponent? (rest.drop digits.length) with
    | some fraction, some exponent => some ('.' :: fraction ++ exponent)
    | _, _ => none
  | rest => plainExponent? rest

/-- Reads a number with a fraction or an exponent, or one of the words for the numbers that digits do
not write. A number beyond the largest one is refused unless it is negative. -/
def readNumber? (word : List Char) : Option Binary64 :=
  let (negative, body) := Decimal.splitSign word
  if body = ['i', 'n', 'f'] then some (.infinity negative)
  else if body = ['n', 'a', 'n'] then some .nan
  else
    let digits := body.takeWhile fun character => character.isDigit || character = '_'
    match wholeDigits? digits, plainFraction? (body.drop digits.length) with
    | some _, some [] => none
    | some whole, some rest =>
      (Decimal.readUnsigned? negative (whole ++ rest)).bind fun number =>
        if number = .infinity false then none else some number
    | _, _ => none

/-! ## Dates and times -/

/-- Reads two digits up to a bound. -/
def readPair (bound : Nat) : Reader Nat
  | tens :: ones :: rest =>
    let number := Decimal.valueOfDigits [tens, ones]
    if tens.isDigit && ones.isDigit && number ≤ bound then some (number, rest) else none
  | _ => none

/-- Takes one character off the front, if it is the expected one. -/
def expect (expected : Char) (characters : List Char) : Option (List Char) :=
  match characters with
  | character :: rest => if character = expected then some rest else none
  | [] => none

/-- What is left after a date. -/
def dropDate? : List Char → Option (List Char)
  | a :: b :: c :: d :: '-' :: rest => do
    let year := Decimal.valueOfDigits [a, b, c, d]
    let (month, rest) ← readPair 12 rest
    let (day, rest) ← readPair 31 (← expect '-' rest)
    if Decimal.areDigits [a, b, c, d] && CivilDate.isValid ⟨year, month, day⟩ then some rest
    else none
  | _ => none

/-- What is left after a fraction of a second; without a point, everything. -/
def dropFraction? : List Char → Option (List Char)
  | '.' :: rest =>
    match rest with
    | digit :: _ => if digit.isDigit then some (rest.dropWhile Char.isDigit) else none
    | [] => none
  | rest => some rest

/-- What is left after a time of day. -/
def dropTime? (characters : List Char) : Option (List Char) := do
  let (_, rest) ← readPair 23 characters
  let (_, rest) ← readPair 59 (← expect ':' rest)
  let (_, rest) ← readPair 60 (← expect ':' rest)
  dropFraction? rest

/-- Whether the characters are an offset from universal time or nothing. -/
def isOffset : List Char → Bool
  | [] => true
  | ['Z'] => true
  | ['z'] => true
  | sign :: rest =>
    let left := do
      let (_, rest) ← readPair 23 rest
      let (_, rest) ← readPair 59 (← expect ':' rest)
      some rest
    (sign = '+' || sign = '-') && left == some []

/-- Whether the characters are a time of day, with or without an offset. -/
def isTimeWithOffset (characters : List Char) : Bool := (dropTime? characters).any isOffset

/-- Whether the characters are a date by itself. -/
def isDate (characters : List Char) : Bool := dropDate? characters == some []

/-- Whether a word is a date, a time of day, or both with the letter T between them. -/
def isMoment (word : List Char) : Bool :=
  dropTime? word == some [] ||
    match dropDate? word with
    | some [] => true
    | some (letter :: time) => (letter = 'T' || letter = 't') && isTimeWithOffset time
    | none => false

/-- The node of a word. -/
def nodeOfWord? (word : List Char) : Option Node :=
  if word = ['t', 'r', 'u', 'e'] then some (.truth true)
  else if word = ['f', 'a', 'l', 's', 'e'] then some (.truth false)
  else if isMoment word then some (.moment (String.ofList word))
  else
    match readInteger? word, readNumber? word with
    | some integer, _ => some (.integer integer)
    | none, some number => some (.number number)
    | none, none => none

/-- Reads a word. A date may be followed by a space and a time. -/
def readWord : Reader Node := fun characters =>
  let word := characters.takeWhile isWordCharacter
  let rest := characters.dropWhile isWordCharacter
  let time := rest.tail.takeWhile isWordCharacter
  if isDate word && rest.head? = some ' ' && isTimeWithOffset time then
    some (.moment (String.ofList (word ++ ' ' :: time)), rest.tail.dropWhile isWordCharacter)
  else (nodeOfWord? word).map fun node => (node, rest)

end MessageExpr.Toml
