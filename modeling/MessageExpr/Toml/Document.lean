import MessageExpr.Toml.Scalar

/-!
# TOML documents

A document is a sequence of lines: pairs of a key and a value, headers that open a table, blank lines
and comments. A pair goes into the table that the last header opened. Values may be nested in arrays
and inline tables up to a limit.

The reader of nested values recurses on what is left of that limit, and every sequence is read with
the length of the text as the bound on its members.
-/

set_option autoImplicit false

namespace MessageExpr.Toml

/-- How many levels of arrays and inline tables a value has at most, and how many names a key. -/
def nestingLimit : Nat := 79

/-! ## Blanks and comments -/

/-- The text without a comment at its front. -/
def skipComment : List Char → List Char
  | '#' :: rest => rest.dropWhile isPlain
  | characters => characters

/-- The text without blanks, comments and line ends at its front; at most `bound` lines of them. -/
def skipLines : Nat → List Char → List Char
  | 0, characters => characters
  | bound + 1, characters =>
    let line := skipComment (skipBlanks characters)
    match readNewline? line with
    | some rest => skipLines bound rest
    | none => line

/-! ## Values -/

/-- Reads the rest of an array after its bracket or a comma. -/
def readElements (readValue : Reader Node) : Nat → Reader (List Node)
  | 0, _ => none
  | bound + 1, characters =>
    let skip := fun text : List Char => skipLines text.length text
    match skip characters with
    | ']' :: rest => some ([], rest)
    | start =>
      match readValue start with
      | none => none
      | some (element, rest) =>
        match skip rest with
        | ',' :: after =>
          (readElements readValue bound after).map fun (elements, left) =>
            (element :: elements, left)
        | ']' :: after => some ([element], after)
        | _ => none

/-- Reads a key, an equals sign and a value. -/
def readPairOf (readValue : Reader Node) : Reader (List String × Node) := fun characters =>
  match readKey nestingLimit characters with
  | some (names, '=' :: rest) =>
    (readValue (skipBlanks rest)).map fun (node, left) => ((names, node), left)
  | _ => none

/-- Reads the pairs of an inline table after its brace or a comma, and adds them to those before. -/
def readPairs (readValue : Reader Node) : Nat → Entries → Reader Entries
  | 0, _, _ => none
  | bound + 1, entries, characters =>
    match readPairOf readValue characters with
    | none => none
    | some ((names, node), rest) =>
      match Entries.addAt? names.dropLast (names.getLastD "") node .inline entries with
      | none => none
      | some added =>
        match skipBlanks rest with
        | ',' :: after => readPairs readValue bound added after
        | '\x7d' :: after => some (added, after)
        | _ => none

/-- Reads a value with at most `depth` levels of arrays and inline tables. -/
def readValue : Nat → Reader Node
  | 0, characters =>
    match characters with
    | '"' :: _ => (readString characters).map fun (text, rest) => (.text text, rest)
    | '\'' :: _ => (readString characters).map fun (text, rest) => (.text text, rest)
    | _ => readWord characters
  | depth + 1, characters =>
    match characters with
    | '"' :: _ => (readString characters).map fun (text, rest) => (.text text, rest)
    | '\'' :: _ => (readString characters).map fun (text, rest) => (.text text, rest)
    | '[' :: rest =>
      (readElements (readValue depth) (rest.length + 1) rest).map fun (elements, left) =>
        (.array elements, left)
    | '\x7b' :: rest =>
      match skipBlanks rest with
      | '\x7d' :: after => some (.table .inline [], after)
      | _ =>
        (readPairs (readValue depth) (rest.length + 1) [] rest).map fun (entries, left) =>
          (.table .inline entries, left)
    | _ => readWord characters

/-! ## Lines -/

/-- A line of a document. -/
inductive Line where
  /-- Nothing, or a comment. -/
  | blank
  /-- A key and its value. -/
  | pair (names : List String) (node : Node)
  /-- The header of a table. -/
  | header (names : List String)
  /-- The header of one of several tables. -/
  | nextHeader (names : List String)

/-- Reads what a line says. -/
def readLineContent : Reader Line := fun characters =>
  match skipBlanks characters with
  | '[' :: '[' :: rest =>
    match readKey nestingLimit rest with
    | some (names, ']' :: ']' :: left) => some (.nextHeader names, left)
    | _ => none
  | '[' :: rest =>
    match readKey nestingLimit rest with
    | some (names, ']' :: left) => some (.header names, left)
    | _ => none
  | [] => some (.blank, [])
  | first :: rest =>
    if first = '#' || (readNewline? (first :: rest)).isSome then some (.blank, first :: rest)
    else
      (readPairOf (readValue nestingLimit) (first :: rest)).map fun ((names, node), left) =>
        (.pair names node, left)

/-- Reads a line with its end; nothing is left behind the last one. -/
def readLine : Reader Line := fun characters =>
  match readLineContent characters with
  | none => none
  | some (line, rest) =>
    match skipComment (skipBlanks rest) with
    | [] => some (line, [])
    | left => (readNewline? left).map fun after => (line, after)

/-- Adds what a line says to a document with the table that is open, given by its path. -/
def addLine (line : Line) (openPath : List String) (entries : Entries) :
    Option (List String × Entries) :=
  match line with
  | .blank => some (openPath, entries)
  | .pair names node =>
    (Entries.updateAt false (Entries.addAt? names.dropLast (names.getLastD "") node) openPath .opened
      entries).map fun added => (openPath, added)
  | .header names =>
    (Entries.updateAt false (fun _ => Entries.openTable? (names.getLastD "")) names.dropLast .opened
      entries).map fun added => (names, added)
  | .nextHeader names =>
    (Entries.updateAt false (fun _ => Entries.openNext? (names.getLastD "")) names.dropLast .opened
      entries).map fun added => (names, added)

/-- Reads lines and adds them to a document, at most `bound` of them. -/
def readLines : Nat → List String → Entries → List Char → Option Entries
  | _, _, entries, [] => some entries
  | 0, _, _, _ => none
  | bound + 1, openPath, entries, characters =>
    match readLine characters with
    | none => none
    | some (line, rest) =>
      match addLine line openPath entries with
      | none => none
      | some (nextPath, added) => readLines bound nextPath added rest

/-- The characters of a text without the mark of its byte order. -/
def withoutMark : List Char → List Char
  | '\ufeff' :: rest => rest
  | characters => characters

/-- Reads a document; nothing if it is malformed. -/
def readDocument? (text : String) : Option Entries :=
  readLines (text.toList.length + 1) [] [] (withoutMark text.toList)

end MessageExpr.Toml
