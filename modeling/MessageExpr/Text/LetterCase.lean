import MessageExpr.Text.LetterCase.Tables

/-!
# Letter case

The upper and lower case of a character is a list of characters, because a few letters have several
characters as their other case. The case of a text is that of its characters one by one, with one
exception: a capital sigma that ends a word becomes the final small sigma.
-/

set_option autoImplicit false

namespace MessageExpr.Text

/-- The code point of the other case in a table of runs. -/
def CaseRun.find? (runs : List CaseRun) (code : Nat) : Option Nat :=
  (runs.find? fun run =>
    run.first ≤ code && code ≤ run.last && (code - run.first) % run.step == 0).map
      fun run => ((code : Int) + run.distance).toNat

/-- A character's other case by the two tables; a character without one stands for itself. -/
def otherCase (sequences : List (Nat × List Nat)) (runs : List CaseRun) (character : Char) :
    List Char :=
  match sequences.lookup character.toNat with
  | some codes => codes.map Char.ofNat
  | none =>
    match CaseRun.find? runs character.toNat with
    | some code => [Char.ofNat code]
    | none => [character]

/-- The upper case of a character. -/
def upperCase (character : Char) : List Char :=
  if character.toNat < 128 then [character.toUpper]
  else otherCase upperCaseSequences upperCaseRuns character

/-- The lower case of a character. -/
def lowerCase (character : Char) : List Char :=
  if character.toNat < 128 then [character.toLower]
  else otherCase lowerCaseSequences lowerCaseRuns character

/-- The upper case of a text. -/
def toUpperCase (text : String) : String := String.ofList (text.toList.flatMap upperCase)

/-- Whether, past the characters that case ignores, the first character is a letter with a case. -/
def startsCased (characters : List Char) : Bool :=
  match characters.dropWhile (inRanges caseIgnorableRanges) with
  | character :: _ => inRanges casedRanges character
  | [] => false

/-- The lower case of characters, given those before them, the nearest first. A capital sigma with
a letter before it and none after it is final. -/
def lowerCaseAfter : List Char → List Char → List Char
  | _, [] => []
  | before, character :: rest =>
    let lowered :=
      if character = 'Σ' then
        if startsCased before && !startsCased rest then ['ς'] else ['σ']
      else lowerCase character
    lowered ++ lowerCaseAfter (character :: before) rest

/-- The lower case of a text. -/
def toLowerCase (text : String) : String := String.ofList (lowerCaseAfter [] text.toList)

end MessageExpr.Text
