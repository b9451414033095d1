import Mathlib.Tactic.SplitIfs
import MessageExpr.Text.Basic

/-!
# Reading texts back

The span of a class of characters at the front of a text ends at the first character outside the
class. Where a text is put together from characters of the class and a rest that starts with none of
them (`StopsAt`), the span is the first part, so the text determines both parts (`span_inj`).

Inside quotes every character is written so that it can be told where the next one starts. A reader
of one written character (`readQuotedCharacter?`) shows this: it finds the character and what follows
it (`readQuotedCharacter?_quotedCharacter`), and it finds none at a quote, so a quoted text ends at
the first quote that is not part of a written character.

A quoted text therefore determines the text, and where it ends (`quoted_append_inj`).
-/

set_option autoImplicit false

namespace MessageExpr.Text

/-! ## Spans -/

/-- No character of the class is at the front of the text. -/
def StopsAt (inClass : Char → Bool) (rest : List Char) : Prop :=
  ∀ character ∈ rest.head?, inClass character = false

section Spans

variable {inClass : Char → Bool} {span rest : List Char}

theorem stopsAt_cons {character : Char} (outside : inClass character = false) :
    StopsAt inClass (character :: rest) := by
  rintro _ ⟨⟩
  exact outside

theorem StopsAt.takeWhile_eq (stops : StopsAt inClass rest) : rest.takeWhile inClass = [] := by
  cases rest with
  | nil => rfl
  | cons character more => simp [stops character rfl]

theorem StopsAt.dropWhile_eq (stops : StopsAt inClass rest) : rest.dropWhile inClass = rest := by
  cases rest with
  | nil => rfl
  | cons character more => simp [stops character rfl]

variable (inside : ∀ character ∈ span, inClass character = true) (stops : StopsAt inClass rest)
include inside stops

theorem takeWhile_span : (span ++ rest).takeWhile inClass = span := by
  rw [List.takeWhile_append_of_pos inside, stops.takeWhile_eq, List.append_nil]

theorem dropWhile_span : (span ++ rest).dropWhile inClass = rest := by
  rw [List.dropWhile_append_of_pos inside, stops.dropWhile_eq]

/-- **A text determines its span and the rest.** -/
theorem span_inj {other others : List Char}
    (alsoInside : ∀ character ∈ other, inClass character = true)
    (alsoStops : StopsAt inClass others) (same : span ++ rest = other ++ others) :
    span = other ∧ rest = others := by
  constructor
  · rw [← takeWhile_span inside stops, same, takeWhile_span alsoInside alsoStops]
  · rw [← dropWhile_span inside stops, same, dropWhile_span alsoInside alsoStops]

end Spans

/-! ## Code points -/

/-- The value of a digit of base 16 in lower case. -/
def hexadecimalDigit (digit : Char) : Nat :=
  if digit.isDigit then digit.toNat - '0'.toNat else digit.toNat - 'a'.toNat + 10

/-- The number that digits of base 16 write. -/
def hexadecimalValue (digits : List Char) : Nat :=
  digits.foldl (fun value digit => 16 * value + hexadecimalDigit digit) 0

theorem hexadecimalDigit_digitChar :
    ∀ digit < 16, hexadecimalDigit (Nat.digitChar digit) = digit := by
  decide

theorem hexadecimalValue_toDigits (number : Nat) :
    hexadecimalValue (Nat.toDigits 16 number) = number := by
  induction number using Nat.strongRecOn with
  | ind number ih =>
      rw [Nat.toDigits_eq_if (by decide)]
      split
      · rename_i small
        simp [hexadecimalValue, hexadecimalDigit_digitChar number small]
      · have higher : hexadecimalValue (Nat.toDigits 16 (number / 16)) = number / 16 :=
          ih (number / 16) (by omega)
        have lowest := hexadecimalDigit_digitChar (number % 16) (Nat.mod_lt number (by decide))
        simp only [hexadecimalValue] at higher
        simp only [hexadecimalValue, List.foldl_append, List.foldl_cons, List.foldl_nil, higher,
          lowest]
        omega

/-- No digit closes the braces of a code point. -/
theorem brace_not_mem_toDigits (number : Nat) : '\x7d' ∉ Nat.toDigits 16 number := by
  induction number using Nat.strongRecOn with
  | ind number ih =>
      rw [Nat.toDigits_eq_if (by decide)]
      split
      · exact fun member => Nat.digitChar_ne '\x7d' (by decide) (List.mem_singleton.mp member).symm
      · intro member
        rcases List.mem_append.mp member with higher | lowest
        · exact ih (number / 16) (by omega) higher
        · exact Nat.digitChar_ne '\x7d' (by decide) (List.mem_singleton.mp lowest).symm

/-! ## Characters -/

/-- The character that a letter stands for after a backslash. -/
def namedCharacter? : Char → Option Char
  | '"' => some '"'
  | '\\' => some '\\'
  | 'n' => some '\n'
  | 'r' => some '\r'
  | 't' => some '\t'
  | '0' => some '\x00'
  | _ => none

/-- Reads one written character off the front of a text; there is none at a quote. -/
def readQuotedCharacter? : List Char → Option (Char × List Char)
  | '\\' :: 'u' :: '\x7b' :: rest =>
    let digits := rest.takeWhile (· ≠ '\x7d')
    some (Char.ofNat (hexadecimalValue digits), rest.drop (digits.length + 1))
  | '\\' :: letter :: rest => (namedCharacter? letter).map fun character => (character, rest)
  | '"' :: _ => none
  | character :: rest => some (character, rest)
  | [] => none

/-- A code point between braces is read up to the brace that closes it. -/
theorem readQuotedCharacter?_codePoint (character : Char) (rest : List Char) :
    readQuotedCharacter?
        ('\\' :: 'u' :: '\x7b' :: (hexadecimal character ++ '\x7d' :: rest)) =
      some (character, rest) := by
  have digits : (hexadecimal character ++ '\x7d' :: rest).takeWhile (· ≠ '\x7d') =
      hexadecimal character := by
    refine takeWhile_span (fun digit member => ?_) (stopsAt_cons (by decide))
    have notBrace : digit ≠ '\x7d' := by
      rintro rfl
      exact brace_not_mem_toDigits _ member
    simpa using notBrace
  simp only [readQuotedCharacter?, digits]
  simp [hexadecimal, hexadecimalValue_toDigits, Char.ofNat_toNat]

/-- **The character that was written is read back.** -/
theorem readQuotedCharacter?_quotedCharacter (character : Char) (rest : List Char) :
    readQuotedCharacter? (quotedCharacter character ++ rest) = some (character, rest) := by
  rw [quotedCharacter]
  split_ifs with quote backslash newline carriage tab null unprintable
  · rw [quote]
    rfl
  · rw [backslash]
    rfl
  · rw [newline]
    rfl
  · rw [carriage]
    rfl
  · rw [tab]
    rfl
  · rw [null]
    rfl
  · simpa using readQuotedCharacter?_codePoint character rest
  · simp [readQuotedCharacter?, backslash]

theorem quotedCharacter_append_inj {first second : Char} {rest others : List Char}
    (same : quotedCharacter first ++ rest = quotedCharacter second ++ others) :
    first = second ∧ rest = others := by
  have read := congrArg readQuotedCharacter? same
  rw [readQuotedCharacter?_quotedCharacter, readQuotedCharacter?_quotedCharacter] at read
  exact Prod.mk.inj (Option.some.inj read)

/-- No written character starts with a quote. -/
theorem quotedCharacter_append_ne (character : Char) (rest others : List Char) :
    quotedCharacter character ++ rest ≠ '"' :: others := by
  intro same
  have read := congrArg readQuotedCharacter? same
  rw [readQuotedCharacter?_quotedCharacter] at read
  cases read

/-! ## Texts -/

/-- Up to the closing quote, written characters are those of one text only. -/
theorem flatMap_quotedCharacter_inj {first second rest others : List Char}
    (same : first.flatMap quotedCharacter ++ '"' :: rest =
      second.flatMap quotedCharacter ++ '"' :: others) :
    first = second ∧ rest = others := by
  induction first generalizing second with
  | nil =>
      cases second with
      | nil => exact ⟨rfl, (List.cons.inj same).2⟩
      | cons character more =>
          rw [List.flatMap_cons, List.append_assoc] at same
          exact absurd same.symm (quotedCharacter_append_ne _ _ _)
  | cons character more ih =>
      rw [List.flatMap_cons, List.append_assoc] at same
      cases second with
      | nil => exact absurd same (quotedCharacter_append_ne _ _ _)
      | cons other further =>
          rw [List.flatMap_cons, List.append_assoc] at same
          obtain ⟨rfl, behind⟩ := quotedCharacter_append_inj same
          obtain ⟨rfl, left⟩ := ih behind
          exact ⟨rfl, left⟩

theorem toList_quoted (text : String) :
    (quoted text).toList = '"' :: (text.toList.flatMap quotedCharacter ++ ['"']) := by
  rw [quoted, String.toList_ofList, quotedCharacters]
  rfl

/-- **A quoted text determines the text and what follows it.** -/
theorem quoted_append_inj {first second : String} {rest others : List Char}
    (same : (quoted first).toList ++ rest = (quoted second).toList ++ others) :
    first = second ∧ rest = others := by
  simp only [toList_quoted, List.cons_append, List.append_assoc, List.nil_append] at same
  obtain ⟨characters, left⟩ := flatMap_quotedCharacter_inj (List.cons.inj same).2
  exact ⟨String.toList_inj.mp characters, left⟩

end MessageExpr.Text
