import MessageExpr.Number.Decimal
import MessageExpr.Proofs.Text.Basic

/-!
# The grammar of decimal numbers

A whole number is an optional sign and one or more digits (`WholeNumber`). A decimal numeral has
digits in front of a point or behind it, and may have an exponent, which is a whole number after a
letter (`Numeral`). The readers accept exactly these texts: whole numbers of 64 bits
(`readInt64?_eq_some_iff`), and, of the texts that start like a number, the numerals with an optional
sign (`readBinary64?_eq_some_iff`).

The digits that write a whole number are read back as this number (`wholeNumber_toString`).
-/

set_option autoImplicit false

namespace MessageExpr.Decimal

open Text

/-! ## Signs and digits -/

/-- One or more ASCII digits. -/
def Digits (characters : List Char) : Prop :=
  characters ≠ [] ∧ ∀ character ∈ characters, character.isDigit = true

theorem areDigits_iff {characters : List Char} :
    areDigits characters = true ↔ Digits characters := by
  simp [areDigits, Digits]

/-- The characters are a sign, `true` for minus, and what follows it. A sign may be left out. -/
inductive HasSign : List Char → Bool → List Char → Prop where
  | minus (body : List Char) : HasSign ('-' :: body) true body
  | plus (body : List Char) : HasSign ('+' :: body) false body
  | absent {body : List Char} (noSign : ∀ sign ∈ body.head?, sign ≠ '-' ∧ sign ≠ '+') :
      HasSign body false body

theorem hasSign_splitSign (characters : List Char) :
    HasSign characters (splitSign characters).1 (splitSign characters).2 := by
  rw [splitSign.eq_def]
  split
  · exact .minus _
  · exact .plus _
  · rename_i notMinus notPlus
    refine .absent fun sign first => ?_
    obtain ⟨rest, rfl⟩ := List.head?_eq_some_iff.mp first
    exact ⟨fun same => notMinus rest (by rw [same]), fun same => notPlus rest (by rw [same])⟩

theorem HasSign.splitSign_eq {characters body : List Char} {negative : Bool}
    (signed : HasSign characters negative body) : splitSign characters = (negative, body) := by
  cases signed with
  | minus => rfl
  | plus => rfl
  | absent noSign =>
      rw [splitSign.eq_def]
      split
      · exact absurd rfl (noSign '-' rfl).1
      · exact absurd rfl (noSign '+' rfl).2
      · rfl

/-- A text that starts with a digit has no sign. -/
theorem Digits.hasSign {digits : List Char} (isDigits : Digits digits) :
    HasSign digits false digits := by
  refine .absent fun sign first => ?_
  have isDigit := isDigits.2 sign (List.mem_of_mem_head? first)
  constructor <;> rintro rfl <;> exact absurd isDigit (by decide)

/-! ## Whole numbers -/

/-- The characters are an optional sign and digits, and this is their value. -/
inductive WholeNumber : List Char → Int → Prop where
  | minus {digits : List Char} (isDigits : Digits digits) :
      WholeNumber ('-' :: digits) (-(Nat.ofDigitChars 10 digits 0 : Int))
  | plus {digits : List Char} (isDigits : Digits digits) :
      WholeNumber ('+' :: digits) (Nat.ofDigitChars 10 digits 0)
  | unsigned {digits : List Char} (isDigits : Digits digits) :
      WholeNumber digits (Nat.ofDigitChars 10 digits 0)

/-- The integer is one of 64 bits with a sign. -/
def InInt64 (integer : Int) : Prop :=
  -9223372036854775808 ≤ integer ∧ integer ≤ 9223372036854775807

theorem fitsInt64_iff {integer : Int} : fitsInt64 integer = true ↔ InInt64 integer := by
  have bound : Int.pow 2 63 = 9223372036854775808 := by decide
  simp only [fitsInt64, bound, Bool.and_eq_true, decide_eq_true_eq, InInt64]
  omega

theorem inInt64_toInt (integer : Int64) : InInt64 integer.toInt := by
  have below := integer.toInt_lt
  have above := integer.le_toInt
  constructor <;> omega

theorem wholeNumber_iff {characters : List Char} {integer : Int} :
    WholeNumber characters integer ↔ ∃ negative digits, HasSign characters negative digits ∧
      Digits digits ∧ withSign negative (valueOfDigits digits) = integer := by
  constructor
  · intro whole
    cases whole with
    | minus isDigits => exact ⟨true, _, .minus _, isDigits, rfl⟩
    | plus isDigits => exact ⟨false, _, .plus _, isDigits, rfl⟩
    | unsigned isDigits => exact ⟨false, _, isDigits.hasSign, isDigits, rfl⟩
  · rintro ⟨negative, digits, signed, isDigits, rfl⟩
    cases signed with
    | minus => exact .minus isDigits
    | plus => exact .plus isDigits
    | absent => exact .unsigned isDigits

/-- The reader's own split decides. -/
theorem wholeNumber_iff_splitSign {characters : List Char} {integer : Int} :
    WholeNumber characters integer ↔ Digits (splitSign characters).2 ∧
      withSign (splitSign characters).1 (valueOfDigits (splitSign characters).2) = integer := by
  rw [wholeNumber_iff]
  constructor
  · rintro ⟨negative, digits, signed, isDigits, value⟩
    rw [signed.splitSign_eq]
    exact ⟨isDigits, value⟩
  · rintro ⟨isDigits, value⟩
    exact ⟨_, _, hasSign_splitSign characters, isDigits, value⟩

theorem WholeNumber.unique {characters : List Char} {integer other : Int}
    (whole : WholeNumber characters integer) (also : WholeNumber characters other) :
    integer = other :=
  (wholeNumber_iff_splitSign.mp whole).2.symm.trans (wholeNumber_iff_splitSign.mp also).2

/-- **A 64-bit integer is read exactly from an optional sign and digits of its value.** -/
theorem readInt64?_eq_some_iff {characters : List Char} {integer : Int64} :
    readInt64? characters = some integer ↔ WholeNumber characters integer.toInt := by
  simp only [readInt64?, Option.ite_none_right_eq_some, Bool.and_eq_true, areDigits_iff,
    fitsInt64_iff, Option.some.injEq, wholeNumber_iff_splitSign]
  constructor
  · rintro ⟨⟨isDigits, fits⟩, rfl⟩
    refine ⟨isDigits, (Int64.toInt_ofInt_of_le ?_ ?_).symm⟩
    · exact fits.1
    · exact Int.lt_of_le_of_lt fits.2 (by decide)
  · rintro ⟨isDigits, value⟩
    rw [value]
    exact ⟨⟨isDigits, inInt64_toInt integer⟩, Int64.ofInt_toInt integer⟩

/-! ## Written whole numbers -/

theorem digits_toDigits (natural : Nat) : Digits (Nat.toDigits 10 natural) :=
  ⟨Nat.toDigits_ne_nil, fun _ member =>
    Nat.isDigit_of_mem_toDigits (by decide) (by decide) member⟩

theorem toList_toString_natural (natural : Nat) :
    (toString natural).toList = Nat.toDigits 10 natural := by
  rw [Nat.toString_eq_ofList_toDigits, String.toList_ofList]

theorem toList_toString_negSucc (natural : Nat) :
    (toString (Int.negSucc natural)).toList = '-' :: Nat.toDigits 10 (natural + 1) := by
  rw [Int.toString_eq_repr, Int.repr, String.toList_append, Nat.toList_repr]
  rfl

/-- The text of an integer has digits, and may have a minus sign. -/
theorem mem_toString_integer {integer : Int} {character : Char}
    (member : character ∈ (toString integer).toList) :
    character.isDigit = true ∨ character = '-' := by
  cases integer with
  | ofNat natural =>
      have isDigit := (digits_toDigits natural).2
      rw [← toList_toString_natural] at isDigit
      exact .inl (isDigit character member)
  | negSucc natural =>
      rw [toList_toString_negSucc] at member
      rcases List.mem_cons.mp member with minus | isDigit
      · exact .inr minus
      · exact .inl ((digits_toDigits (natural + 1)).2 character isDigit)

/-- **The text of an integer writes this integer.** -/
theorem wholeNumber_toString (integer : Int) :
    WholeNumber (toString integer).toList integer := by
  cases integer with
  | ofNat natural =>
      have written := WholeNumber.unsigned (digits_toDigits natural)
      rw [Nat.ofDigitChars_ten_toDigits, ← toList_toString_natural] at written
      exact written
  | negSucc natural =>
      have written := WholeNumber.minus (digits_toDigits (natural + 1))
      rw [Nat.ofDigitChars_ten_toDigits, ← toList_toString_negSucc] at written
      exact written

/-! ## Numerals -/

/-- The characters are a point and the digits of a fraction, or nothing. -/
inductive Fraction : List Char → List Char → Prop where
  | absent : Fraction [] []
  | pointed {digits : List Char} (areDigits : ∀ digit ∈ digits, digit.isDigit = true) :
      Fraction ('.' :: digits) digits

/-- The characters are the letter E and an exponent, or nothing. -/
inductive Exponent : List Char → Int → Prop where
  | absent : Exponent [] 0
  | written {letter : Char} {characters : List Char} {exponent : Int}
      (isLetter : letter = 'e' ∨ letter = 'E') (whole : WholeNumber characters exponent) :
      Exponent (letter :: characters) exponent

/-- The characters are digits with a fraction and an exponent. All digits together are those of the
coefficient, and the power of ten moves the point behind the last of them. -/
inductive Numeral : List Char → Nat → Int → Prop where
  | intro {whole pointed fraction ending : List Char} {exponent : Int}
      (areDigits : ∀ digit ∈ whole, digit.isDigit = true) (isFraction : Fraction pointed fraction)
      (nonempty : whole ++ fraction ≠ []) (isExponent : Exponent ending exponent) :
      Numeral (whole ++ (pointed ++ ending)) (Nat.ofDigitChars 10 (whole ++ fraction) 0)
        (exponent - fraction.length)

theorem readExponent?_eq_some_iff {characters : List Char} {exponent : Int} :
    readExponent? characters = some exponent ↔ Exponent characters exponent := by
  cases characters with
  | nil =>
      constructor
      · rintro ⟨⟩
        exact .absent
      · rintro ⟨⟩
        rfl
  | cons letter rest =>
      simp only [readExponent?, Option.ite_none_right_eq_some, Bool.and_eq_true, Bool.or_eq_true,
        decide_eq_true_eq, areDigits_iff, Option.some.injEq]
      constructor
      · rintro ⟨⟨isLetter, isDigits⟩, value⟩
        exact .written isLetter (wholeNumber_iff_splitSign.mpr ⟨isDigits, value⟩)
      · rintro (_ | ⟨isLetter, whole⟩)
        obtain ⟨isDigits, value⟩ := wholeNumber_iff_splitSign.mp whole
        exact ⟨⟨isLetter, isDigits⟩, value⟩

/-- Digits are split off up to a character that is none. -/
theorem splitDigits_append {digits rest : List Char}
    (areDigits : ∀ digit ∈ digits, digit.isDigit = true) (stops : StopsAt Char.isDigit rest) :
    splitDigits (digits ++ rest) = (digits, rest) := by
  rw [splitDigits, takeWhile_span areDigits stops, dropWhile_span areDigits stops]

theorem splitDigits_eq (characters : List Char) :
    (∀ digit ∈ (splitDigits characters).1, digit.isDigit = true) ∧
      (splitDigits characters).1 ++ (splitDigits characters).2 = characters :=
  ⟨List.all_eq_true.mp List.all_takeWhile, List.takeWhile_append_dropWhile⟩

theorem Exponent.stops {ending : List Char} {exponent : Int} (isExponent : Exponent ending exponent) :
    ∀ character ∈ ending.head?, character.isDigit = false ∧ character ≠ '.' := by
  cases isExponent with
  | absent => exact fun _ absent => nomatch absent
  | written isLetter =>
      rintro _ ⟨⟩
      rcases isLetter with rfl | rfl <;> decide

theorem splitFraction_append {pointed fraction ending : List Char}
    (isFraction : Fraction pointed fraction)
    (stops : ∀ character ∈ ending.head?, character.isDigit = false ∧ character ≠ '.') :
    splitFraction (pointed ++ ending) = (fraction, ending) := by
  cases isFraction with
  | absent =>
      rw [List.nil_append, splitFraction.eq_def]
      split
      · exact absurd rfl (stops '.' rfl).2
      · rfl
  | pointed areDigits =>
      exact splitDigits_append areDigits fun character first => (stops character first).1

theorem fraction_splitFraction (characters : List Char) :
    ∃ pointed, Fraction pointed (splitFraction characters).1 ∧
      characters = pointed ++ (splitFraction characters).2 := by
  rw [splitFraction.eq_def]
  split
  · rename_i rest
    obtain ⟨areDigits, whole⟩ := splitDigits_eq rest
    exact ⟨_, .pointed areDigits, congrArg ('.' :: ·) whole.symm⟩
  · exact ⟨[], .absent, rfl⟩

/-- **An unsigned number is read exactly from a numeral.** -/
theorem readUnsigned?_eq_some_iff {negative : Bool} {characters : List Char} {number : Binary64} :
    readUnsigned? negative characters = some number ↔
      ∃ coefficient exponent, Numeral characters coefficient exponent ∧
        nearest negative coefficient exponent = number := by
  simp only [readUnsigned?, Option.ite_none_left_eq_some, Bool.and_eq_true, List.isEmpty_iff,
    Option.map_eq_some_iff, readExponent?_eq_some_iff]
  constructor
  · rintro ⟨nonempty, exponent, isExponent, rfl⟩
    obtain ⟨areDigits, split⟩ := splitDigits_eq characters
    obtain ⟨pointed, isFraction, behind⟩ := fraction_splitFraction (splitDigits characters).2
    have numeral := Numeral.intro areDigits isFraction (by simpa using nonempty) isExponent
    rw [← behind, split] at numeral
    exact ⟨_, _, numeral, rfl⟩
  · rintro ⟨_, _, ⟨areDigits, isFraction, nonempty, isExponent⟩, rfl⟩
    rename_i whole pointed fraction ending exponent
    have stops : StopsAt Char.isDigit (pointed ++ ending) := by
      cases isFraction with
      | absent => exact fun character first => (isExponent.stops character first).1
      | pointed _ => exact stopsAt_cons (by decide)
    rw [splitDigits_append areDigits stops, splitFraction_append isFraction isExponent.stops]
    exact ⟨by simpa using nonempty, exponent, isExponent, rfl⟩

/-- Digits are a numeral without a fraction. -/
theorem Digits.numeral {digits : List Char} (isDigits : Digits digits) :
    Numeral digits (Nat.ofDigitChars 10 digits 0) 0 := by
  have numeral := Numeral.intro isDigits.2 .absent (by simpa using isDigits.1) .absent
  simpa using numeral

end MessageExpr.Decimal
