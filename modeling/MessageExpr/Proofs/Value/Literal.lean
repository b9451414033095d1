import Mathlib.Data.List.Basic
import MessageExpr.Proofs.Number.Decimal
import MessageExpr.Value.Display
import MessageExpr.Value.Literal

/-!
# What is a literal

A text is read as a whole number of 64 bits if it writes one, as a binary64 number if it is any other
numeral, and as a text if it stands between double quotes; no other text is a literal
(`literals_classified`). A whole number that does not fit in 64 bits is thus a binary64 number, and
the words for infinity and for not a number are no literals at all.

A text stands in for an argument of a numeric type exactly if it is a literal of such a type.
-/

set_option autoImplicit false

namespace MessageExpr

open Decimal

namespace Literal

/-! ## Enclosed texts -/

/-- **What is between a first and a last character is found exactly if both are there.** -/
theorem between?_eq_some_iff {first last : Char} {characters inner : List Char} :
    between? first last characters = some inner ↔ characters = first :: (inner ++ [last]) := by
  cases characters with
  | nil => simp [between?]
  | cons character rest =>
      simp only [between?, Option.ite_none_right_eq_some, Bool.and_eq_true, decide_eq_true_eq,
        Option.some.injEq, List.cons.injEq, and_assoc]
      refine and_congr_right fun _ => ?_
      constructor
      · rintro ⟨ends, rfl⟩
        exact (List.dropLast_append_getLast? _ ends).symm
      · rintro rfl
        simp

theorem unquote?_eq_some_iff {text content : String} :
    unquote? text = some content ↔ text = "\"" ++ content ++ "\"" := by
  rw [unquote?, Option.map_eq_some_iff, ← String.toList_inj]
  constructor
  · rintro ⟨inner, enclosed, rfl⟩
    simpa using between?_eq_some_iff.mp enclosed
  · intro characters
    exact ⟨content.toList, between?_eq_some_iff.mpr (by simpa using characters),
      String.ofList_toList⟩

/-! ## Numbers -/

/-- Behind an optional sign stands a digit or a point. -/
def StartsNumeric (characters : List Char) : Prop :=
  ∃ negative body, HasSign characters negative body ∧
    ∃ first ∈ body.head?, first.isDigit = true ∨ first = '.'

theorem looksNumeric_iff {characters : List Char} :
    looksNumeric characters = true ↔ StartsNumeric characters := by
  have decided : looksNumeric characters = true ↔
      ∃ first ∈ (splitSign characters).2.head?, first.isDigit = true ∨ first = '.' := by
    rw [looksNumeric]
    split
    · rename_i character rest split
      simp [split]
    · rename_i split
      simp [split]
  rw [decided]
  constructor
  · exact fun starts => ⟨_, _, hasSign_splitSign characters, starts⟩
  · rintro ⟨negative, body, signed, starts⟩
    rwa [signed.splitSign_eq]

/-- A whole number starts like a number. -/
theorem startsNumeric_of_wholeNumber {characters : List Char} {integer : Int}
    (whole : WholeNumber characters integer) : StartsNumeric characters := by
  obtain ⟨negative, digits, signed, ⟨nonempty, isDigit⟩, -⟩ := wholeNumber_iff.mp whole
  obtain ⟨first, rest, rfl⟩ := List.exists_cons_of_ne_nil nonempty
  exact ⟨negative, _, signed, first, rfl, .inl (isDigit first List.mem_cons_self)⟩

/-- **A 64-bit integer is read exactly from its sign and digits.** -/
theorem readInt?_eq_some_iff {text : String} {integer : Int64} :
    readInt? text = some integer ↔ WholeNumber text.toList integer.toInt := by
  rw [readInt?, Option.ite_none_right_eq_some, looksNumeric_iff, readInt64?_eq_some_iff]
  exact and_iff_right_of_imp startsNumeric_of_wholeNumber

theorem readInt?_eq_none_iff {text : String} :
    readInt? text = none ↔
      ∀ integer, WholeNumber text.toList integer → ¬ InInt64 integer := by
  constructor
  · intro none integer whole fits
    have value : (Int64.ofInt integer).toInt = integer :=
      Int64.toInt_ofInt_of_le fits.1 (Int.lt_of_le_of_lt fits.2 (by decide))
    rw [← value, ← readInt?_eq_some_iff, none] at whole
    cases whole
  · intro noneFits
    cases reads : readInt? text with
    | none => rfl
    | some integer =>
        exact absurd (inInt64_toInt integer) (noneFits _ (readInt?_eq_some_iff.mp reads))

/-- There is no point in a whole number. -/
theorem readInt?_eq_none_of_point {text : String} (point : '.' ∈ text.toList) :
    readInt? text = none := by
  refine readInt?_eq_none_iff.mpr fun integer whole _ => ?_
  generalize text.toList = characters at point whole
  have notDigit : ∀ {digits : List Char}, Digits digits → '.' ∉ digits := fun isDigits member =>
    absurd (isDigits.2 _ member) (by decide)
  cases whole with
  | minus isDigits => exact notDigit isDigits ((List.mem_cons.mp point).resolve_left (by decide))
  | plus isDigits => exact notDigit isDigits ((List.mem_cons.mp point).resolve_left (by decide))
  | unsigned isDigits => exact notDigit isDigits point

theorem readDouble?_eq_some_iff {text : String} {number : Binary64} :
    readDouble? text = some number ↔
      StartsNumeric text.toList ∧ readBinary64? text.toList = some number := by
  rw [readDouble?, Option.ite_none_right_eq_some, looksNumeric_iff]

/-- Digits and the point have no letter case. -/
theorem toLower_eq_self {first : Char} (numeric : first.isDigit = true ∨ first = '.') :
    first.toLower = first := by
  refine dif_neg ?_
  rintro ⟨fromA, -⟩
  rcases numeric with isDigit | rfl
  · simp only [Char.isDigit, Bool.and_eq_true, decide_eq_true_eq] at isDigit
    exact absurd (UInt32.le_trans fromA isDigit.2) (by decide)
  · exact absurd fromA (by decide)

/-- In letters of any case, one of the words for the numbers that no digits write. -/
def NumberWord (word : List Char) : Prop :=
  String.ofList (word.map Char.toLower) ∈ ["inf", "infinity", "nan"]

theorem NumberWord.head {word : List Char} (isWord : NumberWord word) :
    ∃ first ∈ word.head?, first.toLower = 'i' ∨ first.toLower = 'n' := by
  simp only [NumberWord, List.mem_cons, List.not_mem_nil, or_false, ← String.toList_inj,
    String.toList_ofList] at isWord
  cases word with
  | nil => simp at isWord
  | cons first rest =>
      refine ⟨first, rfl, ?_⟩
      rcases isWord with isInf | isInfinity | isNan
      · exact .inl (List.cons.inj isInf).1
      · exact .inl (List.cons.inj isInfinity).1
      · exact .inr (List.cons.inj isNan).1

/-- No such word starts like a number. -/
theorem not_numberWord {body : List Char}
    (starts : ∃ first ∈ body.head?, first.isDigit = true ∨ first = '.') : ¬ NumberWord body := by
  intro isWord
  obtain ⟨first, isFirst, numeric⟩ := starts
  obtain ⟨letter, isLetter, lower⟩ := isWord.head
  obtain rfl : first = letter := Option.some.inj (isFirst.symm.trans isLetter)
  rw [toLower_eq_self numeric] at lower
  rcases lower with rfl | rfl <;> exact absurd numeric (by decide)

theorem readWord?_eq_none {negative : Bool} {body : List Char} (notWord : ¬ NumberWord body) :
    readWord? negative body = none := by
  simp only [NumberWord, List.mem_cons, List.not_mem_nil, or_false, not_or] at notWord
  obtain ⟨notInf, notInfinity, notNan⟩ := notWord
  simp [readWord?, notInf, notInfinity, notNan]

/-- **A text that starts like a number is read as a binary64 number exactly if it is a numeral with an
optional sign.** The number is the one nearest to the numeral's value. -/
theorem readBinary64?_eq_some_iff {characters : List Char} (starts : StartsNumeric characters)
    {number : Binary64} :
    readBinary64? characters = some number ↔
      ∃ negative body coefficient exponent, HasSign characters negative body ∧
        Numeral body coefficient exponent ∧ nearest negative coefficient exponent = number := by
  obtain ⟨negative, body, signed, numeric⟩ := starts
  have reads : readBinary64? characters = readUnsigned? negative body := by
    simp only [readBinary64?, signed.splitSign_eq, readWord?_eq_none (not_numberWord numeric)]
    cases readUnsigned? negative body <;> rfl
  rw [reads, readUnsigned?_eq_some_iff]
  constructor
  · rintro ⟨coefficient, exponent, numeral, value⟩
    exact ⟨negative, body, coefficient, exponent, signed, numeral, value⟩
  · rintro ⟨otherNegative, otherBody, coefficient, exponent, otherSigned, numeral, value⟩
    obtain ⟨rfl, rfl⟩ : negative = otherNegative ∧ body = otherBody :=
      Prod.mk.inj (signed.splitSign_eq.symm.trans otherSigned.splitSign_eq)
    exact ⟨coefficient, exponent, numeral, value⟩

/-- A whole number of any size can be read as a binary64 number. -/
theorem exists_readDouble?_of_wholeNumber {text : String} {integer : Int}
    (whole : WholeNumber text.toList integer) : ∃ number, readDouble? text = some number := by
  have starts := startsNumeric_of_wholeNumber whole
  obtain ⟨negative, digits, signed, isDigits, -⟩ := wholeNumber_iff.mp whole
  exact ⟨_, readDouble?_eq_some_iff.mpr ⟨starts, (readBinary64?_eq_some_iff starts).mpr
    ⟨negative, digits, _, _, signed, isDigits.numeral, rfl⟩⟩⟩

/-! ## Literals -/

/-- A quoted text does not start like a number. -/
theorem not_startsNumeric_quoted (content : String) :
    ¬ StartsNumeric ("\"" ++ content ++ "\"").toList := by
  rintro ⟨negative, body, signed, first, isFirst, numeric⟩
  have characters : ("\"" ++ content ++ "\"").toList = '"' :: (content.toList ++ ['"']) := by simp
  rw [characters] at signed
  cases signed with
  | absent =>
      cases isFirst
      exact absurd numeric (by decide)

theorem read?_eq_int_iff {text : String} {integer : Int64} :
    read? text = some (.int integer) ↔ WholeNumber text.toList integer.toInt := by
  rw [← readInt?_eq_some_iff, read?]
  split
  · rename_i read
    simp [read]
  · rename_i none _
    simp [none]
  · rename_i none _
    cases unquote? text <;> simp [none]

theorem read?_eq_double_iff {text : String} {number : Binary64} :
    read? text = some (.double number) ↔ readInt? text = none ∧ readDouble? text = some number := by
  rw [read?]
  split
  · rename_i read
    simp [read]
  · rename_i none read
    simp [none, read]
  · rename_i none alsoNone
    cases unquote? text <;> simp [none, alsoNone]

theorem read?_eq_string_iff {text content : String} :
    read? text = some (.string content) ↔ text = "\"" ++ content ++ "\"" := by
  rw [← unquote?_eq_some_iff]
  constructor
  · intro reads
    rw [read?] at reads
    split at reads
    · cases reads
    · cases reads
    · simpa using reads
  · intro quoted
    have notNumeric : looksNumeric text.toList = false := by
      rw [Bool.eq_false_iff, ne_eq, looksNumeric_iff, unquote?_eq_some_iff.mp quoted]
      exact not_startsNumeric_quoted content
    simp [read?, readInt?, readDouble?, notNumeric, quoted]

/-- **Where a text has a point, the reader of binary64 numbers can come first.** -/
theorem read?_in_order (text : String) :
    read? text =
      ((if '.' ∈ text.toList then (readDouble? text).map .double else none).or
        ((readInt? text).map .int)).or
        (((readDouble? text).map .double).or ((unquote? text).map .string)) := by
  by_cases point : '.' ∈ text.toList
  · rw [read?, if_pos point, readInt?_eq_none_of_point point]
    cases readDouble? text <;> rfl
  · rw [read?, if_neg point]
    cases readInt? text <;> cases readDouble? text <;> rfl

end Literal

open Literal

/-- A text stands in for an integer exactly if it is a literal of one. -/
theorem coerce?_int_iff {text : String} {integer : Int64} :
    (Value.string text).coerce? .int = some (.int integer) ↔
      read? text = some (.int integer) := by
  rw [read?_eq_int_iff, ← readInt?_eq_some_iff]
  simp [Value.coerce?]

/-- A text stands in for a binary64 number exactly if it is a literal of a numeric type. -/
theorem coerce?_double_iff {text : String} :
    ((Value.string text).coerce? .double).isSome ↔
      (∃ integer, read? text = some (.int integer)) ∨
        ∃ number, read? text = some (.double number) := by
  have coerces : ((Value.string text).coerce? .double).isSome ↔
      ∃ number, readDouble? text = some number := by
    simp [Value.coerce?, Option.isSome_iff_exists]
  rw [coerces]
  constructor
  · rintro ⟨number, reads⟩
    cases integral : readInt? text with
    | none => exact .inr ⟨number, read?_eq_double_iff.mpr ⟨integral, reads⟩⟩
    | some integer =>
        exact .inl ⟨integer, read?_eq_int_iff.mpr (readInt?_eq_some_iff.mp integral)⟩
  · rintro (⟨integer, reads⟩ | ⟨number, reads⟩)
    · exact exists_readDouble?_of_wholeNumber (read?_eq_int_iff.mp reads)
    · exact ⟨number, (read?_eq_double_iff.mp reads).2⟩

/-- No text is a literal of another kind. -/
theorem kind_of_read? {text : String} {value : Value} (reads : read? text = some value) :
    (∃ integer, value = .int integer) ∨ (∃ number, value = .double number) ∨
      ∃ content, value = .string content := by
  rw [read?] at reads
  split at reads
  · exact .inl ⟨_, (Option.some.inj reads).symm⟩
  · exact .inr (.inl ⟨_, (Option.some.inj reads).symm⟩)
  · obtain ⟨content, -, rfl⟩ := Option.map_eq_some_iff.mp reads
    exact .inr (.inr ⟨content, rfl⟩)

/-- A word for infinity or for not a number is no literal, with or without a sign. -/
theorem read?_numberWord {text : String} {negative : Bool} {word : List Char}
    (signed : HasSign text.toList negative word) (isWord : NumberWord word) :
    read? text = none := by
  have notNumeric : ¬ StartsNumeric text.toList := by
    rintro ⟨otherNegative, body, otherSigned, starts⟩
    obtain ⟨-, rfl⟩ : otherNegative = negative ∧ body = word :=
      Prod.mk.inj (otherSigned.splitSign_eq.symm.trans signed.splitSign_eq)
    exact not_numberWord starts isWord
  have notQuoted : ∀ content, text ≠ "\"" ++ content ++ "\"" := by
    rintro content rfl
    obtain ⟨first, isFirst, letter⟩ := isWord.head
    have characters : ("\"" ++ content ++ "\"").toList = '"' :: (content.toList ++ ['"']) := by simp
    rw [characters] at signed
    cases signed with
    | absent =>
        cases isFirst
        exact absurd letter (by decide)
  cases reads : read? text with
  | none => rfl
  | some value =>
      obtain ⟨integer, rfl⟩ | ⟨number, rfl⟩ | ⟨content, rfl⟩ := kind_of_read? reads
      · exact absurd (startsNumeric_of_wholeNumber (read?_eq_int_iff.mp reads)) notNumeric
      · exact absurd (readDouble?_eq_some_iff.mp (read?_eq_double_iff.mp reads).2).1 notNumeric
      · exact absurd (read?_eq_string_iff.mp reads) (notQuoted content)

/-- The text of an integer is a literal of it. -/
theorem read?_display_int (integer : Int64) :
    read? (Value.int integer).display = some (.int integer) :=
  read?_eq_int_iff.mpr (wholeNumber_toString integer.toInt)

/-- **A text is a literal of an integer if it writes one of 64 bits, of a text if it stands between
double quotes, and of a binary64 number if it is any other numeral; else it is no literal. It stands in
for an argument of a numeric type exactly if it is a literal of one, and the text of an integer is a
literal of this integer.** -/
theorem literals_classified (text : String) :
    (∀ integer : Int64,
        read? text = some (.int integer) ↔ WholeNumber text.toList integer.toInt) ∧
      (∀ content, read? text = some (.string content) ↔ text = "\"" ++ content ++ "\"") ∧
      (∀ number, read? text = some (.double number) ↔
        StartsNumeric text.toList ∧ readBinary64? text.toList = some number ∧
          ∀ integer, WholeNumber text.toList integer → ¬ InInt64 integer) ∧
      (∀ integer, WholeNumber text.toList integer → ¬ InInt64 integer →
        ∃ number, read? text = some (.double number)) ∧
      (∀ value, read? text = some value →
        (∃ integer, value = .int integer) ∨ (∃ number, value = .double number) ∨
          ∃ content, value = .string content) ∧
      (∀ negative word, HasSign text.toList negative word → NumberWord word →
        read? text = none) ∧
      (∀ integer, (Value.string text).coerce? .int = some (.int integer) ↔
        read? text = some (.int integer)) ∧
      (((Value.string text).coerce? .double).isSome ↔
        (∃ integer, read? text = some (.int integer)) ∨
          ∃ number, read? text = some (.double number)) ∧
      ∀ integer : Int64,
        read? (Value.int integer).display = some (.int integer) ∧
          (Value.string (Value.int integer).display).coerce? .int = some (.int integer) := by
  have doubles : ∀ number, read? text = some (.double number) ↔
      StartsNumeric text.toList ∧ readBinary64? text.toList = some number ∧
        ∀ integer, WholeNumber text.toList integer → ¬ InInt64 integer := by
    intro number
    rw [read?_eq_double_iff, readInt?_eq_none_iff, readDouble?_eq_some_iff]
    tauto
  refine ⟨fun _ => read?_eq_int_iff, fun _ => read?_eq_string_iff, doubles, ?_,
    fun _ => kind_of_read?, fun _ _ => read?_numberWord, fun _ => coerce?_int_iff,
    coerce?_double_iff, fun integer => ⟨read?_display_int integer, ?_⟩⟩
  · intro integer whole tooLarge
    have noInteger : readInt? text = none := by
      refine readInt?_eq_none_iff.mpr fun other alsoWhole => ?_
      rwa [alsoWhole.unique whole]
    obtain ⟨number, reads⟩ := exists_readDouble?_of_wholeNumber whole
    exact ⟨number, read?_eq_double_iff.mpr ⟨noInteger, reads⟩⟩
  · exact coerce?_int_iff.mpr (read?_display_int integer)

end MessageExpr
