import MessageExpr.Proofs.Number.Decimal
import MessageExpr.Toml.Scalar

/-!
# Reading natural numbers back

A word can be a truth value, a number, a date or a time. A word of digits alone is none but a
number, and the digits of a natural number have no zero in front, as TOML asks of them. So a natural
number of 64 bits is read back from its digits (`readWord_toDigits`).
-/

set_option autoImplicit false

namespace MessageExpr.Toml

open Decimal Text

/-! ## Digits -/

theorem mem_of_readPair {bound number : Nat} {characters rest : List Char}
    (read : readPair bound characters = some (number, rest)) {character : Char}
    (member : character ∈ rest) : character ∈ characters := by
  rw [readPair.eq_def] at read
  split at read
  · simp only [Option.ite_none_right_eq_some, Option.some.injEq, Prod.mk.injEq] at read
    obtain ⟨-, -, rfl⟩ := read
    exact List.mem_cons_of_mem _ (List.mem_cons_of_mem _ member)
  · cases read

theorem expect_eq_none_of_not_mem {expected : Char} {characters : List Char}
    (absent : expected ∉ characters) : expect expected characters = none := by
  cases characters with
  | nil => rfl
  | cons first rest =>
      have other : first ≠ expected := Ne.symm (List.ne_of_not_mem_cons absent)
      simp [expect, other]

/-- A digit is none of the marks that give a word another meaning. -/
theorem ne_of_isDigit {digit mark : Char} (isDigit : digit.isDigit = true)
    (noDigit : mark.isDigit = false) : digit ≠ mark := by
  rintro rfl
  rw [isDigit] at noDigit
  cases noDigit

section Digits

variable {digits : List Char} (areDigits : ∀ digit ∈ digits, digit.isDigit = true)
include areDigits

theorem not_mem_of_areDigits {character : Char} (noDigit : character.isDigit = false) :
    character ∉ digits := fun member => ne_of_isDigit (areDigits character member) noDigit rfl

theorem withoutUnderscores?_digits (nonempty : digits ≠ []) :
    withoutUnderscores? Char.isDigit digits = some digits := by
  induction digits with
  | nil => exact absurd rfl nonempty
  | cons first rest ih =>
      obtain ⟨isDigit, restDigits⟩ := List.forall_mem_cons.mp areDigits
      cases rest with
      | nil => simp [withoutUnderscores?, isDigit]
      | cons second more =>
          have notUnderscore : second ≠ '_' :=
            ne_of_isDigit (restDigits second List.mem_cons_self) rfl
          have read := ih restDigits (List.cons_ne_nil second more)
          simp [withoutUnderscores?, isDigit, notUnderscore, read]

/-- Digits are no date and no time of day, which have marks between their digits. -/
theorem isMoment_digits : isMoment digits = false := by
  have noColon : ':' ∉ digits := not_mem_of_areDigits areDigits rfl
  have noHyphen : '-' ∉ digits := not_mem_of_areDigits areDigits rfl
  have noTime : dropTime? digits = none := by
    rw [dropTime?]
    cases read : readPair 23 digits with
    | none => rfl
    | some pair =>
        obtain ⟨number, rest⟩ := pair
        have noColonLeft : ':' ∉ rest := fun member => noColon (mem_of_readPair read member)
        simp [expect_eq_none_of_not_mem noColonLeft]
  have noDate : dropDate? digits = none := by
    rw [dropDate?.eq_def]
    split
    · exact absurd (by simp) noHyphen
    · rfl
  simp [isMoment, noTime, noDate]

end Digits

/-! ## Natural numbers -/

/-- Only zero is written with a zero at the front. -/
theorem eq_zero_of_toDigits_eq_cons {natural : Nat} {rest : List Char}
    (leading : Nat.toDigits 10 natural = '0' :: rest) : natural = 0 := by
  induction natural using Nat.strongRecOn generalizing rest with
  | ind natural ih =>
      rw [Nat.toDigits_eq_if (by decide)] at leading
      split at leading
      · rename_i small
        have zero : ∀ digit < 10, Nat.digitChar digit = '0' → digit = 0 := by decide
        exact zero natural small (List.cons.inj leading).1
      · obtain ⟨first, more, higher⟩ :=
          List.exists_cons_of_ne_nil (Nat.toDigits_ne_nil (n := natural / 10) (b := 10))
        rw [higher, List.cons_append] at leading
        obtain ⟨rfl, -⟩ := List.cons.inj leading
        have none := ih (natural / 10) (by omega) higher
        omega

theorem wholeDigits?_toDigits (natural : Nat) :
    wholeDigits? (Nat.toDigits 10 natural) = some (Nat.toDigits 10 natural) := by
  obtain ⟨nonempty, areDigits⟩ := digits_toDigits natural
  rw [wholeDigits?, withoutUnderscores?_digits areDigits nonempty]
  split
  · rename_i leading
    have written := Option.some.inj leading
    have zero := eq_zero_of_toDigits_eq_cons written
    subst zero
    cases written
  · rfl

/-- A word without the mark of another base is a decimal number. -/
theorem readInteger?_of_decimal {word : List Char}
    (decimal : ∀ {letter rest}, letter.isDigit = false → word ≠ '0' :: letter :: rest) :
    readInteger? word =
      ((wholeDigits? (splitSign word).2).map fun plain =>
          withSign (splitSign word).1 (valueOfDigits plain)).bind fun integer =>
        if fitsInt64 integer then some integer else none := by
  rw [readInteger?]
  all_goals exact fun digits => decimal rfl

/-- **The digits of a natural number are read as this number.** -/
theorem readInteger?_toDigits {natural : Nat} (fits : natural ≤ 9223372036854775807) :
    readInteger? (Nat.toDigits 10 natural) = some (natural : Int) := by
  have isDigits := digits_toDigits natural
  have value : valueOfDigits (Nat.toDigits 10 natural) = natural := Nat.ofDigitChars_ten_toDigits
  have inRange : fitsInt64 natural = true := by
    rw [fitsInt64_iff]
    constructor <;> omega
  have decimal : ∀ {letter : Char} {rest : List Char}, letter.isDigit = false →
      Nat.toDigits 10 natural ≠ '0' :: letter :: rest := by
    intro letter rest noDigit same
    refine not_mem_of_areDigits isDigits.2 noDigit ?_
    simp [same]
  rw [readInteger?_of_decimal decimal, isDigits.hasSign.splitSign_eq, wholeDigits?_toDigits,
    Option.map_some, Option.bind_some, value]
  exact if_pos inRange

theorem nodeOfWord?_toDigits {natural : Nat} (fits : natural ≤ 9223372036854775807) :
    nodeOfWord? (Nat.toDigits 10 natural) = some (.integer natural) := by
  obtain ⟨nonempty, areDigits⟩ := digits_toDigits natural
  have noLetter : 'e' ∉ Nat.toDigits 10 natural := not_mem_of_areDigits areDigits rfl
  have notTrue : Nat.toDigits 10 natural ≠ ['t', 'r', 'u', 'e'] := by
    intro same
    simp [same] at noLetter
  have notFalse : Nat.toDigits 10 natural ≠ ['f', 'a', 'l', 's', 'e'] := by
    intro same
    simp [same] at noLetter
  simp [nodeOfWord?, notTrue, notFalse, isMoment_digits areDigits, readInteger?_toDigits fits]

theorem readWord_toDigits {natural : Nat} (fits : natural ≤ 9223372036854775807)
    {rest : List Char} (stops : StopsAt isWordCharacter rest) (noSpace : rest.head? ≠ some ' ') :
    readWord (Nat.toDigits 10 natural ++ rest) = some (.integer natural, rest) := by
  obtain ⟨nonempty, areDigits⟩ := digits_toDigits natural
  have inWord : ∀ digit ∈ Nat.toDigits 10 natural, isWordCharacter digit = true := by
    intro digit member
    simp [isWordCharacter, Char.isAlphanum, areDigits digit member]
  simp [readWord, takeWhile_span inWord stops, dropWhile_span inWord stops, noSpace,
    nodeOfWord?_toDigits fits]

end MessageExpr.Toml
