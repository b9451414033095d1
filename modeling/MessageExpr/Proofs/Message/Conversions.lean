import MessageExpr.Proofs.Number.Decimal
import MessageExpr.Proofs.Number.Integers
import MessageExpr.Proofs.Run.Answers

/-!
# Conversions between the two kinds of numbers

A binary64 number has a whole number exactly if the integer that it truncates to fits in 64 bits, and
that is this integer (`Numeric.intValue_eq_ok_iff`). The comparisons that decide it are made on
binary64 numbers, and do not round: the truncated number is a number itself, the least 64-bit integer
is one, and the greatest is rounded up to the first integer that does not fit.

On the way to binary64 and back a whole number becomes the integer of the nearest number. It stays
what it is up to 53 bits; close below the bound it is rounded out of 64 bits, and there is no way back
(`intValue_truncates`).
-/

set_option autoImplicit false

namespace MessageExpr

/-- The number is finite, and its value without the fraction is this integer. -/
def Binary64.TruncatesTo (number : Binary64) (integer : ℤ) : Prop :=
  ∃ value, number.rational? = some value ∧ towardZero value = integer

namespace Numeric

open Binary64 Decimal

variable {number : Binary64} {integer : ℤ}

theorem rational?_leastInteger : leastInteger.rational? = some ((-2 ^ 63 : ℤ) : ℚ) := by
  have isLeast : leastInteger = .finite true power63 := by decide
  rw [isLeast, rational?_finite true toRat_power63, signed]
  norm_num

/-- The greatest 64-bit integer is rounded up. -/
theorem rational?_greatestInteger : greatestInteger.rational? = some ((2 ^ 63 : ℤ) : ℚ) := by
  have isGreatest : greatestInteger = .finite false power63 := by decide
  rw [isGreatest, rational?_finite false toRat_power63, signed]
  norm_num

/-- **The bounds decide whether the truncated number fits in 64 bits.** -/
theorem between_bounds_iff (truncates : number.TruncatesTo integer) :
    (leastInteger.isAtMost number.truncate && number.truncate.isBelow greatestInteger) = true ↔
      InInt64 integer := by
  obtain ⟨value, isValue, rfl⟩ := truncates
  have whole := (truncate_spec isValue).2
  rw [Bool.and_eq_true, isAtMost_iff rational?_leastInteger whole,
    isBelow_iff whole rational?_greatestInteger, Int.cast_le, Int.cast_lt, InInt64]
  omega

theorem truncate?_eq_some_iff : number.truncate? = some integer ↔ number.TruncatesTo integer := by
  cases rational : number.rational? with
  | none =>
      cases number with
      | finite => cases rational
      | nan => simp [truncate?, TruncatesTo, rational]
      | infinity => simp [truncate?, TruncatesTo, rational]
  | some value =>
      rw [(truncate_spec rational).1]
      simp [TruncatesTo, rational]

/-- **The number has a whole number if what it truncates to fits in 64 bits.** -/
theorem intValue_of_fitting (truncates : number.TruncatesTo integer) (fits : InInt64 integer) :
    intValue number = .ok (.int (Int64.ofInt integer)) := by
  rw [intValue, truncate?_eq_some_iff.mpr truncates]
  exact if_pos ((between_bounds_iff truncates).mpr fits)

/-- **It has none otherwise.** -/
theorem intValue_of_not_fitting
    (notFitting : ∀ integer, number.TruncatesTo integer → ¬ InInt64 integer) :
    intValue number = .error (.notRepresentable number) := by
  rw [intValue]
  split
  · rename_i integer isTruncated
    have truncates := truncate?_eq_some_iff.mp isTruncated
    exact if_neg (mt (between_bounds_iff truncates).mp (notFitting integer truncates))
  · rfl

theorem toInt_ofInt_of_fits (fits : InInt64 integer) : (Int64.ofInt integer).toInt = integer :=
  Int64.toInt_ofInt_of_le fits.1 (Int.lt_add_one_of_le fits.2)

theorem intValue_eq_ok_iff {whole : Int64} :
    intValue number = .ok (.int whole) ↔ number.TruncatesTo whole.toInt := by
  constructor
  · intro isWhole
    by_cases fitting : ∃ integer, number.TruncatesTo integer ∧ InInt64 integer
    · obtain ⟨integer, truncates, fits⟩ := fitting
      rw [intValue_of_fitting truncates fits] at isWhole
      cases isWhole
      rwa [toInt_ofInt_of_fits fits]
    · rw [intValue_of_not_fitting fun integer truncates fits =>
        fitting ⟨integer, truncates, fits⟩] at isWhole
      cases isWhole
  · intro truncates
    rw [intValue_of_fitting truncates (inInt64_toInt whole), Int64.ofInt_toInt]

theorem intValue_eq_error_iff :
    intValue number = .error (.notRepresentable number) ↔
      ∀ integer, number.TruncatesTo integer → ¬ InInt64 integer := by
  refine ⟨fun fails integer truncates fits => ?_, intValue_of_not_fitting⟩
  rw [intValue_of_fitting truncates fits] at fails
  cases fails

/-! ## There and back -/

theorem truncatesTo_of_rational? (isInteger : number.rational? = some (integer : ℚ)) :
    number.TruncatesTo integer :=
  ⟨integer, isInteger, towardZero_of_integer integer⟩

theorem TruncatesTo.unique {other : ℤ} (truncates : number.TruncatesTo integer)
    (alsoTruncates : number.TruncatesTo other) : integer = other := by
  obtain ⟨value, isValue, rfl⟩ := truncates
  obtain ⟨otherValue, alsoValue, rfl⟩ := alsoTruncates
  rw [isValue] at alsoValue
  cases alsoValue
  rfl

theorem isNearest_ofInt64 (whole : Int64) : (ofInt whole.toInt).IsNearest whole.toInt := by
  obtain ⟨above, below⟩ := inInt64_toInt whole
  apply isNearest_ofInt
  have small : |whole.toInt| < 2 ^ 200 := by
    refine (abs_le.mpr ⟨?_, ?_⟩).trans_lt (show (2 : ℤ) ^ 63 < 2 ^ 200 by norm_num)
    · omega
    · omega
  exact_mod_cast small

/-- The number nearest to a 64-bit integer is an integer, of 64 bits unless it is rounded up out of
them. -/
theorem exists_integer_ofInt64 (whole : Int64) :
    ∃ nearest : ℤ, (ofInt whole.toInt).rational? = some (nearest : ℚ) ∧
      (nearest = 2 ^ 63 ↔ 2 ^ 63 - 512 ≤ whole.toInt) ∧
      (InInt64 nearest ↔ whole.toInt < 2 ^ 63 - 512) := by
  have isNearest := isNearest_ofInt64 whole
  obtain ⟨nearest, isInteger⟩ := isNearest.exists_integer
  obtain ⟨above, below⟩ := inInt64_toInt whole
  have rounded := isNearest.eq_power_iff isInteger (by omega)
  have isPower : nearest = 2 ^ 63 ↔ 2 ^ 63 - 512 ≤ whole.toInt := by
    rw [← rounded]
    exact_mod_cast Iff.rfl
  have atMost : nearest ≤ 2 ^ 63 := by
    have le := isNearest.le_of_le isInteger (rational?_finite false toRat_power63)
      (by rw [signed]; exact_mod_cast (show whole.toInt ≤ 2 ^ 63 by omega))
    rw [signed] at le
    exact_mod_cast le
  have atLeast : -2 ^ 63 ≤ nearest := by
    have ge := isNearest.ge_of_ge isInteger (rational?_finite true toRat_power63)
      (by rw [signed]; exact_mod_cast (show -2 ^ 63 ≤ whole.toInt by omega))
    rw [signed] at ge
    exact_mod_cast ge
  refine ⟨nearest, isInteger, isPower, ?_⟩
  rw [InInt64]
  omega

end Numeric

/-! ## Sending the messages -/

section Sends

variable {World : Type} (context : Context World)

theorem answersWith_doubleValue (integer : Int64) :
    AnswersWith context (.int integer) "doubleValue" none (.ok (.double (.ofInt integer.toInt))) := by
  have found := @Directory.find?_of_entry _ (.int integer) "doubleValue" context.directory _ _ rfl
    (by simp [Numeric.arithmeticMessages, Numeric.arithmetic]) (List.mem_of_getElem? (i := 5) rfl)
  refine answersWith_of_computingUnary found rfl rfl ?_
  rintro _ ⟨⟩
  rfl

theorem answersWith_intValue (number : Binary64) :
    AnswersWith context (.double number) "intValue" none (Numeric.intValue number) := by
  have found := @Directory.find?_of_entry _ (.double number) "intValue" context.directory _ _ rfl
    (by simp [Numeric.arithmeticMessages, Numeric.arithmetic]) (List.mem_of_getElem? (i := 5) rfl)
  refine answersWith_of_computingUnary found rfl rfl fun value isValue => ?_
  rw [Numeric.intValue] at isValue
  split at isValue
  · split at isValue
    · cases isValue
      rfl
    · cases isValue
  · cases isValue

/-- **A number is truncated exactly, and only within 64 bits.** It answers with the integer that it
truncates to if this fits in 64 bits, and fails otherwise; then it is no finite number or its whole
part is too large. A whole number that is converted to the nearest number and back stays what it is
up to the 53rd power of two. Beyond, it becomes the integer of the nearest number; there is none of
64 bits exactly if the nearest number is the 63rd power of two, which is so for the last 512 whole
numbers. -/
theorem intValue_truncates :
    (∀ number : Binary64, ∃ reply, AnswersWith context (.double number) "intValue" none reply ∧
      (∀ whole : Int64, reply = .ok (.int whole) ↔ number.TruncatesTo whole.toInt) ∧
      (reply = .error (.notRepresentable number) ↔
        ∀ integer, number.TruncatesTo integer → ¬ (-2 ^ 63 ≤ integer ∧ integer < 2 ^ 63))) ∧
      ∀ whole : Int64, ∃ number reply, number.IsNearest whole.toInt ∧
        AnswersWith context (.int whole) "doubleValue" none (.ok (.double number)) ∧
        AnswersWith context (.double number) "intValue" none reply ∧
        (whole.toInt.natAbs ≤ 2 ^ 53 → reply = .ok (.int whole)) ∧
        (number.rational? = some (2 ^ 63) ↔ 2 ^ 63 - 512 ≤ whole.toInt) ∧
        if 2 ^ 63 - 512 ≤ whole.toInt then reply = .error (.notRepresentable number)
        else ∃ nearest : Int64, reply = .ok (.int nearest) ∧
          number.rational? = some (nearest.toInt : ℚ) := by
  have range : ∀ integer : ℤ, Decimal.InInt64 integer ↔ -2 ^ 63 ≤ integer ∧ integer < 2 ^ 63 := by
    intro integer
    rw [Decimal.InInt64]
    omega
  constructor
  · intro number
    refine ⟨Numeric.intValue number, answersWith_intValue context number,
      fun whole => Numeric.intValue_eq_ok_iff, ?_⟩
    simp only [Numeric.intValue_eq_error_iff, range]
  · intro whole
    obtain ⟨nearest, isInteger, isPower, fits⟩ := Numeric.exists_integer_ofInt64 whole
    have truncates := Numeric.truncatesTo_of_rational? isInteger
    refine ⟨.ofInt whole.toInt, Numeric.intValue (.ofInt whole.toInt),
      Numeric.isNearest_ofInt64 whole, answersWith_doubleValue context whole,
      answersWith_intValue context _, ?small, ?power, ?reply⟩
    case small =>
      intro small
      have exact := Binary64.rational?_ofInt_of_le small
      exact Numeric.intValue_eq_ok_iff.mpr (Numeric.truncatesTo_of_rational? exact)
    case power =>
      rw [← isPower, isInteger, Option.some.injEq]
      exact_mod_cast Iff.rfl
    case reply =>
      split
      · rename_i rounded
        apply Numeric.intValue_of_not_fitting
        intro integer alsoTruncates inRange
        obtain rfl := Numeric.TruncatesTo.unique truncates alsoTruncates
        exact absurd (fits.mp inRange) (not_lt.mpr rounded)
      · rename_i kept
        have inRange := fits.mpr (not_le.mp kept)
        refine ⟨Int64.ofInt nearest, Numeric.intValue_of_fitting truncates inRange, ?_⟩
        rw [Numeric.toInt_ofInt_of_fits inRange, isInteger]

end Sends

/-- A negative number loses its fraction and not a number has no whole number. The 53rd power of two
comes back, the greatest whole number does not. -/
theorem intValue_truncates_bounds :
    let fraction : Binary64 := .finite true ⟨6192449487634432, -51, by decide⟩
    let power : Int64 := 9007199254740992
    fraction.rational? = some (-11 / 4) ∧
      AnswersWith plainContext (.double fraction) "intValue" none (.ok (.int (-2))) ∧
      AnswersWith plainContext (.double .nan) "intValue" none (.error (.notRepresentable .nan)) ∧
      power.toInt.natAbs ≤ 2 ^ 53 ∧ 2 ^ 63 - 512 ≤ Int64.maxValue.toInt ∧
      (∃ number : Binary64, number.IsNearest power.toInt ∧
        (send plainContext (.int power) "doubleValue" none ()).outcome = .value (.double number) ∧
        (send plainContext (.double number) "intValue" none ()).outcome = .value (.int power)) ∧
      ∃ number : Binary64, number.rational? = some (2 ^ 63) ∧
        AnswersWith plainContext (.double number) "intValue" none
          (.error (.notRepresentable number)) := by
  intro fraction power
  have isFraction : fraction.rational? = some (-11 / 4) := by
    rw [Binary64.rational?, Binary64.signed, Magnitude.toRat]
    norm_num
  have truncates : fraction.TruncatesTo (-2 : Int64).toInt := by
    refine ⟨_, isFraction, ?_⟩
    have negative : (-11 / 4 : ℚ) < 0 := by norm_num
    rw [Binary64.towardZero, if_pos negative, Int.ceil_eq_iff]
    have integer : (-2 : Int64).toInt = -2 := by decide
    rw [integer]
    norm_num
  have small : power.toInt.natAbs ≤ 2 ^ 53 := by decide
  have large : 2 ^ 63 - 512 ≤ Int64.maxValue.toInt := by decide
  obtain ⟨numbers, wholes⟩ := intValue_truncates plainContext
  obtain ⟨_, truncated, isWhole, -⟩ := numbers fraction
  obtain ⟨_, missing, -, isMissing⟩ := numbers .nan
  obtain ⟨near, _, nearest, there, back, same, -, -⟩ := wholes power
  obtain ⟨far, _, -, -, lost, -, isPower, isLost⟩ := wholes Int64.maxValue
  rw [(isWhole (-2)).mpr truncates] at truncated
  rw [isMissing.mpr (by rintro _ ⟨_, ⟨⟩, _⟩)] at missing
  rw [same small] at back
  rw [if_pos large] at isLost
  rw [isLost] at lost
  exact ⟨isFraction, truncated, missing, small, large,
    ⟨near, nearest, there.outcome rfl (), back.outcome rfl ()⟩, far, isPower.mpr large, lost⟩

end MessageExpr
