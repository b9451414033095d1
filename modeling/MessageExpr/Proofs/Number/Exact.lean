import MessageExpr.Number.Binary64
import Mathlib.Algebra.Order.Field.Power
import Mathlib.Data.Nat.Log
import Mathlib.Tactic.FieldSimp
import Mathlib.Tactic.Linarith
import Mathlib.Tactic.NormNum
import Mathlib.Tactic.Positivity
import Mathlib.Tactic.Ring

/-!
# Exact arithmetic

A finite number has a rational value (`Binary64.rational?`). The exponent on which a rational is
rounded is the one under which it has 53 bits before the point (`roundingExponent_spec`), so a
quotient that is the value of a magnitude is rounded to this magnitude (`round_eq_some`).

So an operation whose exact result is the absolute value of a magnitude does not round. In
particular all integers of 53 bits have a number (`rational?_ofInt`), and a number whose value is an
integer is its own whole part (`truncate_of_integer`).
-/

set_option autoImplicit false

namespace MessageExpr

namespace Magnitude

/-- The value of a magnitude. -/
def toRat (magnitude : Magnitude) : ℚ := magnitude.significand * 2 ^ magnitude.exponent

theorem cast_pow_two (power : ℕ) : ((Nat.pow 2 power : ℕ) : ℚ) = 2 ^ (power : ℤ) := by
  rw [zpow_natCast]
  exact Nat.cast_pow 2 power

/-! ## Quotients -/

theorem toQuotient_spec (magnitude : Magnitude) :
    0 < magnitude.toQuotient.2 ∧
      (magnitude.toQuotient.1 : ℚ) / magnitude.toQuotient.2 = magnitude.toRat := by
  rw [toQuotient, toRat]
  cases magnitude.exponent with
  | ofNat shift =>
      refine ⟨Nat.one_pos, ?_⟩
      rw [Nat.cast_mul, cast_pow_two, Nat.cast_one, div_one]
      rfl
  | negSucc shift =>
      refine ⟨Nat.pow_pos (by decide), ?_⟩
      rw [cast_pow_two, Int.negSucc_eq, zpow_neg, div_eq_mul_inv]
      rfl

theorem overPowerOfTwo_spec (numerator : ℕ) {denominator : ℕ} (positive : 0 < denominator)
    (power : ℤ) :
    let scaled := overPowerOfTwo numerator denominator power
    0 < scaled.2 ∧ (scaled.1 : ℚ) / scaled.2 = numerator / denominator / 2 ^ power := by
  cases power with
  | ofNat shift =>
      refine ⟨Nat.mul_pos positive (Nat.pow_pos (by decide)), ?_⟩
      change (numerator : ℚ) / ((denominator * Nat.pow 2 shift : ℕ) : ℚ) = _
      rw [Nat.cast_mul, cast_pow_two, div_div]
      rfl
  | negSucc shift =>
      refine ⟨positive, ?_⟩
      change ((numerator * Nat.pow 2 (shift + 1) : ℕ) : ℚ) / denominator = _
      rw [Nat.cast_mul, cast_pow_two, Int.negSucc_eq, zpow_neg, div_inv_eq_mul, mul_div_right_comm]
      rfl

theorem eq_mul_of_whole {numerator denominator whole : ℕ} (positive : 0 < denominator)
    (exact : (numerator : ℚ) / denominator = whole) : numerator = whole * denominator := by
  have nonzero : (denominator : ℚ) ≠ 0 := Nat.cast_ne_zero.mpr (Nat.ne_of_gt positive)
  rw [div_eq_iff nonzero] at exact
  exact_mod_cast exact

/-- A quotient that is whole is not rounded. -/
theorem roundHalfEven_of_whole {numerator denominator : ℕ} (whole : ℕ) (positive : 0 < denominator)
    (exact : (numerator : ℚ) / denominator = whole) :
    roundHalfEven numerator denominator = whole := by
  have product := eq_mul_of_whole positive exact
  have quotient : numerator / denominator = whole := by
    rw [product, Nat.mul_div_cancel _ positive]
  have remainder : numerator % denominator = 0 := by
    rw [product, Nat.mul_mod_left]
  rw [roundHalfEven, quotient, remainder, Nat.mul_zero, if_pos positive]

/-- The whole part of a magnitude that is whole, and the nearest natural to it, are its value. -/
theorem whole_of_toRat {magnitude : Magnitude} {natural : ℕ}
    (isWhole : magnitude.toRat = natural) :
    magnitude.whole = natural ∧
      (2 * magnitude.toQuotient.1 + magnitude.toQuotient.2) / (2 * magnitude.toQuotient.2) =
        natural := by
  obtain ⟨positive, isValue⟩ := magnitude.toQuotient_spec
  have product := eq_mul_of_whole positive (isValue.trans isWhole)
  constructor
  · rw [whole, product, Nat.mul_div_cancel _ positive]
  · rw [product]
    apply Nat.div_eq_of_lt_le
    · nlinarith
    · nlinarith

/-! ## The exponent of a rational -/

/-- The power of two under which a positive rational has 53 bits before the point. -/
def IsExponentOf (exponent : ℤ) (value : ℚ) : Prop :=
  2 ^ (exponent + 52) ≤ value ∧ value < 2 ^ (exponent + 53)

theorem IsExponentOf.unique {exponent other : ℤ} {value : ℚ}
    (first : IsExponentOf exponent value) (second : IsExponentOf other value) :
    exponent = other := by
  have base : (1 : ℚ) < 2 := by norm_num
  have below := (zpow_lt_zpow_iff_right₀ base).mp (first.1.trans_lt second.2)
  have above := (zpow_lt_zpow_iff_right₀ base).mp (second.1.trans_lt first.2)
  omega

/-- A natural lies between two powers of two. -/
theorem log2_spec {natural : ℕ} (positive : 0 < natural) :
    (2 : ℚ) ^ (natural.log2 : ℤ) ≤ natural ∧ (natural : ℚ) < 2 ^ ((natural.log2 : ℤ) + 1) := by
  constructor
  · rw [← cast_pow_two]
    exact Nat.cast_le.mpr (Nat.log2_self_le (Nat.ne_of_gt positive))
  · have successor : (natural.log2 : ℤ) + 1 = ((natural.log2 + 1 : ℕ) : ℤ) := by simp
    rw [successor, ← cast_pow_two]
    exact Nat.cast_lt.mpr Nat.lt_log2_self

/-- The lengths of a numerator and a denominator tell the size of the quotient up to one place. -/
theorem quotient_bounds {numerator denominator : ℕ} (positive : 0 < numerator)
    (alsoPositive : 0 < denominator) {places : ℤ}
    (isPlaces : places = (numerator.log2 : ℤ) - denominator.log2) :
    (2 : ℚ) ^ (places - 1) ≤ numerator / denominator ∧
      (numerator / denominator : ℚ) < 2 ^ (places + 1) := by
  have two : (2 : ℚ) ≠ 0 := two_ne_zero
  have denominatorPositive : (0 : ℚ) < denominator := Nat.cast_pos.mpr alsoPositive
  obtain ⟨numeratorAbove, numeratorBelow⟩ := log2_spec positive
  obtain ⟨denominatorAbove, denominatorBelow⟩ := log2_spec alsoPositive
  constructor
  · rw [le_div_iff₀ denominatorPositive]
    calc (2 : ℚ) ^ (places - 1) * denominator
        ≤ 2 ^ (places - 1) * 2 ^ ((denominator.log2 : ℤ) + 1) := by gcongr
      _ = 2 ^ (numerator.log2 : ℤ) := by
        rw [← zpow_add₀ two]
        congr 1
        omega
      _ ≤ numerator := numeratorAbove
  · rw [div_lt_iff₀ denominatorPositive]
    calc (numerator : ℚ) < 2 ^ ((numerator.log2 : ℤ) + 1) := numeratorBelow
      _ = 2 ^ (places + 1) * 2 ^ (denominator.log2 : ℤ) := by
        rw [← zpow_add₀ two]
        congr 1
        omega
      _ ≤ 2 ^ (places + 1) * denominator := by gcongr

/-- **The exponent of a rational is found from the lengths of its parts**, unless it is below the
least exponent. -/
theorem roundingExponent_spec {numerator denominator : ℕ} (positive : 0 < numerator)
    (alsoPositive : 0 < denominator) :
    ∃ exponent, IsExponentOf exponent (numerator / denominator) ∧
      roundingExponent numerator denominator = max (-1074) exponent := by
  obtain ⟨upper, isUpper⟩ :
      ∃ upper : ℤ, upper = (numerator.log2 : ℤ) - denominator.log2 - 52 := ⟨_, rfl⟩
  obtain ⟨above, below⟩ := quotient_bounds positive alsoPositive
    (show upper + 52 = (numerator.log2 : ℤ) - denominator.log2 by omega)
  obtain ⟨halvedPositive, halved⟩ := overPowerOfTwo_spec numerator alsoPositive (upper - 1)
  have unfolded : roundingExponent numerator denominator = max (-1074)
      (if (overPowerOfTwo numerator denominator (upper - 1)).1 <
          Nat.pow 2 53 * (overPowerOfTwo numerator denominator (upper - 1)).2
        then upper - 1 else upper) := by
    rw [isUpper]
    rfl
  have power : (0 : ℚ) < 2 ^ (upper - 1) := by positivity
  have shifted : (2 : ℚ) ^ ((53 : ℕ) : ℤ) * 2 ^ (upper - 1) = 2 ^ (upper + 52) := by
    rw [← zpow_add₀ two_ne_zero]
    congr 1
    omega
  have fits : (overPowerOfTwo numerator denominator (upper - 1)).1 <
      Nat.pow 2 53 * (overPowerOfTwo numerator denominator (upper - 1)).2 ↔
        (numerator / denominator : ℚ) < 2 ^ (upper + 52) := by
    rw [← @Nat.cast_lt ℚ, Nat.cast_mul, cast_pow_two,
      ← div_lt_iff₀ (Nat.cast_pos.mpr halvedPositive), halved, div_lt_iff₀ power, shifted]
  rw [unfolded]
  split
  · rename_i short
    refine ⟨upper - 1, ⟨?_, ?_⟩, rfl⟩
    · exact (show upper + 52 - 1 = upper - 1 + 52 by omega) ▸ above
    · exact (show upper + 52 = upper - 1 + 53 by omega) ▸ fits.mp short
  · rename_i long
    refine ⟨upper, ⟨?_, ?_⟩, rfl⟩
    · exact not_lt.mp (mt fits.mpr long)
    · exact (show upper + 52 + 1 = upper + 53 by omega) ▸ below

/-! ## Exact quotients -/

theorem toRat_nonneg (magnitude : Magnitude) : 0 ≤ magnitude.toRat := by
  rw [toRat]
  positivity

theorem eq_zero_of_significand {magnitude : Magnitude} (none : magnitude.significand = 0) :
    magnitude = zero := by
  obtain ⟨significand, exponent, small, least, greatest, normal⟩ := magnitude
  obtain rfl : significand = 0 := none
  rcases normal with normal | rfl
  · exact absurd normal (by decide)
  · rfl

theorem toRat_eq_zero_iff {magnitude : Magnitude} : magnitude.toRat = 0 ↔ magnitude = zero := by
  have power : (2 : ℚ) ^ magnitude.exponent ≠ 0 := zpow_ne_zero _ two_ne_zero
  rw [toRat, mul_eq_zero, or_iff_left power, Nat.cast_eq_zero]
  constructor
  · exact eq_zero_of_significand
  · rintro rfl
    rfl

theorem toRat_zero : zero.toRat = 0 :=
  toRat_eq_zero_iff.mpr rfl

/-- **The exponent of a magnitude is the one on which its value is rounded.** -/
theorem roundingExponent_of_toRat {magnitude : Magnitude} {numerator denominator : ℕ}
    (positive : 0 < numerator) (alsoPositive : 0 < denominator)
    (isValue : (numerator : ℚ) / denominator = magnitude.toRat) :
    roundingExponent numerator denominator = magnitude.exponent := by
  obtain ⟨exponent, found, isExponent⟩ := roundingExponent_spec positive alsoPositive
  obtain ⟨small, least, -, normal⟩ := magnitude.canonical
  have power : (0 : ℚ) < 2 ^ magnitude.exponent := by positivity
  have shift : ∀ places : ℕ, ((Nat.pow 2 places : ℕ) : ℚ) * 2 ^ magnitude.exponent =
      2 ^ (magnitude.exponent + places) := by
    intro places
    rw [cast_pow_two, ← zpow_add₀ two_ne_zero, add_comm]
  rw [isValue] at found
  have below : magnitude.toRat < 2 ^ (magnitude.exponent + 53) := by
    rw [toRat]
    exact (mul_lt_mul_of_pos_right (Nat.cast_lt.mpr small) power).trans_eq (shift 53)
  rcases normal with normal | isLeast
  · have above : 2 ^ (magnitude.exponent + 52) ≤ magnitude.toRat := by
      rw [toRat]
      exact (shift 52).symm.trans_le (mul_le_mul_of_nonneg_right (Nat.cast_le.mpr normal) power.le)
    rw [isExponent, found.unique ⟨above, below⟩, max_eq_right least]
  · -- A magnitude with the least exponent may have fewer places.
    have base : (1 : ℚ) < 2 := by norm_num
    have small := (zpow_lt_zpow_iff_right₀ base).mp (found.1.trans_lt below)
    rw [isExponent, isLeast, max_eq_left (by omega)]

/-- **A quotient that is the value of a magnitude is rounded to this magnitude.** -/
theorem round_eq_some {magnitude : Magnitude} {numerator denominator : ℕ}
    (positive : 0 < denominator) (isValue : (numerator : ℚ) / denominator = magnitude.toRat) :
    round numerator denominator = some magnitude := by
  rcases Nat.eq_zero_or_pos numerator with none | some
  · have isZero : magnitude = zero := by
      rw [← toRat_eq_zero_iff, ← isValue, none, Nat.cast_zero, zero_div]
    rw [round, if_pos none, isZero]
  · have power : (2 : ℚ) ^ magnitude.exponent ≠ 0 := zpow_ne_zero _ two_ne_zero
    obtain ⟨scaledPositive, scaled⟩ := overPowerOfTwo_spec numerator positive magnitude.exponent
    have whole := roundHalfEven_of_whole magnitude.significand scaledPositive
      (by rw [scaled, isValue, toRat, mul_div_cancel_right₀ _ power])
    have small : magnitude.significand ≠ Nat.pow 2 53 := Nat.ne_of_lt magnitude.canonical.1
    rw [round, roundingExponent_of_toRat some positive isValue, whole]
    simp only [if_neg (Nat.ne_of_gt some), if_neg small]
    rw [ofParts?, dif_pos magnitude.canonical]

/-- **Every natural of 53 bits is the value of a magnitude.** -/
theorem exists_toRat_eq_natural {natural : ℕ} (small : natural < Nat.pow 2 53) :
    ∃ magnitude : Magnitude, magnitude.toRat = natural := by
  rcases Nat.eq_zero_or_pos natural with rfl | positive
  · exact ⟨zero, by rw [toRat_zero, Nat.cast_zero]⟩
  · have places : natural.log2 ≤ 52 := by
      have below := (Nat.log2_lt (Nat.ne_of_gt positive)).mpr small
      omega
    obtain ⟨missing, isMissing⟩ : ∃ missing, missing = 52 - natural.log2 := ⟨_, rfl⟩
    have above : Nat.pow 2 52 ≤ natural * Nat.pow 2 missing := by
      have length : 52 = natural.log2 + missing := by omega
      calc Nat.pow 2 52 = Nat.pow 2 natural.log2 * Nat.pow 2 missing :=
            (congrArg (Nat.pow 2) length).trans (Nat.pow_add 2 _ _)
        _ ≤ natural * Nat.pow 2 missing :=
            Nat.mul_le_mul_right _ (Nat.log2_self_le (Nat.ne_of_gt positive))
    have below : natural * Nat.pow 2 missing < Nat.pow 2 53 := by
      have length : natural.log2 + 1 + missing = 53 := by omega
      calc natural * Nat.pow 2 missing < Nat.pow 2 (natural.log2 + 1) * Nat.pow 2 missing :=
            Nat.mul_lt_mul_of_pos_right Nat.lt_log2_self (Nat.pow_pos (by decide))
        _ = Nat.pow 2 53 := (Nat.pow_add 2 _ _).symm.trans (congrArg (Nat.pow 2) length)
    refine ⟨⟨natural * Nat.pow 2 missing, -missing, below, by omega, by omega, .inl above⟩, ?_⟩
    rw [toRat, Nat.cast_mul, cast_pow_two, mul_assoc, ← zpow_add₀ two_ne_zero, add_neg_cancel,
      zpow_zero, mul_one]

end Magnitude

namespace Binary64

/-- A magnitude's value with a sign. -/
def signed (negative : Bool) (value : ℚ) : ℚ := if negative then -value else value

/-- The value of a finite number. -/
def rational? : Binary64 → Option ℚ
  | .finite negative magnitude => some (signed negative magnitude.toRat)
  | _ => none

theorem rational?_eq_some_iff {number : Binary64} {value : ℚ} :
    number.rational? = some value ↔ ∃ negative magnitude,
      number = .finite negative magnitude ∧ signed negative magnitude.toRat = value := by
  cases number <;> simp [rational?]

theorem abs_signed (negative : Bool) {value : ℚ} (nonnegative : 0 ≤ value) :
    |signed negative value| = value := by
  cases negative
  · exact abs_of_nonneg nonnegative
  · exact (abs_neg _).trans (abs_of_nonneg nonnegative)

theorem signed_natAbs (integer : ℤ) :
    signed (decide (integer < 0)) integer.natAbs = integer := by
  rw [signed]
  split
  · rename_i negative
    rw [Nat.cast_natAbs, abs_of_neg (of_decide_eq_true negative), Int.cast_neg, neg_neg]
  · rename_i nonnegative
    rw [Nat.cast_natAbs, abs_of_nonneg (not_lt.mp (mt decide_eq_true nonnegative))]

theorem signed_div (negative : Bool) (value other : ℚ) :
    signed negative (value / other) = signed negative value / other := by
  cases negative
  · rfl
  · exact (neg_div other value).symm

theorem signed_xor (left right : Bool) (value other : ℚ) :
    signed (left ^^ right) (value * other) = signed left value * signed right other := by
  cases left <;> cases right <;> simp [signed]

theorem signed_inv (negative : Bool) (value : ℚ) :
    signed negative value⁻¹ = (signed negative value)⁻¹ := by
  cases negative
  · rfl
  · exact neg_inv

theorem ofQuotient_of_toRat (negative : Bool) {magnitude : Magnitude} {numerator denominator : ℕ}
    (positive : 0 < denominator) (isValue : (numerator : ℚ) / denominator = magnitude.toRat) :
    ofQuotient negative numerator denominator = .finite negative magnitude := by
  rw [ofQuotient, Magnitude.round_eq_some positive isValue]

/-- **A signed quotient is not rounded if its absolute value is that of a magnitude.** -/
theorem rational?_ofQuotient {negative : Bool} {numerator denominator : ℕ}
    (positive : 0 < denominator) {value : ℚ}
    (isValue : signed negative (numerator / denominator) = value) {magnitude : Magnitude}
    (isExact : |value| = magnitude.toRat) :
    (ofQuotient negative numerator denominator).rational? = some value := by
  have quotient : (numerator : ℚ) / denominator = magnitude.toRat := by
    rw [← isExact, ← isValue, abs_signed negative (by positivity)]
  rw [ofQuotient_of_toRat negative positive quotient, rational?, ← quotient, isValue]

/-! ## Integers -/

/-- **A number whose value is an integer truncates and rounds to it and is its own whole part.** -/
theorem truncate_of_integer {number : Binary64} {integer : ℤ}
    (isInteger : number.rational? = some (integer : ℚ)) :
    number.truncate? = some integer ∧ number.round? = some integer ∧ number.truncate = number := by
  obtain ⟨negative, magnitude, rfl, isValue⟩ := rational?_eq_some_iff.mp isInteger
  have isWhole : magnitude.toRat = integer.natAbs := by
    rw [← abs_signed negative magnitude.toRat_nonneg, isValue, Nat.cast_natAbs, Int.cast_abs]
  have hasSign : (if negative then -(integer.natAbs : ℤ) else integer.natAbs) = integer := by
    have sameValue : ((if negative then -(integer.natAbs : ℤ) else integer.natAbs : ℤ) : ℚ) =
        integer := by
      rw [← isValue, isWhole, signed]
      cases negative <;> simp
    exact Int.cast_injective sameValue
  obtain ⟨whole, nearest⟩ := Magnitude.whole_of_toRat isWhole
  refine ⟨?_, ?_, ?_⟩
  · rw [truncate?, whole, hasSign]
  · rw [round?]
    simp only [nearest, hasSign]
  · rw [truncate, whole]
    exact ofQuotient_of_toRat negative Nat.one_pos (by rw [isWhole, Nat.cast_one, div_one])

/-- The absolute value of an integer of 53 bits is that of a magnitude. -/
theorem exists_toRat_eq_abs {integer : ℤ} (small : integer.natAbs < Nat.pow 2 53) :
    ∃ magnitude : Magnitude, |(integer : ℚ)| = magnitude.toRat := by
  obtain ⟨magnitude, isValue⟩ := Magnitude.exists_toRat_eq_natural small
  exact ⟨magnitude, by rw [isValue, Nat.cast_natAbs, Int.cast_abs]⟩

/-- **An integer of 53 bits has a number.** -/
theorem rational?_ofInt {integer : ℤ} (small : integer.natAbs < Nat.pow 2 53) :
    (ofInt integer).rational? = some (integer : ℚ) := by
  obtain ⟨magnitude, isExact⟩ := exists_toRat_eq_abs small
  refine rational?_ofQuotient Nat.one_pos ?_ isExact
  rw [Nat.cast_one, div_one, signed_natAbs]

/-! ## Arithmetic

An operation does not round if the absolute value of its exact result is that of a magnitude.
-/

theorem signedQuotient_spec (negative : Bool) (magnitude : Magnitude) :
    0 < (signedQuotient negative magnitude).2 ∧
      ((signedQuotient negative magnitude).1 : ℚ) / (signedQuotient negative magnitude).2 =
        signed negative magnitude.toRat := by
  obtain ⟨positive, isValue⟩ := magnitude.toQuotient_spec
  refine ⟨positive, ?_⟩
  rw [← isValue, signedQuotient, signed]
  cases negative
  · simp
  · simp [neg_div]

theorem rational?_negate {number : Binary64} {value : ℚ} (isValue : number.rational? = some value) :
    number.negate.rational? = some (-value) := by
  obtain ⟨negative, magnitude, rfl, rfl⟩ := rational?_eq_some_iff.mp isValue
  cases negative <;> simp [negate, rational?, signed]

section Arithmetic

variable {left right : Binary64} {leftValue rightValue : ℚ}
  (isLeft : left.rational? = some leftValue) (isRight : right.rational? = some rightValue)
include isLeft isRight

theorem rational?_multiply {magnitude : Magnitude}
    (isExact : |leftValue * rightValue| = magnitude.toRat) :
    (left.multiply right).rational? = some (leftValue * rightValue) := by
  obtain ⟨leftNegative, leftMagnitude, rfl, rfl⟩ := rational?_eq_some_iff.mp isLeft
  obtain ⟨rightNegative, rightMagnitude, rfl, rfl⟩ := rational?_eq_some_iff.mp isRight
  obtain ⟨leftPositive, leftIs⟩ := leftMagnitude.toQuotient_spec
  obtain ⟨rightPositive, rightIs⟩ := rightMagnitude.toQuotient_spec
  change (ofQuotient (leftNegative ^^ rightNegative)
    (leftMagnitude.toQuotient.1 * rightMagnitude.toQuotient.1)
    (leftMagnitude.toQuotient.2 * rightMagnitude.toQuotient.2)).rational? = _
  refine rational?_ofQuotient (Nat.mul_pos leftPositive rightPositive) ?_ isExact
  rw [Nat.cast_mul, Nat.cast_mul, mul_div_mul_comm, leftIs, rightIs, signed_xor]

theorem rational?_divide (nonzero : rightValue ≠ 0) {magnitude : Magnitude}
    (isExact : |leftValue / rightValue| = magnitude.toRat) :
    (left.divide right).rational? = some (leftValue / rightValue) := by
  obtain ⟨leftNegative, leftMagnitude, rfl, rfl⟩ := rational?_eq_some_iff.mp isLeft
  obtain ⟨rightNegative, rightMagnitude, rfl, rfl⟩ := rational?_eq_some_iff.mp isRight
  obtain ⟨leftPositive, leftIs⟩ := leftMagnitude.toQuotient_spec
  obtain ⟨rightPositive, rightIs⟩ := rightMagnitude.toQuotient_spec
  have notZero : rightMagnitude.toRat ≠ 0 := by
    rintro isZero
    rw [isZero] at nonzero
    cases rightNegative <;> exact nonzero (by simp [signed])
  have significand : rightMagnitude.significand ≠ 0 := fun none =>
    notZero (Magnitude.toRat_eq_zero_iff.mpr (Magnitude.eq_zero_of_significand none))
  have numerator : 0 < rightMagnitude.toQuotient.1 := by
    apply Nat.pos_of_ne_zero
    intro none
    rw [none, Nat.cast_zero, zero_div] at rightIs
    exact notZero rightIs.symm
  have divided : (finite leftNegative leftMagnitude).divide (finite rightNegative rightMagnitude) =
      ofQuotient (leftNegative ^^ rightNegative)
        (leftMagnitude.toQuotient.1 * rightMagnitude.toQuotient.2)
        (leftMagnitude.toQuotient.2 * rightMagnitude.toQuotient.1) := by
    simp only [divide, if_neg significand]
  rw [divided]
  refine rational?_ofQuotient (Nat.mul_pos leftPositive numerator) ?_ isExact
  rw [Nat.cast_mul, Nat.cast_mul, mul_div_mul_comm, leftIs, ← inv_div, rightIs, signed_xor,
    signed_inv, div_eq_mul_inv]

theorem rational?_add {magnitude : Magnitude}
    (isExact : |leftValue + rightValue| = magnitude.toRat) :
    (left.add right).rational? = some (leftValue + rightValue) := by
  obtain ⟨leftNegative, leftMagnitude, rfl, rfl⟩ := rational?_eq_some_iff.mp isLeft
  obtain ⟨rightNegative, rightMagnitude, rfl, rfl⟩ := rational?_eq_some_iff.mp isRight
  obtain ⟨leftPositive, leftIs⟩ := signedQuotient_spec leftNegative leftMagnitude
  obtain ⟨rightPositive, rightIs⟩ := signedQuotient_spec rightNegative rightMagnitude
  obtain ⟨leftQuotient, leftQuotientIs⟩ :
      ∃ quotient, signedQuotient leftNegative leftMagnitude = quotient := ⟨_, rfl⟩
  obtain ⟨rightQuotient, rightQuotientIs⟩ :
      ∃ quotient, signedQuotient rightNegative rightMagnitude = quotient := ⟨_, rfl⟩
  rw [leftQuotientIs] at leftPositive leftIs
  rw [rightQuotientIs] at rightPositive rightIs
  obtain ⟨numerator, isNumerator⟩ : ∃ numerator, numerator =
      leftQuotient.1 * rightQuotient.2 + rightQuotient.1 * leftQuotient.2 := ⟨_, rfl⟩
  have sum : (numerator : ℚ) / (leftQuotient.2 * rightQuotient.2 : ℕ) =
      signed leftNegative leftMagnitude.toRat + signed rightNegative rightMagnitude.toRat := by
    have leftNonzero : (leftQuotient.2 : ℚ) ≠ 0 := Nat.cast_ne_zero.mpr (Nat.ne_of_gt leftPositive)
    have rightNonzero : (rightQuotient.2 : ℚ) ≠ 0 :=
      Nat.cast_ne_zero.mpr (Nat.ne_of_gt rightPositive)
    rw [← leftIs, ← rightIs, div_add_div _ _ leftNonzero rightNonzero, isNumerator]
    push_cast
    ring
  rw [add, addFinite, leftQuotientIs, rightQuotientIs]
  simp only [← isNumerator]
  split
  · rename_i isZero
    rw [← sum, isZero, Int.cast_zero, zero_div, signedZero, rational?, Magnitude.toRat_zero]
    cases leftNegative && rightNegative <;> rfl
  · refine rational?_ofQuotient (Nat.mul_pos leftPositive rightPositive) ?_ isExact
    rw [signed_div, signed_natAbs, sum]

theorem rational?_subtract {magnitude : Magnitude}
    (isExact : |leftValue - rightValue| = magnitude.toRat) :
    (left.subtract right).rational? = some (leftValue - rightValue) := by
  rw [sub_eq_add_neg] at isExact ⊢
  exact rational?_add isLeft (rational?_negate isRight) isExact

end Arithmetic

end Binary64

end MessageExpr
