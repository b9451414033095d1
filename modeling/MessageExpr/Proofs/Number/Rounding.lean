import MessageExpr.Proofs.Number.Exact
import Mathlib.Algebra.Order.Floor.Semifield
import Mathlib.Data.Rat.Floor

/-!
# Rounding to the nearest number

A rational is divided by the power of two on which it is rounded and then rounded to a natural, a
half to the even one. What comes out is the magnitude nearest to the rational, and of two equally
near ones that with the even significand (`Magnitude.round_isNearest`): a magnitude with a smaller
exponent lies too low to be as near.

Numbers are compared by their values (`Binary64.isBelow_iff`, `Binary64.numericallyEqual_iff`). The
whole part of a number is a number, so dropping the fraction does not round (`truncate_spec`).
-/

set_option autoImplicit false

namespace MessageExpr

namespace Magnitude

/-! ## Naturals -/

/-- What is at most half a unit away is nearest, and alone so unless it is just half a unit away. -/
theorem nearest_of_half {value : ℚ} {natural : ℤ} (near : |value - natural| ≤ 1 / 2)
    (other : ℤ) :
    |value - natural| ≤ |value - other| ∧
      (|value - natural| = |value - other| → other = natural ∨ |value - natural| = 1 / 2) := by
  by_cases same : other = natural
  · exact ⟨by rw [same], fun _ => .inl same⟩
  · have apart : (1 : ℚ) ≤ |(natural : ℚ) - other| := by
      have whole : 1 ≤ |natural - other| := Int.one_le_abs (sub_ne_zero.mpr (Ne.symm same))
      exact_mod_cast whole
    have triangle := abs_sub_le (natural : ℚ) value other
    rw [abs_sub_comm (natural : ℚ) value] at triangle
    exact ⟨by linarith, fun equal => .inr (by linarith)⟩

/-- A quotient is rounded to a natural at most half a unit away, and to an even one at just half a
unit. -/
theorem roundHalfEven_spec (numerator : ℕ) {denominator : ℕ} (positive : 0 < denominator) :
    |(numerator : ℚ) / denominator - roundHalfEven numerator denominator| ≤ 1 / 2 ∧
      (|(numerator : ℚ) / denominator - roundHalfEven numerator denominator| = 1 / 2 →
        roundHalfEven numerator denominator % 2 = 0) := by
  have denominatorPositive : (0 : ℚ) < denominator := Nat.cast_pos.mpr positive
  obtain ⟨quotient, isQuotient⟩ : ∃ quotient, quotient = numerator / denominator := ⟨_, rfl⟩
  obtain ⟨remainder, isRemainder⟩ : ∃ remainder, remainder = numerator % denominator := ⟨_, rfl⟩
  obtain ⟨fraction, isFraction⟩ : ∃ fraction : ℚ, fraction * denominator = remainder :=
    ⟨remainder / denominator, div_mul_cancel₀ _ denominatorPositive.ne'⟩
  have division : (numerator : ℚ) / denominator = quotient + fraction := by
    rw [div_eq_iff denominatorPositive.ne', add_mul, isFraction, isQuotient, isRemainder]
    exact_mod_cast (Nat.div_add_mod' numerator denominator).symm
  have short : 2 * remainder < denominator ↔ fraction < 1 / 2 := by
    rw [← @Nat.cast_lt ℚ, Nat.cast_mul, ← isFraction, Nat.cast_two]
    constructor <;> intro less <;> nlinarith
  have long : denominator < 2 * remainder ↔ 1 / 2 < fraction := by
    rw [← @Nat.cast_lt ℚ, Nat.cast_mul, ← isFraction, Nat.cast_two]
    constructor <;> intro less <;> nlinarith
  have nonnegative : 0 ≤ fraction := by
    have remainderNonnegative : (0 : ℚ) ≤ remainder := Nat.cast_nonneg remainder
    nlinarith
  have proper : fraction < 1 := by
    have less : (remainder : ℚ) < denominator := by
      rw [isRemainder]
      exact Nat.cast_lt.mpr (Nat.mod_lt numerator positive)
    nlinarith
  have unfolded : roundHalfEven numerator denominator =
      if 2 * remainder < denominator then quotient
      else if denominator < 2 * remainder then quotient + 1
      else quotient + quotient % 2 := by
    rw [isQuotient, isRemainder]
    rfl
  rw [division, unfolded]
  split
  · rename_i less
    have below := short.mp less
    rw [add_sub_cancel_left, abs_of_nonneg nonnegative]
    exact ⟨below.le, fun equal => absurd equal below.ne⟩
  split
  · rename_i more
    have above := long.mp more
    rw [Nat.cast_add, Nat.cast_one, add_sub_add_left_eq_sub, abs_of_nonpos (by linarith)]
    exact ⟨by linarith, fun equal => by linarith⟩
  · rename_i notShort notLong
    have tie : fraction = 1 / 2 :=
      le_antisymm (not_lt.mp (mt long.mpr notLong)) (not_lt.mp (mt short.mpr notShort))
    rw [Nat.cast_add, add_sub_add_left_eq_sub, tie]
    refine ⟨?_, fun _ => by omega⟩
    rcases Nat.mod_two_eq_zero_or_one quotient with isEven | isOdd
    · rw [isEven]
      norm_num
    · rw [isOdd]
      norm_num

/-! ## Magnitudes -/

/-- The whole part of a magnitude is the floor of its value. -/
theorem whole_eq_floor (magnitude : Magnitude) : (magnitude.whole : ℤ) = ⌊magnitude.toRat⌋ := by
  rw [← magnitude.toQuotient_spec.2, whole, Rat.floor_natCast_div_natCast]
  rfl

/-- The whole part of a magnitude is the value of one. -/
theorem exists_toRat_eq_whole (magnitude : Magnitude) :
    ∃ other : Magnitude, other.toRat = magnitude.whole := by
  cases isExponent : magnitude.exponent with
  | ofNat shift =>
      refine ⟨magnitude, ?_⟩
      have isQuotient : magnitude.toQuotient = (magnitude.significand * Nat.pow 2 shift, 1) := by
        rw [toQuotient, isExponent]
      rw [← magnitude.toQuotient_spec.2, whole, isQuotient, Nat.div_one, Nat.cast_one, div_one]
  | negSucc shift =>
      -- The whole part has no more bits than the significand.
      have isQuotient : magnitude.toQuotient = (magnitude.significand, Nat.pow 2 (shift + 1)) := by
        rw [toQuotient, isExponent]
      apply exists_toRat_eq_natural
      rw [whole, isQuotient]
      exact (Nat.div_le_self _ _).trans_lt magnitude.canonical.1

/-- No magnitude is nearer to the value, and another one that is as near has an odd significand if
this one does not. -/
structure IsNearest (magnitude : Magnitude) (value : ℚ) : Prop where
  nearest : ∀ other : Magnitude, |value - magnitude.toRat| ≤ |value - other.toRat|
  even : ∀ other : Magnitude, |value - magnitude.toRat| = |value - other.toRat| →
    other = magnitude ∨ magnitude.significand % 2 = 0

/-- **Two magnitudes with one value are the same.** -/
theorem toRat_injective {magnitude other : Magnitude} (same : magnitude.toRat = other.toRat) :
    magnitude = other := by
  obtain ⟨positive, isValue⟩ := magnitude.toQuotient_spec
  have rounded := round_eq_some positive isValue
  rw [round_eq_some positive (isValue.trans same)] at rounded
  exact (Option.some.inj rounded).symm

/-- A rational is rounded to a multiple of a power of two, which is half that power away at most and
an even multiple at just half. The power is the least one, or the rational has 53 bits before the
point when divided by it. -/
structure RoundsTo (value : ℚ) (exponent : ℤ) (multiple : ℕ) : Prop where
  least : -1074 ≤ exponent
  near : |value / 2 ^ exponent - (multiple : ℤ)| ≤ 1 / 2
  tie : |value / 2 ^ exponent - (multiple : ℤ)| = 1 / 2 → multiple % 2 = 0
  full : exponent = -1074 ∨ (2 : ℚ) ^ (exponent + 52) ≤ value
  bounded : value < 2 ^ (exponent + 53)

/-- **What a positive quotient is rounded to.** All 54 bits of a multiple are those of the next power. -/
theorem exists_roundsTo {numerator denominator : ℕ} (positive : 0 < numerator)
    (alsoPositive : 0 < denominator) :
    ∃ exponent multiple, RoundsTo (numerator / denominator) exponent multiple ∧
      round numerator denominator =
        if multiple = Nat.pow 2 53 then ofParts? (Nat.pow 2 52) (exponent + 1)
        else ofParts? multiple exponent := by
  obtain ⟨found, ⟨above, below⟩, isExponent⟩ := roundingExponent_spec positive alsoPositive
  obtain ⟨exponent, isMaximum⟩ : ∃ exponent, exponent = max (-1074) found := ⟨_, rfl⟩
  rw [← isMaximum] at isExponent
  obtain ⟨scaledPositive, scaled⟩ := overPowerOfTwo_spec numerator alsoPositive exponent
  obtain ⟨near, tie⟩ :=
    roundHalfEven_spec (overPowerOfTwo numerator denominator exponent).1 scaledPositive
  rw [scaled] at near tie
  refine ⟨exponent, _, ⟨by omega, near, tie, ?_, ?_⟩, ?_⟩
  · rcases le_total found (-1074) with low | high
    · exact .inl (by omega)
    · obtain rfl : exponent = found := by omega
      exact .inr above
  · exact below.trans_le (zpow_le_zpow_right₀ one_le_two (by omega))
  · rw [round, isExponent]
    simp only [if_neg (Nat.ne_of_gt positive)]

section RoundsTo

variable {value : ℚ} {exponent : ℤ} {multiple : ℕ}

theorem RoundsTo.multiple_le (rounds : RoundsTo value exponent multiple) :
    multiple ≤ Nat.pow 2 53 := by
  have power : (0 : ℚ) < 2 ^ exponent := by positivity
  have quotient : value / 2 ^ exponent < 2 ^ 53 := by
    rw [div_lt_iff₀ power, mul_comm]
    have bounded := rounds.bounded
    rw [zpow_add₀ two_ne_zero] at bounded
    exact_mod_cast bounded
  have above := (abs_le.mp rounds.near).1
  rw [Int.cast_natCast] at above
  have small : (multiple : ℚ) < ((Nat.pow 2 53 + 1 : ℕ) : ℚ) := by
    have bound : ((Nat.pow 2 53 + 1 : ℕ) : ℚ) = 2 ^ 53 + 1 := by norm_num
    rw [bound]
    linarith
  exact Nat.le_of_lt_succ (Nat.cast_lt.mp small)

theorem RoundsTo.le_multiple (rounds : RoundsTo value exponent multiple)
    (full : (2 : ℚ) ^ (exponent + 52) ≤ value) : Nat.pow 2 52 ≤ multiple := by
  have power : (0 : ℚ) < 2 ^ exponent := by positivity
  have quotient : 2 ^ 52 ≤ value / 2 ^ exponent := by
    rw [le_div_iff₀ power, mul_comm]
    rw [zpow_add₀ two_ne_zero] at full
    exact_mod_cast full
  have below := (abs_le.mp rounds.near).2
  rw [Int.cast_natCast] at below
  have large : ((Nat.pow 2 52 : ℕ) : ℚ) < ((multiple + 1 : ℕ) : ℚ) := by
    have bound : ((Nat.pow 2 52 : ℕ) : ℚ) = 2 ^ 52 := by norm_num
    rw [bound, Nat.cast_add, Nat.cast_one]
    linarith
  exact Nat.le_of_lt_succ (Nat.cast_lt.mp large)

/-- How far a value is from a multiple of a power. -/
theorem abs_sub_multiple (value : ℚ) (exponent : ℤ) (multiple : ℚ) :
    |value - multiple * 2 ^ exponent| = |value / 2 ^ exponent - multiple| * 2 ^ exponent := by
  have power : (0 : ℚ) < 2 ^ exponent := by positivity
  rw [← abs_of_pos power, ← abs_mul, abs_of_pos power, sub_mul, div_mul_cancel₀ _ power.ne']

/-- No multiple of the power is nearer than the one that a value is rounded to. -/
theorem RoundsTo.nearest_multiple (rounds : RoundsTo value exponent multiple) (other : ℤ) :
    |value - multiple * 2 ^ exponent| ≤ |value - other * 2 ^ exponent| ∧
      (|value - multiple * 2 ^ exponent| = |value - other * 2 ^ exponent| →
        other = multiple ∨ multiple % 2 = 0) := by
  have power : (0 : ℚ) < 2 ^ exponent := by positivity
  obtain ⟨nearest, equal⟩ := nearest_of_half rounds.near other
  rw [Int.cast_natCast] at nearest equal
  rw [abs_sub_multiple, abs_sub_multiple]
  refine ⟨mul_le_mul_of_nonneg_right nearest power.le, fun same => ?_⟩
  rcases equal (mul_right_cancel₀ power.ne' same) with isMultiple | half
  · exact .inl isMultiple
  · exact .inr (rounds.tie half)

/-- A magnitude is a multiple of each power up to its own. -/
theorem exists_multiple {magnitude : Magnitude} (low : exponent ≤ magnitude.exponent) :
    ∃ multiple : ℕ, magnitude.toRat = multiple * 2 ^ exponent := by
  obtain ⟨shift, isShift⟩ := Int.le.dest low
  refine ⟨magnitude.significand * Nat.pow 2 shift, ?_⟩
  rw [toRat, ← isShift, zpow_add₀ two_ne_zero, Nat.cast_mul, cast_pow_two]
  ring

theorem toRat_lt (magnitude : Magnitude) : magnitude.toRat < 2 ^ (magnitude.exponent + 53) := by
  have power : (0 : ℚ) < 2 ^ magnitude.exponent := by positivity
  have small : (magnitude.significand : ℚ) < (Nat.pow 2 53 : ℕ) :=
    Nat.cast_lt.mpr magnitude.canonical.1
  rw [cast_pow_two] at small
  rw [toRat, add_comm, zpow_add₀ two_ne_zero]
  exact mul_lt_mul_of_pos_right small power

/-- **The multiple that a value is rounded to is the nearest magnitude.** -/
theorem RoundsTo.isNearest (rounds : RoundsTo value exponent multiple) {magnitude : Magnitude}
    (isMultiple : magnitude.toRat = multiple * 2 ^ exponent)
    (even : multiple % 2 = 0 → magnitude.significand % 2 = 0) : magnitude.IsNearest value := by
  have nearer : ∀ other : Magnitude, |value - magnitude.toRat| ≤ |value - other.toRat| ∧
      (|value - magnitude.toRat| = |value - other.toRat| →
        other = magnitude ∨ magnitude.significand % 2 = 0) := by
    intro other
    rw [isMultiple]
    by_cases low : exponent ≤ other.exponent
    · obtain ⟨otherMultiple, isOther⟩ := exists_multiple low
      obtain ⟨nearest, equal⟩ := rounds.nearest_multiple otherMultiple
      rw [Int.cast_natCast, ← isOther] at nearest equal
      refine ⟨nearest, fun same => ?_⟩
      rcases equal same with sameMultiple | isEven
      · obtain rfl : otherMultiple = multiple := by exact_mod_cast sameMultiple
        exact .inl (toRat_injective (isOther.trans isMultiple.symm))
      · exact .inr (even isEven)
    · -- A smaller exponent puts the other magnitude below the power with 53 bits.
      have full : (2 : ℚ) ^ (exponent + 52) ≤ value := by
        refine rounds.full.resolve_left fun isLeast => low ?_
        exact isLeast ▸ other.canonical.2.1
      have below : other.toRat < 2 ^ (exponent + 52) :=
        other.toRat_lt.trans_le (zpow_le_zpow_right₀ one_le_two (by omega))
      obtain ⟨nearest, -⟩ := rounds.nearest_multiple (2 ^ 52)
      have power : (((2 : ℤ) ^ 52 : ℤ) : ℚ) * 2 ^ exponent = 2 ^ (exponent + 52) := by
        rw [add_comm, zpow_add₀ two_ne_zero]
        norm_num
      rw [power, abs_of_nonneg (a := value - 2 ^ (exponent + 52)) (by linarith)] at nearest
      rw [abs_of_pos (a := value - other.toRat) (by linarith)]
      exact ⟨by linarith, fun same => by linarith⟩
  exact ⟨fun other => (nearer other).1, fun other => (nearer other).2⟩

/-- **The nearest magnitude is that of the multiple**, as long as it is far from the largest one. -/
theorem RoundsTo.exists_isNearest (rounds : RoundsTo value exponent multiple)
    (small : value < 2 ^ 200) :
    ∃ magnitude : Magnitude, magnitude.IsNearest value ∧
      (if multiple = Nat.pow 2 53 then ofParts? (Nat.pow 2 52) (exponent + 1)
        else ofParts? multiple exponent) = some magnitude := by
  have greatest : exponent ≤ 147 := by
    rcases rounds.full with isLeast | full
    · omega
    · have less : (2 : ℚ) ^ (exponent + 52) < 2 ^ (200 : ℤ) := full.trans_lt (by exact_mod_cast small)
      have below := (zpow_lt_zpow_iff_right₀ one_lt_two).mp less
      omega
  have least := rounds.least
  by_cases carried : multiple = Nat.pow 2 53
  · have canonical : IsCanonical (Nat.pow 2 52) (exponent + 1) :=
      ⟨by decide, by omega, by omega, .inl (Nat.le_refl _)⟩
    have even : Nat.pow 2 52 % 2 = 0 := by decide
    refine ⟨⟨_, _, canonical⟩, rounds.isNearest ?_ fun _ => even, ?_⟩
    · rw [toRat, carried, zpow_add₀ two_ne_zero]
      norm_num
      ring
    · rw [if_pos carried, ofParts?, dif_pos canonical]
  · have normal : Nat.pow 2 52 ≤ multiple ∨ exponent = -1074 :=
      rounds.full.symm.imp_left rounds.le_multiple
    have canonical : IsCanonical multiple exponent :=
      ⟨Nat.lt_of_le_of_ne rounds.multiple_le carried, least, by omega, normal⟩
    refine ⟨⟨_, _, canonical⟩, rounds.isNearest rfl id, ?_⟩
    rw [if_neg carried, ofParts?, dif_pos canonical]

end RoundsTo

theorem isNearest_zero : zero.IsNearest 0 where
  nearest other := by
    rw [toRat_zero, sub_zero, abs_zero]
    exact abs_nonneg _
  even other same := by
    rw [toRat_zero, sub_zero, abs_zero, zero_sub, abs_neg, eq_comm, abs_eq_zero] at same
    exact .inl (toRat_eq_zero_iff.mp same)

/-- **A quotient is rounded to the nearest magnitude**, as long as it is far from the largest one. -/
theorem round_isNearest (numerator : ℕ) {denominator : ℕ} (positive : 0 < denominator)
    (small : (numerator : ℚ) / denominator < 2 ^ 200) :
    ∃ magnitude : Magnitude, magnitude.IsNearest (numerator / denominator) ∧
      round numerator denominator = some magnitude := by
  rcases Nat.eq_zero_or_pos numerator with none | some
  · refine ⟨zero, ?_, by rw [round, if_pos none]⟩
    rw [none, Nat.cast_zero, zero_div]
    exact isNearest_zero
  · obtain ⟨exponent, multiple, rounds, isRounded⟩ := exists_roundsTo some positive
    rw [isRounded]
    exact rounds.exists_isNearest small

end Magnitude

namespace Binary64

/-! ## Numbers -/

/-- The number is finite, no finite number is nearer to the value, and if another one is as near then
the significand of this one is even. -/
def IsNearest (number : Binary64) (value : ℚ) : Prop :=
  ∃ negative magnitude, number = .finite negative magnitude ∧
    ∀ other otherValue, rational? other = some otherValue →
      |value - signed negative magnitude.toRat| ≤ |value - otherValue| ∧
        (|value - signed negative magnitude.toRat| = |value - otherValue| →
          otherValue = signed negative magnitude.toRat ∨ magnitude.significand % 2 = 0)

theorem signed_sub (negative : Bool) (value other : ℚ) :
    signed negative value - signed negative other = signed negative (value - other) := by
  cases negative
  · rfl
  · exact (neg_sub_neg value other).trans (neg_sub value other).symm

theorem signed_neg (negative : Bool) (value : ℚ) :
    signed negative (-value) = -signed negative value := by
  cases negative <;> rfl

theorem signed_of_ne {negative other : Bool} (differ : negative ≠ other) (value : ℚ) :
    signed negative value = -signed other value := by
  cases negative <;> cases other <;> simp_all [signed]

theorem abs_signed_eq_abs (negative : Bool) (value : ℚ) : |signed negative value| = |value| := by
  cases negative
  · rfl
  · exact abs_neg value

/-- The sign of the nearest number is that of the value. -/
theorem isNearest_signed {magnitude : Magnitude} {value : ℚ} (nonnegative : 0 ≤ value)
    (isNearest : magnitude.IsNearest value) (negative : Bool) :
    (finite negative magnitude).IsNearest (signed negative value) := by
  refine ⟨negative, magnitude, rfl, fun other otherValue isOther => ?_⟩
  obtain ⟨otherNegative, otherMagnitude, rfl, rfl⟩ := rational?_eq_some_iff.mp isOther
  have nearest := isNearest.nearest otherMagnitude
  have even := isNearest.even otherMagnitude
  rw [signed_sub, abs_signed_eq_abs]
  by_cases sameSign : otherNegative = negative
  · subst sameSign
    rw [signed_sub, abs_signed_eq_abs]
    exact ⟨nearest, fun same => (even same).imp_left fun isSame => by rw [isSame]⟩
  · -- A number of the other sign is further than its opposite.
    have opposite : signed otherNegative otherMagnitude.toRat =
        signed negative (-otherMagnitude.toRat) := by
      rw [signed_of_ne sameSign, signed_neg]
    have otherNonnegative := otherMagnitude.toRat_nonneg
    have further : |value - otherMagnitude.toRat| ≤ |value - -otherMagnitude.toRat| := by
      rw [sub_neg_eq_add, abs_of_nonneg (add_nonneg nonnegative otherNonnegative), abs_le]
      constructor <;> linarith
    rw [opposite, signed_sub, abs_signed_eq_abs]
    refine ⟨nearest.trans further, fun same => ?_⟩
    rcases even (le_antisymm nearest (further.trans_eq same.symm)) with isSame | isEven
    · subst isSame
      right
      have isZero : otherMagnitude.toRat = 0 := by
        have zeroNearest := isNearest.nearest .zero
        rw [sub_neg_eq_add, abs_of_nonneg (add_nonneg nonnegative otherNonnegative)] at same
        rw [Magnitude.toRat_zero, sub_zero, abs_of_nonneg nonnegative] at zeroNearest
        linarith
      rw [Magnitude.toRat_eq_zero_iff.mp isZero]
      rfl
    · exact .inr isEven

/-- **An integer is converted to the nearest number**, as long as it is far from the largest one. -/
theorem isNearest_ofInt {integer : ℤ} (small : |(integer : ℚ)| < 2 ^ 200) :
    (ofInt integer).IsNearest integer := by
  have absolute : ((integer.natAbs : ℕ) : ℚ) / ((1 : ℕ) : ℚ) = |(integer : ℚ)| := by
    rw [Nat.cast_one, div_one, Nat.cast_natAbs, Int.cast_abs]
  obtain ⟨magnitude, isNearest, rounded⟩ :=
    Magnitude.round_isNearest integer.natAbs Nat.one_pos (by rwa [absolute])
  have signedNearest :=
    isNearest_signed (absolute ▸ abs_nonneg (integer : ℚ)) isNearest (decide (integer < 0))
  rw [Nat.cast_one, div_one, signed_natAbs] at signedNearest
  rwa [ofInt, ofQuotient, rounded]

section Nearest

variable {number other : Binary64} {value rational otherValue : ℚ}

/-- The nearest number does not lie behind another one. -/
theorem IsNearest.le_of_le (isNearest : number.IsNearest value)
    (isRational : number.rational? = some rational) (isOther : other.rational? = some otherValue)
    (below : value ≤ otherValue) : rational ≤ otherValue := by
  obtain ⟨negative, magnitude, rfl, nearest⟩ := isNearest
  obtain rfl := Option.some.inj isRational
  have near := (nearest other otherValue isOther).1
  rw [abs_of_nonpos (a := value - otherValue) (by linarith)] at near
  have far := (abs_le.mp near).1
  linarith

theorem IsNearest.ge_of_ge (isNearest : number.IsNearest value)
    (isRational : number.rational? = some rational) (isOther : other.rational? = some otherValue)
    (above : otherValue ≤ value) : otherValue ≤ rational := by
  obtain ⟨negative, magnitude, rfl, nearest⟩ := isNearest
  obtain rfl := Option.some.inj isRational
  have near := (nearest other otherValue isOther).1
  rw [abs_of_nonneg (a := value - otherValue) (by linarith)] at near
  have far := (abs_le.mp near).2
  linarith

end Nearest

/-- A number is nearer to its own value than every other one. -/
theorem IsNearest.rational?_of_rational? {number other : Binary64} {value : ℚ}
    (isNearest : number.IsNearest value) (isValue : other.rational? = some value) :
    number.rational? = some value := by
  obtain ⟨negative, magnitude, rfl, nearest⟩ := isNearest
  have none := (nearest other value isValue).1
  rw [sub_self, abs_zero, abs_nonpos_iff, sub_eq_zero] at none
  rw [rational?, ← none]

/-! ## Comparison -/

section Comparison

variable {left right : Binary64} {leftValue rightValue : ℚ}
  (isLeft : left.rational? = some leftValue) (isRight : right.rational? = some rightValue)
include isLeft isRight

theorem isBelow_iff : left.isBelow right = true ↔ leftValue < rightValue := by
  obtain ⟨leftNegative, leftMagnitude, rfl, rfl⟩ := rational?_eq_some_iff.mp isLeft
  obtain ⟨rightNegative, rightMagnitude, rfl, rfl⟩ := rational?_eq_some_iff.mp isRight
  obtain ⟨leftPositive, leftIs⟩ := signedQuotient_spec leftNegative leftMagnitude
  obtain ⟨rightPositive, rightIs⟩ := signedQuotient_spec rightNegative rightMagnitude
  rw [← leftIs, ← rightIs,
    div_lt_div_iff₀ (Nat.cast_pos.mpr leftPositive) (Nat.cast_pos.mpr rightPositive)]
  simp only [isBelow, decide_eq_true_eq]
  exact_mod_cast Iff.rfl

theorem numericallyEqual_iff : left.numericallyEqual right = true ↔ leftValue = rightValue := by
  obtain ⟨leftNegative, leftMagnitude, rfl, rfl⟩ := rational?_eq_some_iff.mp isLeft
  obtain ⟨rightNegative, rightMagnitude, rfl, rfl⟩ := rational?_eq_some_iff.mp isRight
  simp only [numericallyEqual, Bool.and_eq_true, Bool.or_eq_true, beq_iff_eq]
  constructor
  · rintro ⟨rfl, rfl | none⟩
    · rfl
    · rw [Magnitude.eq_zero_of_significand none, Magnitude.toRat_zero]
      cases leftNegative <;> cases rightNegative <;> simp [signed]
  · intro same
    have absolute := congrArg abs same
    rw [abs_signed _ leftMagnitude.toRat_nonneg, abs_signed _ rightMagnitude.toRat_nonneg]
      at absolute
    obtain rfl := Magnitude.toRat_injective absolute
    refine ⟨rfl, ?_⟩
    by_cases sameSign : leftNegative = rightNegative
    · exact .inl sameSign
    · right
      rw [signed_of_ne sameSign, neg_eq_iff_add_eq_zero, add_self_eq_zero] at same
      have isZero : leftMagnitude.toRat = 0 := by
        rw [← abs_signed rightNegative leftMagnitude.toRat_nonneg, same, abs_zero]
      rw [Magnitude.toRat_eq_zero_iff.mp isZero]
      rfl

theorem isAtMost_iff : left.isAtMost right = true ↔ leftValue ≤ rightValue := by
  rw [isAtMost, Bool.or_eq_true, isBelow_iff isLeft isRight, numericallyEqual_iff isLeft isRight,
    le_iff_lt_or_eq]

end Comparison

/-! ## Truncation -/

/-- The integer between a rational and zero that is nearest to the rational. -/
def towardZero (value : ℚ) : ℤ := if value < 0 then ⌈value⌉ else ⌊value⌋

theorem towardZero_signed (negative : Bool) {value : ℚ} (nonnegative : 0 ≤ value) :
    towardZero (signed negative value) = if negative then -⌊value⌋ else ⌊value⌋ := by
  cases negative with
  | false => exact if_neg (not_lt.mpr nonnegative)
  | true =>
      rw [signed, if_pos rfl, if_pos rfl, towardZero]
      split
      · exact Int.ceil_neg
      · rename_i notBelow
        have none : value = 0 := by linarith
        rw [none, neg_zero, Int.floor_zero, neg_zero]

theorem towardZero_of_integer (integer : ℤ) : towardZero (integer : ℚ) = integer := by
  rw [towardZero, Int.ceil_intCast, Int.floor_intCast, ite_self]

/-- **Dropping the fraction does not round.** -/
theorem truncate_spec {number : Binary64} {value : ℚ} (isValue : number.rational? = some value) :
    number.truncate? = some (towardZero value) ∧
      number.truncate.rational? = some (towardZero value : ℚ) := by
  obtain ⟨negative, magnitude, rfl, rfl⟩ := rational?_eq_some_iff.mp isValue
  obtain ⟨wholeMagnitude, isWhole⟩ := magnitude.exists_toRat_eq_whole
  have whole : towardZero (signed negative magnitude.toRat) =
      if negative then -(magnitude.whole : ℤ) else magnitude.whole := by
    rw [towardZero_signed negative magnitude.toRat_nonneg, magnitude.whole_eq_floor]
  refine ⟨by rw [truncate?, whole], ?_⟩
  have quotient : ((magnitude.whole : ℕ) : ℚ) / ((1 : ℕ) : ℚ) = wholeMagnitude.toRat := by
    rw [isWhole, Nat.cast_one, div_one]
  rw [truncate, ofQuotient_of_toRat negative Nat.one_pos quotient, rational?, isWhole, whole]
  cases negative <;> simp [signed]

end Binary64

end MessageExpr
