import MessageExpr.Proofs.Number.Rounding

/-!
# Integers as binary64 numbers

The number nearest to an integer stands for an integer (`IsNearest.exists_integer`): up to 53 bits it
is the integer itself (`rational?_ofInt_of_le`), and numbers beyond have no fraction.

Below the 63rd power of two, numbers are 1024 apart, and the last one has an odd significand. So the
integers that are rounded up to this power are those at most 512 below it (`eq_power_iff`).
-/

set_option autoImplicit false

namespace MessageExpr.Binary64

/-! ## Powers of two -/

theorem rational?_finite {magnitude : Magnitude} (negative : Bool) {value : ℚ}
    (isValue : magnitude.toRat = value) :
    (finite negative magnitude).rational? = some (signed negative value) := by
  rw [rational?, isValue]

/-- The magnitude of the 53rd power of two. -/
def power53 : Magnitude := ⟨Nat.pow 2 52, 1, by decide⟩

/-- The magnitude of the 63rd power of two. -/
def power63 : Magnitude := ⟨Nat.pow 2 52, 11, by decide⟩

/-- The last magnitude below the 63rd power of two. -/
def belowPower63 : Magnitude := ⟨Nat.pow 2 53 - 1, 10, by decide⟩

theorem toRat_power53 : power53.toRat = 2 ^ 53 := by
  rw [power53, Magnitude.toRat]
  norm_num

theorem toRat_power63 : power63.toRat = 2 ^ 63 := by
  rw [power63, Magnitude.toRat]
  norm_num

theorem toRat_belowPower63 : belowPower63.toRat = 2 ^ 63 - 1024 := by
  rw [belowPower63, Magnitude.toRat]
  norm_num

/-- **An integer of at most the 53rd power of two has a number.** -/
theorem rational?_ofInt_of_le {integer : ℤ} (small : integer.natAbs ≤ 2 ^ 53) :
    (ofInt integer).rational? = some (integer : ℚ) := by
  rcases Nat.lt_or_eq_of_le small with less | same
  · exact rational?_ofInt less
  · have absolute : |(integer : ℚ)| = power53.toRat := by
      rw [toRat_power53, ← Int.cast_abs, ← Nat.cast_natAbs, same]
      norm_num
    refine rational?_ofQuotient Nat.one_pos ?_ absolute
    rw [Nat.cast_one, div_one, signed_natAbs]

/-! ## Numbers nearest to integers -/

section Nearest

variable {number : Binary64} {integer : ℤ} {rational : ℚ}

/-- A magnitude of at least the 53rd power of two has no fraction. -/
theorem exists_natural_of_large {magnitude : Magnitude} (large : 2 ^ 53 ≤ magnitude.toRat) :
    ∃ natural : ℕ, magnitude.toRat = natural := by
  have exponent : (2 : ℚ) ^ (53 : ℤ) < 2 ^ (magnitude.exponent + 53) :=
    lt_of_le_of_lt (by exact_mod_cast large) magnitude.toRat_lt
  have positive := (zpow_lt_zpow_iff_right₀ one_lt_two).mp exponent
  obtain ⟨natural, isNatural⟩ := @Magnitude.exists_multiple 0 magnitude (by omega)
  exact ⟨natural, by rw [isNatural, zpow_zero, mul_one]⟩

/-- **The number nearest to an integer stands for an integer.** -/
theorem IsNearest.exists_integer (isNearest : number.IsNearest integer) :
    ∃ whole : ℤ, number.rational? = some (whole : ℚ) := by
  by_cases small : integer.natAbs ≤ 2 ^ 53
  · exact ⟨integer, isNearest.rational?_of_rational? (rational?_ofInt_of_le small)⟩
  · obtain ⟨negative, magnitude, rfl, -⟩ := id isNearest
    have power := fun sign => rational?_finite sign toRat_power53
    have large : 2 ^ 53 ≤ magnitude.toRat := by
      rw [← abs_signed negative magnitude.toRat_nonneg, le_abs]
      rcases le_total 0 integer with nonnegative | nonpositive
      · refine .inl (isNearest.ge_of_ge rfl (power false) ?_)
        have above : (2 : ℤ) ^ 53 ≤ integer := by omega
        exact_mod_cast above
      · refine .inr (le_neg.mpr (isNearest.le_of_le rfl (power true) ?_))
        have below : integer ≤ -(2 : ℤ) ^ 53 := by omega
        exact_mod_cast below
    obtain ⟨natural, isNatural⟩ := exists_natural_of_large large
    cases negative with
    | false => exact ⟨natural, by rw [rational?_finite _ isNatural]; rfl⟩
    | true => exact ⟨-natural, by rw [rational?_finite _ isNatural, signed]; simp⟩

/-- Magnitudes below the 63rd power of two are at least 1024 below it. -/
theorem toRat_le_belowPower63 {magnitude : Magnitude} (below : magnitude.toRat < 2 ^ 63) :
    magnitude.toRat ≤ belowPower63.toRat := by
  rw [toRat_belowPower63]
  by_cases high : 10 ≤ magnitude.exponent
  · obtain ⟨multiple, isMultiple⟩ := Magnitude.exists_multiple high
    have power : (2 : ℚ) ^ (10 : ℤ) = 1024 := by norm_num
    rw [isMultiple, power] at below ⊢
    have less : multiple * 1024 < 2 ^ 63 := by exact_mod_cast below
    have atMost : (multiple : ℚ) ≤ 2 ^ 53 - 1 := by
      have natural : multiple + 1 ≤ 2 ^ 53 := by omega
      have cast : ((multiple + 1 : ℕ) : ℚ) ≤ ((2 ^ 53 : ℕ) : ℚ) := Nat.cast_le.mpr natural
      push_cast at cast
      linarith
    linarith
  · have small : magnitude.toRat < 2 ^ (62 : ℤ) :=
      magnitude.toRat_lt.trans_le (zpow_le_zpow_right₀ one_le_two (by omega))
    norm_num at small ⊢
    linarith

/-- **Just the integers at most 512 below the 63rd power of two are rounded up to it.** -/
theorem IsNearest.eq_power_iff (isNearest : number.IsNearest integer)
    (isRational : number.rational? = some rational) (small : integer ≤ 2 ^ 63) :
    rational = 2 ^ 63 ↔ 2 ^ 63 - 512 ≤ integer := by
  have power : (finite false power63).rational? = some (2 ^ 63) :=
    rational?_finite false toRat_power63
  have before : (finite false belowPower63).rational? = some (2 ^ 63 - 1024) :=
    rational?_finite false toRat_belowPower63
  have smallRational : (integer : ℚ) ≤ 2 ^ 63 := by exact_mod_cast small
  obtain ⟨negative, magnitude, rfl, nearest⟩ := id isNearest
  obtain rfl := Option.some.inj isRational
  obtain ⟨near, tie⟩ := nearest _ _ power
  rw [abs_of_nonpos (a := (integer : ℚ) - 2 ^ 63) (by linarith)] at near tie
  constructor
  · intro isPower
    have nearBefore := (nearest _ _ before).1
    rw [isPower, abs_of_nonpos (by linarith)] at nearBefore
    have close : (2 : ℚ) ^ 63 - 512 ≤ integer := by
      rcases le_abs.mp nearBefore with above | below <;> linarith
    exact_mod_cast close
  · intro close
    have closeRational : (2 : ℚ) ^ 63 - 512 ≤ integer := by exact_mod_cast close
    by_contra other
    have below : signed negative magnitude.toRat < 2 ^ 63 :=
      lt_of_le_of_ne (isNearest.le_of_le isRational power smallRational) other
    have above := isNearest.ge_of_ge isRational before (by linarith)
    -- So it is the last number below the power. The power is no further, but has an even significand.
    have atMost : signed negative magnitude.toRat ≤ 2 ^ 63 - 1024 := by
      cases negative with
      | true =>
          have nonpositive : signed true magnitude.toRat ≤ 0 := neg_nonpos.mpr magnitude.toRat_nonneg
          linarith
      | false => exact toRat_belowPower63 ▸ toRat_le_belowPower63 below
    have isBefore := le_antisymm atMost above
    have isEven := (tie (le_antisymm near ?_)).resolve_left (Ne.symm other)
    · have isMagnitude : magnitude = belowPower63 := by
        have absolute := congrArg abs isBefore
        rw [abs_signed _ magnitude.toRat_nonneg, ← toRat_belowPower63,
          abs_of_nonneg belowPower63.toRat_nonneg] at absolute
        exact Magnitude.toRat_injective absolute
      rw [isMagnitude] at isEven
      exact absurd isEven (by decide)
    · rw [isBefore, abs_of_nonneg (by linarith)]
      linarith

end Nearest

end MessageExpr.Binary64
