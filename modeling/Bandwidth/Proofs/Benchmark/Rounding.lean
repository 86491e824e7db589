import Mathlib.Algebra.Order.Field.Power
import Mathlib.Data.Int.Log
import Mathlib.Data.Rat.Floor

/-!
# Rounding

The double nearest to a number is found by cutting the number off at its scale, which is the exponent
of the last mantissa bit of doubles of its magnitude. Two residual bits tell enough of what was cut
off to round to the nearest mantissa, and they survive every shift on the way. A quotient of doubles
is computed far enough to be rounded like this. So what a quotient is rounded to depends on the exact
quotient alone.
-/

namespace Bandwidth

namespace Double

open Float.Model UnpackedFloat

theorem targetExponent_eq (total : Int) :
    Format.binary64.targetExponent total = max (total - 53) (-1074) := rfl

theorem mantissa_shiftRight (extended : ExtendedMantissa) (amount : Nat) :
    (extended >>> amount).mantissa = extended.mantissa / 2 ^ amount := by
  induction amount with
  | zero => exact (Nat.div_one _).symm
  | succ amount ih =>
      change (extended >>> amount).mantissa / 2 = _
      rw [ih, Nat.div_div_eq_div_mul, Nat.pow_succ]

theorem roundedMantissa_bounds (extended : ExtendedMantissa) :
    extended.mantissa ≤ extended.roundedMantissa ∧
      extended.roundedMantissa ≤ extended.mantissa + 1 := by
  rcases extended with ⟨mantissa, round, sticky⟩
  have even := Nat.mod_lt mantissa (by omega : 0 < 2)
  cases round <;> cases sticky <;>
    simp only [ExtendedMantissa.roundedMantissa, ExtendedMantissa.accuracy,
      Accuracy.roundToNearestEven] <;> omega

/-- What the residual bits of a mantissa tell of the number that it was cut off from. -/
def Represents (extended : ExtendedMantissa) (x : ℚ) : Prop :=
  match extended.roundBit, extended.stickyBit with
  | false, false => x = extended.mantissa
  | false, true => extended.mantissa < x ∧ x < extended.mantissa + 1 / 2
  | true, false => x = extended.mantissa + 1 / 2
  | true, true => extended.mantissa + 1 / 2 < x ∧ x < extended.mantissa + 1

theorem Represents.bounds {extended : ExtendedMantissa} {x : ℚ} (represents : Represents extended x) :
    (extended.mantissa : ℚ) ≤ x ∧ x < extended.mantissa + 1 := by
  rcases extended with ⟨mantissa, round, sticky⟩
  cases round <;> cases sticky <;> simp only [Represents] at represents ⊢ <;>
    constructor <;> linarith

theorem Represents.shiftRightOne {extended : ExtendedMantissa} {x : ℚ}
    (represents : Represents extended x) : Represents extended.shiftRightOne (x / 2) := by
  rcases extended with ⟨mantissa, round, sticky⟩
  have halves : ((mantissa % 2 : ℕ) : ℚ) + 2 * ((mantissa / 2 : ℕ) : ℚ) = mantissa := by
    exact_mod_cast Nat.mod_add_div mantissa 2
  rcases Nat.mod_two_eq_zero_or_one mantissa with parity | parity <;> rw [parity] at halves <;>
    cases round <;> cases sticky <;>
    simp only [Represents, ExtendedMantissa.shiftRightOne, parity, Nat.reduceBNe, Bool.or_self,
      Bool.or_true, Bool.or_false] at represents ⊢ <;>
    push_cast at halves <;>
    first | linarith | (constructor <;> linarith)

theorem Represents.shiftRight {extended : ExtendedMantissa} {x : ℚ}
    (represents : Represents extended x) (amount : ℕ) :
    Represents (extended >>> amount) (x / 2 ^ amount) := by
  induction amount with
  | zero =>
      rw [pow_zero, div_one]
      exact represents
  | succ amount ih =>
      rw [pow_succ, ← div_div]
      exact ih.shiftRightOne

theorem represents_quotient (numerator : ℕ) {denominator : ℕ} (positive : 0 < denominator) :
    Represents (.ofMantissaAndAccuracy (numerator / denominator)
      (accuracyOfFraction (numerator % denominator) denominator))
      ((numerator : ℚ) / denominator) := by
  have above : (0 : ℚ) < denominator := by exact_mod_cast positive
  have split : ((numerator % denominator : ℕ) : ℚ) +
      denominator * ((numerator / denominator : ℕ) : ℚ) = numerator := by
    exact_mod_cast Nat.mod_add_div numerator denominator
  have below := Nat.mod_lt numerator positive
  generalize numerator / denominator = quotient at split ⊢
  generalize numerator % denominator = remainder at split below ⊢
  have fraction : (numerator : ℚ) / denominator = quotient + remainder / denominator := by
    field_simp
    linarith
  rw [fraction]
  have small : (remainder : ℚ) / denominator < 1 := by
    rw [div_lt_one above]
    exact_mod_cast below
  unfold accuracyOfFraction
  split
  · rename_i none
    simp [Represents, ExtendedMantissa.ofMantissaAndAccuracy, none]
  · rename_i some
    have positive : (0 : ℚ) < (remainder : ℚ) / denominator :=
      div_pos (by exact_mod_cast Nat.pos_of_ne_zero some) above
    rcases order : compare (2 * remainder) denominator with _ | _ | _ <;>
      simp only [Represents, ExtendedMantissa.ofMantissaAndAccuracy]
    · have half : (remainder : ℚ) / denominator < 1 / 2 := by
        rw [div_lt_div_iff₀ above two_pos]
        have := Nat.compare_eq_lt.mp order
        exact_mod_cast (by omega : remainder * 2 < 1 * denominator)
      constructor <;> linarith
    · have half : (remainder : ℚ) / denominator = 1 / 2 := by
        rw [div_eq_div_iff above.ne' two_ne_zero]
        have := Nat.compare_eq_eq.mp order
        exact_mod_cast (by omega : remainder * 2 = 1 * denominator)
      linarith
    · have half : 1 / 2 < (remainder : ℚ) / denominator := by
        rw [div_lt_div_iff₀ two_pos above]
        have := Nat.compare_eq_gt.mp order
        exact_mod_cast (by omega : 1 * denominator < remainder * 2)
      constructor <;> linarith

theorem mantissa_ofMantissaAndAccuracy (mantissa : ℕ) (accuracy : Accuracy) :
    (ExtendedMantissa.ofMantissaAndAccuracy mantissa accuracy).mantissa = mantissa := by
  rcases accuracy with _ | (_ | _ | _) <;> rfl

/-- Rounding to the nearest mantissa keeps the order. -/
theorem roundedMantissa_mono {extended other : ExtendedMantissa} {x y : ℚ}
    (represents : Represents extended x) (otherRepresents : Represents other y) (le : x ≤ y) :
    extended.roundedMantissa ≤ other.roundedMantissa := by
  have bounds := roundedMantissa_bounds extended
  have otherBounds := roundedMantissa_bounds other
  have mantissas : extended.mantissa ≤ other.mantissa := by
    have floors : (extended.mantissa : ℚ) < other.mantissa + 1 :=
      lt_of_le_of_lt (represents.bounds.1.trans le) otherRepresents.bounds.2
    have : extended.mantissa < other.mantissa + 1 := by exact_mod_cast floors
    omega
  rcases Nat.lt_or_eq_of_le mantissas with less | equal
  · omega
  · rcases extended with ⟨mantissa, round, sticky⟩
    rcases other with ⟨_, otherRound, otherSticky⟩
    subst equal
    have even := Nat.mod_lt mantissa (by omega : 0 < 2)
    cases round <;> cases sticky <;> cases otherRound <;> cases otherSticky <;>
      simp only [Represents, ExtendedMantissa.roundedMantissa, ExtendedMantissa.accuracy,
        Accuracy.roundToNearestEven] at * <;>
      first | omega | (exfalso; linarith)

/-- The exponent of the last mantissa bit of doubles near to a positive number. -/
def scale (x : ℚ) : ℤ := max (Int.log 2 x - 52) (-1074)

theorem scale_mono {x y : ℚ} (positive : 0 < x) (le : x ≤ y) : scale x ≤ scale y :=
  max_le_max_right _ (by have := Int.log_mono_right (b := 2) positive le; omega)

/-- The number that two mantissas and exponents have as their quotient. -/
def quotient (m₁ : ℕ) (e₁ : ℤ) (m₂ : ℕ) (e₂ : ℤ) : ℚ := (m₁ : ℚ) / m₂ * 2 ^ (e₁ - e₂)

theorem two_zpow_le_iff {x : ℚ} (positive : 0 < x) (k : ℤ) :
    (2 : ℚ) ^ k ≤ x ↔ k ≤ Int.log 2 x := by
  simpa using Int.zpow_le_iff_le_log (b := 2) one_lt_two positive

theorem lt_two_zpow_iff {x : ℚ} (positive : 0 < x) (k : ℤ) :
    x < (2 : ℚ) ^ k ↔ Int.log 2 x < k := by
  simpa using Int.lt_zpow_iff_log_lt (b := 2) one_lt_two positive

theorem two_zpow_log2_le {mantissa : ℕ} (positive : 0 < mantissa) :
    (2 : ℚ) ^ (mantissa.log2 : ℤ) ≤ mantissa := by
  rw [zpow_natCast]
  exact_mod_cast Nat.log2_self_le positive.ne'

theorem succ_le_two_zpow_log2 (mantissa : ℕ) :
    (mantissa : ℚ) + 1 ≤ 2 ^ ((mantissa.log2 : ℤ) + 1) := by
  rw [← Nat.cast_succ mantissa.log2, zpow_natCast]
  exact_mod_cast Nat.lt_log2_self

/-- A mantissa that a number was cut down to has the number's order of magnitude. -/
theorem log_eq {mantissa : ℕ} {exponent : ℤ} {x : ℚ} (positive : 0 < mantissa)
    (low : mantissa ≤ x / 2 ^ exponent) (high : x / 2 ^ exponent < mantissa + 1) :
    Int.log 2 x = mantissa.log2 + exponent := by
  have unit : (0 : ℚ) < 2 ^ exponent := zpow_pos two_pos exponent
  have above : (0 : ℚ) < mantissa := by exact_mod_cast positive
  have xPos : 0 < x := lt_of_lt_of_le (mul_pos above unit) ((le_div_iff₀ unit).mp low)
  apply le_antisymm
  · apply Int.lt_add_one_iff.mp
    rw [← lt_two_zpow_iff xPos, add_right_comm, zpow_add₀ two_ne_zero, ← div_lt_iff₀ unit]
    exact lt_of_lt_of_le high (succ_le_two_zpow_log2 mantissa)
  · rw [← two_zpow_le_iff xPos, zpow_add₀ two_ne_zero, ← le_div_iff₀ unit]
    exact (two_zpow_log2_le positive).trans low

theorem quotient_pos {m₁ m₂ : ℕ} (positive : 0 < m₁) (nonzero : 0 < m₂) (e₁ e₂ : ℤ) :
    0 < quotient m₁ e₁ m₂ e₂ :=
  mul_pos (div_pos (by exact_mod_cast positive) (by exact_mod_cast nonzero)) (zpow_pos two_pos _)

/-- Total exponents tell how far a quotient has to be computed. -/
theorem totalExponent_sub_le {m₁ m₂ : ℕ} (positive : 0 < m₁) (nonzero : 0 < m₂) (e₁ e₂ : ℤ) :
    totalExponent m₁ e₁ - totalExponent m₂ e₂ - 1 ≤ Int.log 2 (quotient m₁ e₁ m₂ e₂) := by
  have above : (0 : ℚ) < m₂ := by exact_mod_cast nonzero
  have split : totalExponent m₁ e₁ - totalExponent m₂ e₂ - 1 =
      (m₁.log2 : ℤ) - (m₂.log2 + 1) + (e₁ - e₂) := by
    simp only [totalExponent]
    ring
  rw [← two_zpow_le_iff (quotient_pos positive nonzero e₁ e₂), split, zpow_add₀ two_ne_zero,
    zpow_sub₀ two_ne_zero, quotient]
  gcongr
  · exact two_zpow_log2_le positive
  · exact (lt_add_one _).le.trans (succ_le_two_zpow_log2 m₂)

/-- The quotient is computed far enough, and what is left of it is told by its accuracy. -/
theorem divCore_spec {m₁ m₂ : ℕ} {e₁ e₂ : ℤ} (positive : 0 < m₁) (nonzero : 0 < m₂) :
    ∃ mantissa exponent accuracy,
      divCore Format.binary64 m₁ e₁ m₂ e₂ = (mantissa, exponent, accuracy) ∧
        Represents (.ofMantissaAndAccuracy mantissa accuracy)
          (quotient m₁ e₁ m₂ e₂ / 2 ^ exponent) ∧
        Format.binary64.targetExponent (totalExponent mantissa exponent) =
          scale (quotient m₁ e₁ m₂ e₂) ∧
        exponent ≤ scale (quotient m₁ e₁ m₂ e₂) := by
  have qPos := quotient_pos positive nonzero e₁ e₂
  have enough := totalExponent_sub_le positive nonzero e₁ e₂
  generalize exponentEq : min (e₁ - e₂) (Format.binary64.targetExponent
    (totalExponent m₁ e₁ - totalExponent m₂ e₂)) = exponent
  rw [targetExponent_eq] at exponentEq
  generalize numeratorEq : m₁ <<< (e₁ - e₂ - exponent).toNat = numerator
  have exact : quotient m₁ e₁ m₂ e₂ / 2 ^ exponent = (numerator : ℚ) / m₂ := by
    have shifted : (2 : ℚ) ^ (e₁ - e₂ - exponent) = 2 ^ (e₁ - e₂ - exponent).toNat := by
      rw [← zpow_natCast, Int.toNat_of_nonneg (by omega)]
    rw [← numeratorEq, Nat.shiftLeft_eq, quotient, mul_div_assoc, ← zpow_sub₀ two_ne_zero,
      shifted]
    push_cast
    rw [div_mul_eq_mul_div]
  have represents := represents_quotient numerator nonzero
  rw [← exact] at represents
  refine ⟨_, exponent, _, ?_, represents, ?_, ?_⟩
  · simp only [divCore, targetExponent_eq, exponentEq, numeratorEq]
  · have bounds := represents.bounds
    rw [mantissa_ofMantissaAndAccuracy] at bounds
    rw [targetExponent_eq, scale, totalExponent]
    rcases Nat.eq_zero_or_pos (numerator / m₂) with none | some
    · -- Nothing is left of a quotient only if it is below the least exponent.
      rw [none, Nat.cast_zero, zero_add, div_lt_one (zpow_pos two_pos _),
        lt_two_zpow_iff qPos] at bounds
      rw [none, Nat.log2_zero]
      omega
    · have := log_eq some bounds.1 bounds.2
      omega
  · rw [scale]
    omega

/-- The positive float with a mantissa, if there is anything in the mantissa. -/
def ofMantissa (mantissa : ℕ) (exponent : ℤ) : UnpackedFloat :=
  if nonzero : mantissa = 0 then .zero .positive
  else .finite .positive mantissa exponent (Nat.pos_of_ne_zero nonzero)

/-- Rounding may have made a mantissa one bit too long. -/
def carry (mantissa : ℕ) (exponent : ℤ) : UnpackedFloat :=
  if mantissa = 2 ^ 53 then ofMantissa (2 ^ 52) (exponent + 1) else ofMantissa mantissa exponent

theorem le_scale (x : ℚ) : -1074 ≤ scale x := le_max_right _ _

theorem div_two_zpow_scale_lt {x : ℚ} (positive : 0 < x) : x / 2 ^ scale x < 2 ^ 53 := by
  rw [div_lt_iff₀ (zpow_pos two_pos _), ← zpow_natCast, ← zpow_add₀ two_ne_zero,
    lt_two_zpow_iff positive, scale]
  push_cast
  omega

theorem roundedMantissa_le {extended : ExtendedMantissa} {x : ℚ} (positive : 0 < x)
    (represents : Represents extended (x / 2 ^ scale x)) :
    extended.roundedMantissa ≤ 2 ^ 53 := by
  have short : (extended.mantissa : ℚ) < 2 ^ 53 :=
    lt_of_le_of_lt represents.bounds.1 (div_two_zpow_scale_lt positive)
  have : extended.mantissa < 2 ^ 53 := by exact_mod_cast short
  have := (roundedMantissa_bounds extended).2
  omega

/-- A mantissa at the scale of a number, as rounding leaves it before it is carried. -/
structure Scaled (mantissa : ℕ) (exponent : ℤ) : Prop where
  mantissa_le : mantissa ≤ 2 ^ 53
  le_exponent : -1074 ≤ exponent
  implicit : mantissa < 2 ^ 52 → exponent = -1074

theorem scaled_roundedMantissa {extended : ExtendedMantissa} {x : ℚ} (positive : 0 < x)
    (represents : Represents extended (x / 2 ^ scale x)) :
    Scaled extended.roundedMantissa (scale x) := by
  refine ⟨roundedMantissa_le positive represents, le_scale x, ?_⟩
  intro short
  have cut : (extended.mantissa : ℚ) + 1 ≤ 2 ^ (52 : ℤ) := by
    have := (roundedMantissa_bounds extended).1
    exact_mod_cast (by omega : extended.mantissa + 1 ≤ 2 ^ 52)
  have below : x / 2 ^ scale x < 2 ^ (52 : ℤ) := lt_of_lt_of_le represents.bounds.2 cut
  rw [div_lt_iff₀ (zpow_pos two_pos _), ← zpow_add₀ two_ne_zero, lt_two_zpow_iff positive,
    scale] at below
  rw [scale]
  omega

/-- A rounded mantissa is shifted once more only if it has become too long. -/
theorem ofMantissa_shiftToTargetExponent {mantissa : ℕ} {exponent : ℤ} (le : mantissa ≤ 2 ^ 53)
    (le_exponent : -1074 ≤ exponent) :
    let shifted := shiftToTargetExponent Format.binary64 mantissa exponent .exact
    ofMantissa shifted.1.mantissa shifted.2 = carry mantissa exponent := by
  simp only [carry, shiftToTargetExponent, shiftToExponent, targetExponent_eq, totalExponent,
    mantissa_shiftRight, mantissa_ofMantissaAndAccuracy]
  split
  · rename_i long
    have amount : (max ((mantissa.log2 : ℤ) + 1 + exponent - 53) (-1074) - exponent).toNat = 1 := by
      rw [long, Nat.log2_two_pow]
      omega
    rw [amount, long]
    rfl
  · rename_i short
    have log : mantissa.log2 < 53 := by
      rcases Nat.eq_zero_or_pos mantissa with rfl | positive
      · decide
      · exact (Nat.log2_lt positive.ne').mpr (by omega)
    have amount : (max ((mantissa.log2 : ℤ) + 1 + exponent - 53) (-1074) - exponent).toNat = 0 := by
      omega
    rw [amount]
    simp

/-- The float nearest to a number is told by what the number has at its scale. -/
theorem roundWithAccuracy_eq_carry {mantissa : ℕ} {exponent : ℤ} {accuracy : Accuracy} {x : ℚ}
    (positive : 0 < x)
    (represents : Represents (.ofMantissaAndAccuracy mantissa accuracy) (x / 2 ^ exponent))
    (target : Format.binary64.targetExponent (totalExponent mantissa exponent) = scale x)
    (le : exponent ≤ scale x) :
    ∃ extended, Represents extended (x / 2 ^ scale x) ∧
      roundWithAccuracy Format.binary64 .positive mantissa exponent accuracy =
        carry extended.roundedMantissa (scale x) := by
  have shifted : shiftToTargetExponent Format.binary64 mantissa exponent accuracy =
      (ExtendedMantissa.ofMantissaAndAccuracy mantissa accuracy >>> (scale x - exponent).toNat,
        scale x) := by
    simp only [shiftToTargetExponent, shiftToExponent, target]
    congr 1
    omega
  generalize extendedEq : ExtendedMantissa.ofMantissaAndAccuracy mantissa accuracy >>>
    (scale x - exponent).toNat = extended at shifted
  have scaled : Represents extended (x / 2 ^ scale x) := by
    have := represents.shiftRight (scale x - exponent).toNat
    rw [extendedEq, div_div, ← zpow_natCast, ← zpow_add₀ two_ne_zero,
      Int.toNat_of_nonneg (by omega), add_sub_cancel] at this
    exact this
  refine ⟨extended, scaled, ?_⟩
  rw [roundWithAccuracy, shifted]
  exact ofMantissa_shiftToTargetExponent (roundedMantissa_le positive scaled) (le_scale x)

theorem represents_exact (mantissa : ℕ) :
    Represents (.ofMantissaAndAccuracy mantissa .exact) mantissa := rfl

/-- A mantissa is the whole of the number that it is with its exponent. -/
theorem log_mul (exponent : ℤ) {mantissa : ℕ} (positive : 0 < mantissa) :
    Int.log 2 (mantissa * 2 ^ exponent : ℚ) = mantissa.log2 + exponent := by
  have whole : (mantissa * 2 ^ exponent / 2 ^ exponent : ℚ) = mantissa :=
    mul_div_cancel_right₀ _ (zpow_ne_zero _ two_ne_zero)
  exact log_eq positive whole.ge (whole.trans_lt (lt_add_one _))

/-- Any mantissa and exponent are rounded to the double nearest to the number that they are. -/
theorem round_eq_carry {mantissa : ℕ} (positive : 0 < mantissa) (exponent : ℤ) :
    ∃ extended, Represents extended
        (mantissa * 2 ^ exponent / 2 ^ scale (mantissa * 2 ^ exponent)) ∧
      UnpackedFloat.round Format.binary64 .positive mantissa exponent =
        carry extended.roundedMantissa (scale (mantissa * 2 ^ exponent)) := by
  have xPos : (0 : ℚ) < mantissa * 2 ^ exponent :=
    mul_pos (by exact_mod_cast positive) (zpow_pos two_pos _)
  have target : Format.binary64.targetExponent (totalExponent mantissa exponent) =
      scale (mantissa * 2 ^ exponent) := by
    rw [targetExponent_eq, totalExponent, scale, log_mul exponent positive]
    omega
  generalize amountEq : (exponent - scale (mantissa * 2 ^ exponent)).toNat = amount
  have longer : 0 < mantissa * 2 ^ amount := Nat.mul_pos positive (Nat.two_pow_pos _)
  have same : (mantissa * 2 ^ exponent : ℚ) =
      (mantissa * 2 ^ amount : ℕ) * 2 ^ (exponent - amount) := by
    push_cast
    rw [← zpow_natCast, mul_assoc, ← zpow_add₀ two_ne_zero, add_sub_cancel]
  have decreased : decreaseExponent mantissa exponent (scale (mantissa * 2 ^ exponent)) =
      (mantissa * 2 ^ amount, exponent - amount) := by
    simp only [decreaseExponent, amountEq, Nat.shiftLeft_eq]
  have whole := represents_exact (mantissa * 2 ^ amount)
  rw [← mul_div_cancel_right₀ ((mantissa * 2 ^ amount : ℕ) : ℚ)
    (zpow_ne_zero (exponent - amount) two_ne_zero), ← same] at whole
  have targetAgain : Format.binary64.targetExponent
      (totalExponent (mantissa * 2 ^ amount) (exponent - amount)) =
        scale (mantissa * 2 ^ exponent) := by
    rw [targetExponent_eq, totalExponent, scale, same, log_mul _ longer]
    omega
  rw [UnpackedFloat.round, target, decreased]
  exact roundWithAccuracy_eq_carry xPos whole targetAgain (by omega)

end Double

end Bandwidth
