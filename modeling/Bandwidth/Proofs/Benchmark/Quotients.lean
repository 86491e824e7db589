import Bandwidth.Proofs.Benchmark.Order
import Bandwidth.Proofs.Benchmark.SpecialValues
import Mathlib.Data.Prod.Lex

/-!
# Quotients in order

Doubles are ordered by sign, exponent and mantissa, and the order of their quotients by a positive
double is the reverse of the order of the divisors. This is so although quotients are rounded, to
mantissas of different scales, and may vanish or become infinite: rounding respects the order at one
scale, at a larger scale mantissas have full length, and packing respects what order is left.

So the rules on which summaries of times rest hold of doubles, without any assumption.
-/

namespace Bandwidth

open Bandwidth.Measure

namespace Double

open Float.Model UnpackedFloat

/-- Where a number stands among all others: by its sign and its kind, then by its exponent, and last
by its mantissa. -/
def rank : UnpackedFloat → ℤ ×ₗ ℤ ×ₗ ℤ
  | .infinity .negative => toLex (-2, toLex (0, 0))
  | .finite .negative mantissa exponent _ => toLex (-1, toLex (-exponent, -mantissa))
  | .zero _ => toLex (0, toLex (0, 0))
  | .finite .positive mantissa exponent _ => toLex (1, toLex (exponent, mantissa))
  | .infinity .positive => toLex (2, toLex (0, 0))
  | .notANumber => toLex (0, toLex (0, 0))

theorem compare_sign (sign other : Sign) :
    compare sign other = match sign, other with
      | .negative, .positive => .lt
      | .positive, .negative => .gt
      | _, _ => .eq := by
  cases sign <;> cases other <;> rfl

theorem lt_iff_rank {x y : UnpackedFloat} (number : x ≠ .notANumber) (other : y ≠ .notANumber) :
    x.lt y = true ↔ rank x < rank y := by
  rcases x with sign | _ | sign | ⟨sign, mantissa, exponent, positive⟩ <;>
    rcases y with otherSign | _ | otherSign | ⟨otherSign, otherMantissa, otherExponent, _⟩ <;>
    first
    | exact absurd rfl number
    | exact absurd rfl other
    | dsimp only [UnpackedFloat.lt, UnpackedFloat.compare]
      cases sign <;> cases otherSign <;> dsimp only [rank] <;>
        simp [compare_sign, Prod.Lex.toLex_lt_toLex, Ordering.then_eq_lt, Ordering.then_eq_gt,
          Int.compare_eq_lt, Int.compare_eq_gt, Nat.compare_eq_lt, Nat.compare_eq_gt]

theorem less_eq_false_of_isNaN {x y : Float} (nan : isNaN x = true ∨ isNaN y = true) :
    less x y = false := by
  rw [less_eq, UnpackedFloat.lt]
  rcases nan with nan | nan <;> rw [isNaN_iff.mp nan]
  · rfl
  · cases x.toModel.unpack <;> rfl

theorem isNaN_of_less {x y : Float} (below : less x y = true) :
    isNaN x = false ∧ isNaN y = false := by
  rcases number : isNaN x with _ | _
  · rcases other : isNaN y with _ | _
    · exact ⟨rfl, rfl⟩
    · simp [less_eq_false_of_isNaN (.inr other)] at below
  · simp [less_eq_false_of_isNaN (.inl number)] at below

theorem isNaN_eq_false_iff {x : Float} : isNaN x = false ↔ x.toModel.unpack ≠ .notANumber := by
  rw [← Bool.not_eq_true, isNaN_iff]

theorem less_iff_rank {x y : Float} (number : isNaN x = false) (other : isNaN y = false) :
    less x y = true ↔ rank x.toModel.unpack < rank y.toModel.unpack := by
  rw [less_eq, lt_iff_rank (isNaN_eq_false_iff.mp number) (isNaN_eq_false_iff.mp other)]

theorem atMost_iff_rank {x y : Float} (number : isNaN x = false) (other : isNaN y = false) :
    AtMost x y ↔ rank x.toModel.unpack ≤ rank y.toModel.unpack := by
  rw [AtMost, ← Bool.not_eq_true, less_iff_rank other number, not_lt]

theorem isNaN_of_finite (x : Float) (finite : isFinite x = true) : isNaN x = false := by
  rw [isNaN_eq_false_iff]
  rcases of_isFinite finite with ⟨_, unpacked⟩ | ⟨_, _, _, _, unpacked⟩ <;>
    rw [unpacked] <;> exact nofun

theorem ordered : Ordered Float where
  isNaN_zero := isNaN_of_finite zero (by decide +kernel)
  less_asymm x y below := by
    rcases isNaN_of_less below with ⟨number, other⟩
    have ranks := (less_iff_rank number other).mp below
    exact (atMost_iff_rank number other).mpr ranks.le
  atMost_trans x y z number below above := by
    rcases xNumber : isNaN x with _ | _
    · rcases zNumber : isNaN z with _ | _
      · rw [atMost_iff_rank xNumber number] at below
        rw [atMost_iff_rank number zNumber] at above
        exact (atMost_iff_rank xNumber zNumber).mpr (below.trans above)
      · exact less_eq_false_of_isNaN (.inl zNumber)
    · exact less_eq_false_of_isNaN (.inr xNumber)
  isNaN_of_finite := isNaN_of_finite
  less_infinity := specialValues_float.less_infinity

theorem unpack_pack_overflow {mantissa : ℕ} {exponent : ℤ} (positive : 0 < mantissa)
    (large : 971 < exponent) (sign : Sign) :
    unpack Format.binary64 (UnpackedFloat.pack Format.binary64
      (.finite sign mantissa exponent positive)) = .infinity sign := by
  rw [pack_finite, if_pos (by omega), unpack_packedInfinity]

/-- The exponent that a mantissa has after it was carried. -/
def carriedExponent (mantissa : ℕ) (exponent : ℤ) : ℤ :=
  if mantissa = 2 ^ 53 then exponent + 1 else exponent

/-- A carried mantissa fits a double, unless the exponent is too large. -/
theorem unpack_pack_carry {mantissa : ℕ} {exponent : ℤ} (scaled : Scaled mantissa exponent) :
    unpack Format.binary64 (UnpackedFloat.pack Format.binary64 (carry mantissa exponent)) =
      if 971 < carriedExponent mantissa exponent then .infinity .positive
      else carry mantissa exponent := by
  rcases scaled with ⟨mantissa_le, le_exponent, implicit⟩
  by_cases full : mantissa = 2 ^ 53
  · rw [carry, carriedExponent, if_pos full, if_pos full, ofMantissa, dif_neg (by decide)]
    by_cases large : 971 < exponent + 1
    · rw [if_pos large]
      exact unpack_pack_overflow (by decide) large .positive
    · rw [if_neg large]
      exact unpack_pack_finite ⟨by decide, by decide, by omega, by omega, by omega⟩ .positive
  · rw [carry, carriedExponent, if_neg full, if_neg full, ofMantissa]
    by_cases zero : mantissa = 0
    · rw [dif_pos zero, if_neg (by omega)]
      rfl
    · rw [dif_neg zero]
      by_cases large : 971 < exponent
      · rw [if_pos large]
        exact unpack_pack_overflow (by omega) large .positive
      · rw [if_neg large]
        exact unpack_pack_finite ⟨by omega, by omega, by omega, by omega, implicit⟩ .positive

theorem rank_le_infinity (x : UnpackedFloat) : rank x ≤ rank (.infinity .positive) := by
  rcases x with (_ | _) | _ | _ | ⟨_ | _, mantissa, exponent, positive⟩ <;>
    dsimp only [rank] <;> simp [Prod.Lex.toLex_le_toLex]

theorem rank_ofMantissa (mantissa : ℕ) (exponent : ℤ) :
    rank (ofMantissa mantissa exponent) =
      if mantissa = 0 then toLex (0, toLex (0, 0))
      else toLex (1, toLex (exponent, (mantissa : ℤ))) := by
  by_cases zero : mantissa = 0
  · rw [ofMantissa, dif_pos zero, if_pos zero]
    rfl
  · rw [ofMantissa, dif_neg zero, if_neg zero]
    rfl

/-- A larger mantissa, or one of full length at a larger scale, is carried to a larger float. -/
theorem rank_carry_le {m n : ℕ} {e f : ℤ} (mLe : m ≤ 2 ^ 53) (nLe : n ≤ 2 ^ 53)
    (le : e = f ∧ m ≤ n ∨ e < f ∧ 2 ^ 52 ≤ n) :
    rank (carry m e) ≤ rank (carry n f) := by
  unfold carry
  simp only [apply_ite rank, rank_ofMantissa]
  split_ifs <;> simp [Prod.Lex.toLex_le_toLex] <;> omega

theorem rank_unpack_pack_carry_le {m n : ℕ} {e f : ℤ} (scaled : Scaled m e) (other : Scaled n f)
    (le : e = f ∧ m ≤ n ∨ e < f ∧ 2 ^ 52 ≤ n) :
    rank (unpack Format.binary64 (UnpackedFloat.pack Format.binary64 (carry m e))) ≤
      rank (unpack Format.binary64 (UnpackedFloat.pack Format.binary64 (carry n f))) := by
  have mLe := scaled.mantissa_le
  have nLe := other.mantissa_le
  have exponents : carriedExponent m e ≤ carriedExponent n f := by
    unfold carriedExponent
    split_ifs <;> omega
  rw [unpack_pack_carry scaled, unpack_pack_carry other]
  split
  · rw [if_pos (by omega)]
  · split
    · exact rank_le_infinity _
    · exact rank_carry_le mLe nLe le

/-- The doubles nearest to two positive numbers are in their order. -/
theorem rank_nearest_le {extended other : ExtendedMantissa} {x y : ℚ} (positive : 0 < x)
    (represents : Represents extended (x / 2 ^ scale x))
    (otherRepresents : Represents other (y / 2 ^ scale y)) (le : x ≤ y) :
    rank (unpack Format.binary64 (UnpackedFloat.pack Format.binary64
        (carry extended.roundedMantissa (scale x)))) ≤
      rank (unpack Format.binary64 (UnpackedFloat.pack Format.binary64
        (carry other.roundedMantissa (scale y)))) := by
  have scaled := scaled_roundedMantissa positive represents
  have otherScaled := scaled_roundedMantissa (positive.trans_le le) otherRepresents
  apply rank_unpack_pack_carry_le scaled otherScaled
  rcases (scale_mono positive le).eq_or_lt with equal | less
  · left
    refine ⟨equal, roundedMantissa_mono represents otherRepresents ?_⟩
    rw [equal]
    exact div_le_div_of_nonneg_right le (zpow_pos two_pos _).le
  · -- At a scale that is not the least one, mantissas have full length.
    right
    refine ⟨less, ?_⟩
    have least := le_scale x
    by_contra short
    have := otherScaled.implicit (by omega)
    omega

theorem div_eq_carry {m₁ m₂ : ℕ} {e₁ e₂ : ℤ} (positive : 0 < m₁) (nonzero : 0 < m₂) :
    ∃ extended, Represents extended
        (quotient m₁ e₁ m₂ e₂ / 2 ^ scale (quotient m₁ e₁ m₂ e₂)) ∧
      UnpackedFloat.div Format.binary64 (.finite .positive m₁ e₁ positive)
          (.finite .positive m₂ e₂ nonzero) =
        carry extended.roundedMantissa (scale (quotient m₁ e₁ m₂ e₂)) := by
  rcases divCore_spec positive nonzero with
    ⟨mantissa, exponent, accuracy, computed, represents, target, le⟩
  rcases roundWithAccuracy_eq_carry (quotient_pos positive nonzero e₁ e₂) represents target le with
    ⟨extended, scaled, rounds⟩
  refine ⟨extended, scaled, ?_⟩
  rw [← rounds]
  change (match divCore Format.binary64 m₁ e₁ m₂ e₂ with
    | (m, e, accuracy) => roundWithAccuracy Format.binary64 .positive m e accuracy) = _
  rw [computed]

theorem quotient_eq (m₁ : ℕ) (e₁ : ℤ) (m₂ : ℕ) (e₂ : ℤ) :
    quotient m₁ e₁ m₂ e₂ = m₁ * 2 ^ e₁ / (m₂ * 2 ^ e₂) := by
  rw [quotient, zpow_sub₀ two_ne_zero, div_mul_div_comm]

/-- What comes first by exponent and mantissa is the lesser number. -/
theorem value_le {m n : ℕ} {e f : ℤ} (canonical : Canonical m e) (other : Canonical n f)
    (le : e < f ∨ e = f ∧ m ≤ n) : (m : ℚ) * 2 ^ e ≤ n * 2 ^ f := by
  rcases le with less | ⟨rfl, le⟩
  · have long : 2 ^ 52 ≤ n := by
      by_contra short
      have := other.implicit (by omega)
      have := canonical.le_exponent
      omega
    have mLe : (m : ℚ) ≤ 2 ^ 53 := by exact_mod_cast canonical.mantissa_lt.le
    have nGe : (2 : ℚ) ^ 52 ≤ n := by exact_mod_cast long
    calc
      (m : ℚ) * 2 ^ e ≤ 2 ^ 53 * 2 ^ e := mul_le_mul_of_nonneg_right mLe (zpow_pos two_pos e).le
      _ = 2 ^ 52 * 2 ^ (e + 1) := by
        rw [zpow_add_one₀ two_ne_zero]
        ring
      _ ≤ n * 2 ^ f := mul_le_mul nGe (zpow_le_zpow_right₀ one_le_two less)
        (zpow_pos two_pos _).le (Nat.cast_nonneg n)
  · have : (m : ℚ) ≤ n := by exact_mod_cast le
    exact mul_le_mul_of_nonneg_right this (zpow_pos two_pos e).le

theorem quotient_le {m m₁ m₂ : ℕ} {e e₁ e₂ : ℤ} (canonical : Canonical m₁ e₁)
    (other : Canonical m₂ e₂) (le : e₁ < e₂ ∨ e₁ = e₂ ∧ m₁ ≤ m₂) :
    quotient m e m₂ e₂ ≤ quotient m e m₁ e₁ := by
  have positive : (0 : ℚ) < m₁ := by exact_mod_cast canonical.mantissa_pos
  rw [quotient_eq, quotient_eq]
  exact div_le_div_of_nonneg_left (mul_nonneg (Nat.cast_nonneg m) (zpow_pos two_pos e).le)
    (mul_pos positive (zpow_pos two_pos e₁)) (value_le canonical other le)

/-- A number that is not below zero, but perhaps infinite. -/
def NotNegative : UnpackedFloat → Prop
  | .zero _ | .finite .positive .. | .infinity .positive => True
  | _ => False

theorem isNonneg_iff {x : Float} : IsNonneg x ↔ NotNegative x.toModel.unpack := by
  have nonneg : AtMost Measure.zero x ↔ x.toModel.unpack.lt (.zero .positive) = false := by
    rw [AtMost, less_eq, unpack_zero]
  have both : IsNonneg x ↔ isNaN x = false ∧ AtMost Measure.zero x :=
    ⟨fun ⟨number, nonneg⟩ => ⟨number, nonneg⟩, fun ⟨number, nonneg⟩ => ⟨number, nonneg⟩⟩
  rw [both, isNaN_eq_false_iff, nonneg]
  rcases x.toModel.unpack with (_ | _) | _ | _ | ⟨_ | _, mantissa, exponent, positive⟩
  case notANumber => exact iff_of_false (fun number => number.1 rfl) id
  case infinity.negative => exact iff_of_false (fun above => Bool.noConfusion above.2) id
  case finite.negative => exact iff_of_false (fun above => Bool.noConfusion above.2) id
  all_goals exact iff_of_true ⟨nofun, rfl⟩ trivial

theorem notNegative_unpack_packComponents {exponent : BitVec 11} (mantissa : BitVec 52)
    (notLast : exponent ≠ -1#11) :
    NotNegative
      (unpack Format.binary64 (packComponents Format.binary64 .positive exponent mantissa)) := by
  rw [unpack_packComponents, ofParts, if_neg notLast]
  by_cases first : exponent = 0#11
  · rw [if_pos first]
    by_cases blank : mantissa = 0#52
    · rw [dif_pos blank]
      trivial
    · rw [dif_neg blank]
      trivial
  · rw [if_neg first]
    trivial

/-- What is not negative stays so when it is packed, even if it loses all its bits. -/
theorem notNegative_unpack_pack {value : UnpackedFloat} (notNegative : NotNegative value) :
    NotNegative (unpack Format.binary64 (UnpackedFloat.pack Format.binary64 value)) := by
  rcases value with (_ | _) | _ | (_ | _) | ⟨_ | _, mantissa, exponent, positive⟩ <;>
    first | exact False.elim notNegative | trivial | skip
  rw [pack_finite]
  split
  · rw [unpack_packedInfinity]
    trivial
  · rename_i noOverflow
    split
    · apply notNegative_unpack_packComponents
      intro equal
      have last := congrArg BitVec.toNat equal
      rw [BitVec.toNat_ofNat, Nat.mod_eq_of_lt (by omega)] at last
      change _ = 2047 at last
      omega
    · exact notNegative_unpack_packComponents _ (by decide)

theorem notNegative_ofMantissa (mantissa : ℕ) (exponent : ℤ) :
    NotNegative (ofMantissa mantissa exponent) := by
  by_cases zero : mantissa = 0
  · rw [ofMantissa, dif_pos zero]
    trivial
  · rw [ofMantissa, dif_neg zero]
    trivial

theorem notNegative_roundWithAccuracy (mantissa : ℕ) (exponent : ℤ) (accuracy : Accuracy) :
    NotNegative (roundWithAccuracy Format.binary64 .positive mantissa exponent accuracy) := by
  change NotNegative (ofMantissa _ _)
  exact notNegative_ofMantissa _ _

/-- What is not below zero is infinite, zero or positive. -/
theorem of_isNonneg {x : Float} (nonneg : IsNonneg x) :
    (x.toModel.unpack = .infinity .positive ∨ ∃ sign, x.toModel.unpack = .zero sign) ∨
      ∃ mantissa exponent positive,
        x.toModel.unpack = .finite .positive mantissa exponent positive := by
  have notNegative := isNonneg_iff.mp nonneg
  generalize x.toModel.unpack = value at notNegative ⊢
  rcases value with (_ | _) | _ | sign | ⟨_ | _, mantissa, exponent, positive⟩
  case infinity.positive => exact .inl (.inl rfl)
  case zero => exact .inl (.inr ⟨sign, rfl⟩)
  case finite.positive => exact .inr ⟨mantissa, exponent, positive, rfl⟩
  all_goals exact False.elim notNegative

/-- An amount is zero or positive. -/
theorem of_isAmount {x : Float} (amount : IsAmount x) :
    (∃ sign, x.toModel.unpack = .zero sign) ∨
      ∃ mantissa exponent positive,
        x.toModel.unpack = .finite .positive mantissa exponent positive := by
  rcases of_isNonneg ⟨isNaN_of_finite x amount.finite, amount.nonneg⟩ with
    (infinite | zero) | positive
  · rcases of_isFinite amount.finite with ⟨_, unpacked⟩ | ⟨_, _, _, _, unpacked⟩ <;>
      exact nomatch unpacked.symm.trans infinite
  · exact .inl zero
  · exact .inr positive

/-- What is above zero is positive, or infinite. -/
theorem of_less_zero {x : Float} (above : less Measure.zero x = true) :
    x.toModel.unpack = .infinity .positive ∨ ∃ mantissa exponent positive,
        x.toModel.unpack = .finite .positive mantissa exponent positive := by
  rw [less_eq, unpack_zero] at above
  generalize x.toModel.unpack = value at above ⊢
  rcases value with (_ | _) | _ | _ | ⟨_ | _, mantissa, exponent, positive⟩
  case infinity.positive => exact .inl rfl
  case finite.positive => exact .inr ⟨mantissa, exponent, positive, rfl⟩
  all_goals exact Bool.noConfusion above

theorem mul_eq (x y : Float) :
    x * y = ofUnpacked (UnpackedFloat.mul Format.binary64 x.toModel.unpack y.toModel.unpack) := rfl

theorem isNonneg_ofUnpacked {value : UnpackedFloat} (notNegative : NotNegative value) :
    IsNonneg (ofUnpacked value) :=
  isNonneg_iff.mpr (notNegative_unpack_pack notNegative)

theorem isNonneg_mul (x y : Float) (amount : IsAmount x) (other : IsAmount y) :
    IsNonneg (x * y) := by
  rw [mul_eq]
  apply isNonneg_ofUnpacked
  rcases of_isAmount amount with ⟨_, unpacked⟩ | ⟨_, _, _, unpacked⟩ <;>
    rcases of_isAmount other with ⟨_, otherUnpacked⟩ | ⟨_, _, _, otherUnpacked⟩ <;>
    rw [unpacked, otherUnpacked] <;>
    first | trivial | exact notNegative_roundWithAccuracy _ _ _

theorem isNonneg_div (x y : Float) (amount : IsAmount x) (above : less Measure.zero y = true) :
    IsNonneg (x / y) := by
  rw [div_eq]
  apply isNonneg_ofUnpacked
  rcases of_isAmount amount with ⟨_, unpacked⟩ | ⟨_, _, _, unpacked⟩ <;>
    rcases of_less_zero above with otherUnpacked | ⟨_, _, _, otherUnpacked⟩ <;>
    rw [unpacked, otherUnpacked] <;>
    first | trivial | exact notNegative_roundWithAccuracy _ _ _

/-- A finite number above zero. -/
theorem of_finite_above_zero {x : Float} (finite : isFinite x = true)
    (above : less Measure.zero x = true) :
    ∃ mantissa exponent, ∃ canonical : Canonical mantissa exponent,
      x.toModel.unpack = .finite .positive mantissa exponent canonical.mantissa_pos := by
  rcases of_less_zero above with infinite | ⟨mantissa, exponent, positive, unpacked⟩
  · rcases of_isFinite finite with ⟨_, unpacked⟩ | ⟨_, _, _, _, unpacked⟩ <;>
      exact nomatch unpacked.symm.trans infinite
  · exact ⟨mantissa, exponent, canonical_of_unpack unpacked, unpacked⟩

theorem isFinite_of_unpack {x : Float} {sign : Sign} {m : ℕ} {e : ℤ} {positive : 0 < m}
    (unpacked : x.toModel.unpack = .finite sign m e positive) : isFinite x = true := by
  change x.toModel.unpack.isFinite = true
  rw [unpacked]
  rfl

/-- What no finite number is below is finite, if it is above zero. -/
theorem isFinite_of_atMost {s t : Float} (above : less Measure.zero s = true)
    (finite : isFinite t = true) (atMost : AtMost s t) : isFinite s = true := by
  rcases of_less_zero above with infinite | ⟨_, _, _, unpacked⟩
  · have below : less t s = true := by
      rw [less_eq, infinite, ← unpack_infinity, ← less_eq]
      exact ordered.less_infinity t finite
    rw [AtMost, below] at atMost
    exact absurd atMost (by decide)
  · exact isFinite_of_unpack unpacked

theorem less_zero_of_atMost {s t : Float} (above : less Measure.zero s = true)
    (finite : isFinite t = true) (atMost : AtMost s t) : less Measure.zero t = true := by
  rcases notAbove : less Measure.zero t with _ | _
  · have below : AtMost s Measure.zero :=
      ordered.atMost_trans s t _ (isNaN_of_finite t finite) atMost notAbove
    rw [AtMost, above] at below
    exact absurd below (by decide)
  · rfl

/-- Quotients of a finite positive double by doubles are in the reverse order of these. -/
theorem div_antitone_finite {x s t : Float} {m m₁ m₂ : ℕ} {e e₁ e₂ : ℤ} {positive : 0 < m}
    (unpacked : x.toModel.unpack = .finite .positive m e positive)
    (canonical : Canonical m₁ e₁) (other : Canonical m₂ e₂)
    (sUnpacked : s.toModel.unpack = .finite .positive m₁ e₁ canonical.mantissa_pos)
    (tUnpacked : t.toModel.unpack = .finite .positive m₂ e₂ other.mantissa_pos)
    (le : e₁ < e₂ ∨ e₁ = e₂ ∧ m₁ ≤ m₂) :
    rank (x / t).toModel.unpack ≤ rank (x / s).toModel.unpack := by
  rcases div_eq_carry positive canonical.mantissa_pos with ⟨larger, largerRepresents, byS⟩
  rcases div_eq_carry positive other.mantissa_pos with ⟨smaller, smallerRepresents, byT⟩
  rw [div_eq, div_eq, unpacked, sUnpacked, tUnpacked, byS, byT]
  exact rank_nearest_le (quotient_pos positive other.mantissa_pos _ _) smallerRepresents
    largerRepresents (quotient_le canonical other le)

/-- Only quotients of what is finite and positive are rounded; the others are all the same. -/
theorem div_antitone (x s t : Float) (nonneg : IsNonneg x) (above : less Measure.zero s = true)
    (finite : isFinite t = true) (atMost : AtMost s t) : AtMost (x / t) (x / s) := by
  have tAbove := less_zero_of_atMost above finite atMost
  rcases of_finite_above_zero finite tAbove with ⟨m₂, e₂, other, tUnpacked⟩
  rcases of_finite_above_zero (isFinite_of_atMost above finite atMost) above with
    ⟨m₁, e₁, canonical, sUnpacked⟩
  rcases of_isNonneg nonneg with special | ⟨m, e, positive, unpacked⟩
  · have same : x / t = x / s := by
      rcases special with unpacked | ⟨sign, unpacked⟩ <;>
        rw [div_eq, div_eq, unpacked, sUnpacked, tUnpacked] <;> rfl
    rw [same]
    exact ordered.atMost_refl _
  · have amount : IsAmount x := ⟨isFinite_of_unpack unpacked, nonneg.nonneg⟩
    have ranks := (atMost_iff_rank (isNaN_of_less above).2 (isNaN_of_finite t finite)).mp atMost
    have le : e₁ < e₂ ∨ e₁ = e₂ ∧ m₁ ≤ m₂ := by
      rw [sUnpacked, tUnpacked] at ranks
      dsimp only [rank] at ranks
      simpa [Prod.Lex.toLex_le_toLex] using ranks
    rw [atMost_iff_rank (isNonneg_div x t amount tAbove).number
      (isNonneg_div x s amount above).number]
    exact div_antitone_finite unpacked canonical other sUnpacked tUnpacked le

end Double

theorem Measure.rates_float : Rates Float where
  toOrdered := Double.ordered
  isAmount_ofWord word isWord := by
    rcases Nat.eq_zero_or_pos word with rfl | positive
    · exact ⟨by decide +kernel, by decide +kernel⟩
    · rcases Double.ofWord_pos positive isWord with ⟨finite, above⟩
      exact ⟨finite, Double.ordered.less_asymm _ _ above⟩
  ofWord_pos word positive isWord := (Double.ofWord_pos positive isWord).2
  isAmount_billionth := ⟨by decide +kernel, by decide +kernel⟩
  unit_pos unit := by
    cases unit with
    | megabytes => decide +kernel
    | mebibytes => exact (Double.ofWord_pos (by decide) (by decide)).2
  mul_nonneg := Double.isNonneg_mul
  div_nonneg := Double.isNonneg_div
  div_antitone := Double.div_antitone

end Bandwidth
