import Bandwidth.Proofs.Benchmark.Double

/-!
# Special values

What is no number, and infinities, do not get lost in a computation of errors: an infinite
difference has an infinite magnitude, and no further summand and no finite divisor makes a finite
number of it. This rests on the rules for special values alone, and needs nothing that rounding does
to finite numbers. The rules hold of binary64 numbers, where they are told by the cases of a double.
-/

namespace Bandwidth

open Bandwidth.Measure

namespace Measure

variable {δ : Type} [Measure δ]

/-- An infinity of either sign. -/
def IsInfinite (x : δ) : Prop := isNaN x = false ∧ isFinite x = false

variable (δ) in
/-- What arithmetic makes of values that are not finite. -/
structure SpecialValues : Prop where
  nan_add : ∀ x y : δ, isNaN x = true → isNaN (x + y) = true
  add_nan : ∀ x y : δ, isNaN y = true → isNaN (x + y) = true
  nan_sub : ∀ x y : δ, isNaN x = true → isNaN (x - y) = true
  sub_nan : ∀ x y : δ, isNaN y = true → isNaN (x - y) = true
  nan_div : ∀ x y : δ, isNaN x = true → isNaN (x / y) = true
  div_nan : ∀ x y : δ, isNaN y = true → isNaN (x / y) = true
  abs_nan : ∀ x : δ, isNaN x = true → isNaN (Measure.abs x) = true
  isInfinite_infinity : IsInfinite (infinity : δ)
  abs_infinite : ∀ x : δ, IsInfinite x → Measure.abs x = infinity
  infinite_sub : ∀ x y : δ, IsInfinite x → isFinite y = true → IsInfinite (x - y)
  sub_infinite : ∀ x y : δ, isFinite x = true → IsInfinite y → IsInfinite (x - y)
  /-- Infinities of one sign have no difference, and those of two signs have an infinite one. -/
  infinite_sub_infinite : ∀ x y : δ, IsInfinite x → IsInfinite y →
    isNaN (x - y) = true ∨ IsInfinite (x - y)
  infinity_add : ∀ x : δ, isFinite x = true → infinity + x = infinity
  add_infinity : ∀ x : δ, isFinite x = true → x + infinity = infinity
  /-- Infinities of one sign add up to it, and those of two signs to nothing. -/
  infinity_add_infinite : ∀ x : δ, IsInfinite x →
    infinity + x = infinity ∨ isNaN (infinity + x) = true
  infinite_add_infinity : ∀ x : δ, IsInfinite x →
    x + infinity = infinity ∨ isNaN (x + infinity) = true
  infinity_div : ∀ x : δ, isFinite x = true → less zero x = true → infinity / x = infinity
  infinite_div_infinite : ∀ x y : δ, IsInfinite x → IsInfinite y → isNaN (x / y) = true
  less_infinity : ∀ x : δ, isFinite x = true → less x infinity = true
  /-- Lengths of arrays and magnitudes are divisors. -/
  ofWord_pos : ∀ word, 0 < word → word < Word.bound →
    isFinite (ofWord word : δ) = true ∧ less (zero : δ) (ofWord word) = true
  abs_pos : ∀ x : δ, isFinite x = true → isZero x = false →
    isFinite (Measure.abs x) = true ∧ less zero (Measure.abs x) = true

/-- A magnitude that is not finite: no number, or infinite. -/
def Unbounded (x : δ) : Prop := isNaN x = true ∨ x = infinity

namespace SpecialValues

variable (rules : SpecialValues δ) {x y : δ}
include rules

omit rules in
/-- What is not finite is no number, or infinite. -/
theorem cases_of_not_finite (infinite : isFinite x = false) : isNaN x = true ∨ IsInfinite x := by
  rcases nan : isNaN x with _ | _
  · exact .inr ⟨nan, infinite⟩
  · exact .inl rfl

omit rules in
theorem cases (x : δ) : isNaN x = true ∨ isFinite x = true ∨ IsInfinite x := by
  rcases finite : isFinite x with _ | _
  · exact (cases_of_not_finite finite).imp_right .inr
  · exact .inr (.inl rfl)

/-- A distance is not bounded unless both ends are finite. -/
theorem unbounded_abs_sub (infinite : isFinite x = false ∨ isFinite y = false) :
    Unbounded (Measure.abs (x - y)) := by
  have difference : isNaN (x - y) = true ∨ IsInfinite (x - y) := by
    rcases cases x with nan | finite | unbounded
    · exact .inl (rules.nan_sub x y nan)
    · have yInfinite : isFinite y = false := by simpa [finite] using infinite
      rcases cases_of_not_finite yInfinite with nan | unbounded
      · exact .inl (rules.sub_nan x y nan)
      · exact .inr (rules.sub_infinite x y finite unbounded)
    · rcases cases y with nan | finite | yUnbounded
      · exact .inl (rules.sub_nan x y nan)
      · exact .inr (rules.infinite_sub x y unbounded finite)
      · exact rules.infinite_sub_infinite x y unbounded yUnbounded
  exact difference.imp (rules.abs_nan _) (rules.abs_infinite _)

theorem unbounded_add_left (unbounded : Unbounded x) (y : δ) : Unbounded (x + y) := by
  rcases unbounded with nan | rfl
  · exact .inl (rules.nan_add x y nan)
  · rcases cases y with nan | finite | infinite
    · exact .inl (rules.add_nan _ y nan)
    · exact .inr (rules.infinity_add y finite)
    · exact (rules.infinity_add_infinite y infinite).symm

theorem unbounded_add_right (x : δ) (unbounded : Unbounded y) : Unbounded (x + y) := by
  rcases unbounded with nan | rfl
  · exact .inl (rules.add_nan x y nan)
  · rcases cases x with nan | finite | infinite
    · exact .inl (rules.nan_add x _ nan)
    · exact .inr (rules.add_infinity x finite)
    · exact (rules.infinite_add_infinity x infinite).symm

/-- One unbounded summand makes a sum unbounded, wherever it stands. -/
theorem unbounded_sum {values : List δ} (there : ∃ value ∈ values, Unbounded value) :
    Unbounded (Measure.sum values) := by
  have stays : ∀ (values : List δ) (total : δ), Unbounded total →
      Unbounded (values.foldl (· + ·) total) := by
    intro values
    induction values with
    | nil => exact fun _ unbounded => unbounded
    | cons value values ih =>
        exact fun total unbounded => ih _ (rules.unbounded_add_left unbounded value)
  have from_total : ∀ (values : List δ) (total : δ), (∃ value ∈ values, Unbounded value) →
      Unbounded (values.foldl (· + ·) total) := by
    intro values
    induction values with
    | nil =>
        rintro total ⟨value, mem, _⟩
        exact absurd mem List.not_mem_nil
    | cons value values ih =>
        rintro total ⟨bad, mem, unbounded⟩
        rcases List.mem_cons.mp mem with rfl | later
        · exact stays values _ (rules.unbounded_add_right total unbounded)
        · exact ih _ ⟨bad, later, unbounded⟩
  exact from_total values sumStart there

theorem unbounded_div (unbounded : Unbounded x) (finite : isFinite y = true)
    (positive : less zero y = true) : Unbounded (x / y) := by
  rcases unbounded with nan | rfl
  · exact .inl (rules.nan_div x y nan)
  · exact .inr (rules.infinity_div y finite positive)

/-- In proportion to an infinite value, an unbounded error is no number. -/
theorem unbounded_div_abs (unbounded : Unbounded x) (nonzero : isZero y = false) :
    Unbounded (x / Measure.abs y) := by
  rcases cases y with nan | finite | infinite
  · exact .inl (rules.div_nan x _ (rules.abs_nan y nan))
  · rcases rules.abs_pos y finite nonzero with ⟨absFinite, positive⟩
    exact rules.unbounded_div unbounded absFinite positive
  · rw [rules.abs_infinite y infinite]
    rcases unbounded with nan | rfl
    · exact .inl (rules.nan_div x _ nan)
    · exact .inl (rules.infinite_div_infinite _ _ rules.isInfinite_infinity
        rules.isInfinite_infinity)

end SpecialValues

end Measure

namespace Double

open Float.Model UnpackedFloat

/-- The double that a result is packed into. -/
def ofUnpacked (value : UnpackedFloat) : Float := .ofModel (Float.Model.pack value)

theorem add_eq (x y : Float) :
    x + y = ofUnpacked (UnpackedFloat.add Format.binary64 x.toModel.unpack y.toModel.unpack) := rfl

theorem sub_eq (x y : Float) :
    x - y = ofUnpacked (UnpackedFloat.sub Format.binary64 x.toModel.unpack y.toModel.unpack) := rfl

theorem div_eq (x y : Float) :
    x / y = ofUnpacked (UnpackedFloat.div Format.binary64 x.toModel.unpack y.toModel.unpack) := rfl

theorem abs_eq (x : Float) : Measure.abs x = ofUnpacked x.toModel.unpack.abs := rfl

theorem isNaN_iff {x : Float} : Measure.isNaN x = true ↔ x.toModel.unpack = .notANumber := by
  change x.toModel.unpack.isNaN = true ↔ _
  cases x.toModel.unpack with
  | notANumber => exact iff_of_true rfl rfl
  | _ => exact iff_of_false Bool.false_ne_true nofun

theorem isInfinite_iff {x : Float} :
    Measure.IsInfinite x ↔ ∃ sign, x.toModel.unpack = .infinity sign := by
  change x.toModel.unpack.isNaN = false ∧ x.toModel.unpack.isFinite = false ↔ _
  cases x.toModel.unpack with
  | infinity sign => exact iff_of_true ⟨rfl, rfl⟩ ⟨sign, rfl⟩
  | notANumber => exact iff_of_false (fun infinite => Bool.noConfusion infinite.1) nofun
  | _ => exact iff_of_false (fun infinite => Bool.noConfusion infinite.2) nofun

theorem of_isFinite {x : Float} (finite : Measure.isFinite x = true) :
    (∃ sign, x.toModel.unpack = .zero sign) ∨
      ∃ sign mantissa exponent positive,
        x.toModel.unpack = .finite sign mantissa exponent positive := by
  change x.toModel.unpack.isFinite = true at finite
  cases unpacked : x.toModel.unpack with
  | infinity sign => exact Bool.noConfusion (unpacked ▸ finite)
  | notANumber => exact Bool.noConfusion (unpacked ▸ finite)
  | zero sign => exact .inl ⟨sign, rfl⟩
  | finite sign mantissa exponent positive =>
      exact .inr ⟨sign, mantissa, exponent, positive, rfl⟩

theorem isNaN_notANumber : Measure.isNaN (ofUnpacked .notANumber) = true := by decide +kernel

theorem isInfinite_infinity (sign : Sign) : Measure.IsInfinite (ofUnpacked (.infinity sign)) := by
  cases sign <;> exact ⟨by decide +kernel, by decide +kernel⟩

theorem infinity_eq : (Measure.infinity : Float) = ofUnpacked (.infinity .positive) := by
  decide +kernel

theorem unpack_infinity :
    (Measure.infinity : Float).toModel.unpack = .infinity .positive := by
  rw [infinity_eq]
  rfl

end Double

theorem Measure.specialValues_float : Measure.SpecialValues Float where
  nan_add x y nan := by
    rw [Double.add_eq, Double.isNaN_iff.mp nan]
    exact Double.isNaN_notANumber
  add_nan x y nan := by
    rw [Double.add_eq, Double.isNaN_iff.mp nan]
    cases x.toModel.unpack <;> exact Double.isNaN_notANumber
  nan_sub x y nan := by
    rw [Double.sub_eq, Double.isNaN_iff.mp nan]
    exact Double.isNaN_notANumber
  sub_nan x y nan := by
    rw [Double.sub_eq, Double.isNaN_iff.mp nan]
    cases x.toModel.unpack <;> exact Double.isNaN_notANumber
  nan_div x y nan := by
    rw [Double.div_eq, Double.isNaN_iff.mp nan]
    exact Double.isNaN_notANumber
  div_nan x y nan := by
    rw [Double.div_eq, Double.isNaN_iff.mp nan]
    cases x.toModel.unpack <;> exact Double.isNaN_notANumber
  abs_nan x nan := by
    rw [Double.abs_eq, Double.isNaN_iff.mp nan]
    exact Double.isNaN_notANumber
  isInfinite_infinity := by
    rw [Double.infinity_eq]
    exact Double.isInfinite_infinity .positive
  abs_infinite x infinite := by
    rcases Double.isInfinite_iff.mp infinite with ⟨sign, unpacked⟩
    rw [Double.abs_eq, unpacked, Double.infinity_eq]
    rfl
  infinite_sub x y infinite finite := by
    rcases Double.isInfinite_iff.mp infinite with ⟨sign, unpacked⟩
    rcases Double.of_isFinite finite with ⟨_, other⟩ | ⟨_, _, _, _, other⟩ <;>
      rw [Double.sub_eq, unpacked, other] <;> exact Double.isInfinite_infinity sign
  sub_infinite x y finite infinite := by
    rcases Double.isInfinite_iff.mp infinite with ⟨sign, unpacked⟩
    rcases Double.of_isFinite finite with ⟨_, other⟩ | ⟨_, _, _, _, other⟩ <;>
      rw [Double.sub_eq, unpacked, other] <;> exact Double.isInfinite_infinity (-sign)
  infinite_sub_infinite x y infinite yInfinite := by
    rcases Double.isInfinite_iff.mp infinite with ⟨sign, unpacked⟩
    rcases Double.isInfinite_iff.mp yInfinite with ⟨ySign, other⟩
    rw [Double.sub_eq, unpacked, other]
    cases sign <;> cases ySign
    · exact .inl Double.isNaN_notANumber
    · exact .inr (Double.isInfinite_infinity _)
    · exact .inr (Double.isInfinite_infinity _)
    · exact .inl Double.isNaN_notANumber
  infinity_add x finite := by
    rcases Double.of_isFinite finite with ⟨_, other⟩ | ⟨_, _, _, _, other⟩ <;>
      rw [Double.add_eq, Double.unpack_infinity, other, Double.infinity_eq] <;> rfl
  add_infinity x finite := by
    rcases Double.of_isFinite finite with ⟨_, other⟩ | ⟨_, _, _, _, other⟩ <;>
      rw [Double.add_eq, Double.unpack_infinity, other, Double.infinity_eq] <;> rfl
  infinity_add_infinite x infinite := by
    rcases Double.isInfinite_iff.mp infinite with ⟨sign, unpacked⟩
    rw [Double.add_eq, Double.unpack_infinity, unpacked, Double.infinity_eq]
    cases sign
    · exact .inr Double.isNaN_notANumber
    · exact .inl rfl
  infinite_add_infinity x infinite := by
    rcases Double.isInfinite_iff.mp infinite with ⟨sign, unpacked⟩
    rw [Double.add_eq, Double.unpack_infinity, unpacked, Double.infinity_eq]
    cases sign
    · exact .inr Double.isNaN_notANumber
    · exact .inl rfl
  infinity_div x finite positive := by
    have above := Double.isPositive_iff.mpr ⟨finite, positive⟩
    rw [Double.div_eq, Double.unpack_infinity, Double.infinity_eq]
    cases unpacked : x.toModel.unpack <;> rw [unpacked] at above
    case finite sign mantissa exponent positive =>
      cases sign with
      | positive => rfl
      | negative => exact False.elim above
    all_goals exact False.elim above
  infinite_div_infinite x y infinite yInfinite := by
    rcases Double.isInfinite_iff.mp infinite with ⟨sign, unpacked⟩
    rcases Double.isInfinite_iff.mp yInfinite with ⟨ySign, other⟩
    rw [Double.div_eq, unpacked, other]
    exact Double.isNaN_notANumber
  less_infinity x finite := by
    rw [Double.less_eq, Double.unpack_infinity]
    rcases Double.of_isFinite finite with ⟨_, unpacked⟩ | ⟨_, _, _, _, unpacked⟩ <;>
      rw [unpacked] <;> rfl
  ofWord_pos _ := Double.ofWord_pos
  abs_pos := Double.abs_pos

end Bandwidth
