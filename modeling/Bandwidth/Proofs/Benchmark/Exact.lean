import Bandwidth.Proofs.Benchmark.Verdicts
import Bandwidth.Proofs.Dot.Total
import Mathlib.Data.Rat.Cast.Order

/-!
# Exact arithmetic

Where elements and measures are numbers of one commutative semiring, with exact sums, products and
conversions, the dot product of two uniform arrays is the one that a plan expects. The rational
numbers are such elements, and such measures.
-/

namespace Bandwidth

open Bandwidth.Measure Bandwidth.Scalar

/-- Elements and measures stand for numbers, with which they are added, multiplied and converted
exactly. -/
structure Scalar.Exact {α δ N : Type} [Measure δ] [Scalar α δ] [CommSemiring N] (value : α → N)
    (measured : δ → N) : Prop extends Dot.Additive value where
  injective : Function.Injective value
  mul : ∀ x y, value (x * y) = value x * value y
  measured_mul : ∀ x y, measured (x * y) = measured x * measured y
  measured_ofWord : ∀ word < Word.bound, measured (ofWord word) = word
  measured_widen : ∀ x, measured (widen x) = value x
  value_narrow : ∀ x, value (narrow x) = measured x

variable {α δ N : Type} [Measure δ] [Scalar α δ] [CommSemiring N]

theorem Plan.uniformDot_eq_listSum {value : α → N} {measured : δ → N}
    (exact : Scalar.Exact value measured) {blocks : Nat} (positive : 0 < blocks) {length : Nat}
    (isWord : length < Word.bound) (values : Triple α) :
    Dot.listSum blocks (List.replicate length values.a) (List.replicate length values.b) =
      Plan.uniformDot values length := by
  apply exact.injective
  rw [Dot.value_listSum_replicate exact.toAdditive positive, uniformDot, exact.value_narrow,
    exact.measured_mul, exact.measured_mul, exact.measured_widen, exact.measured_widen,
    exact.measured_ofWord length isWord, exact.mul, nsmul_eq_mul, mul_comm]

/-- Rational numbers measure errors and times without rounding; those past the range of single
precision count as infinite. -/
instance : Measure Rat where
  zero := 0
  sumStart := 0
  infinity := 2 ^ 128
  ofWord word := word
  abs x := |x|
  less x y := decide (x < y)
  isZero x := x == 0
  isNaN _ := false
  isFinite x := decide (|x| < 2 ^ 128)
  takesFirstForLeast _ _ := false
  takesFirstForGreatest _ _ := false

instance : Scalar Rat Rat where
  zero := 0
  factor := 3
  precision := .double
  epsilon := 2 ^ (-52 : Int)
  dotTolerance := 1.0e-8
  narrow := id
  widen := id
  magnitude x := |x|

theorem Scalar.exact_rat : Scalar.Exact (id : Rat → Rat) (id : Rat → Rat) where
  zero := rfl
  add _ _ := rfl
  injective := Function.injective_id
  mul _ _ := rfl
  measured_mul _ _ := rfl
  measured_ofWord _ _ := rfl
  measured_widen _ := rfl
  value_narrow _ := rfl

theorem Scalar.rules_rat : Scalar.Rules Rat Rat where
  sub_self x _ := sub_self x
  abs_zero := by
    change |(0 : Rat)| = 0
    simp
  zero_add_zero := add_zero 0
  sumStart_add_zero := add_zero 0
  zero_div x _ _ := zero_div x
  ofWord_pos word positive isWord := by
    change decide (|(word : Rat)| < 2 ^ 128) = true ∧ decide ((0 : Rat) < word) = true
    have small : word < 2 ^ 128 := Nat.lt_trans isWord (by decide)
    simp only [decide_eq_true_eq, Nat.abs_cast]
    exact ⟨by exact_mod_cast small, by exact_mod_cast positive⟩
  abs_pos x finite nonzero := by
    change decide (|(|x|)| < 2 ^ 128) = true ∧ decide ((0 : Rat) < |x|) = true
    have different : x ≠ 0 := by
      intro equal
      subst equal
      exact absurd nonzero (by decide)
    rw [abs_abs]
    exact ⟨finite, decide_eq_true (abs_pos.mpr different)⟩
  isNaN_zero := rfl
  array_limit := by decide +kernel
  dot_limit := by decide +kernel

end Bandwidth
