import Bandwidth.Benchmark.Verdict
import Bandwidth.Word

/-!
# Verdicts on exact results

A result that is exactly what was expected has no error, and no error is past a limit. This rests on
a few rules of the arithmetic in which errors are computed, and on the expected values being finite:
the difference of two infinities is not a number.
-/

namespace Bandwidth

open Bandwidth.Measure Bandwidth.Scalar

/-- The rules of rounded arithmetic on which a verdict rests. -/
structure Measure.Rules (δ : Type) [Measure δ] : Prop where
  sub_self : ∀ x : δ, isFinite x = true → x - x = zero
  abs_zero : Measure.abs (zero : δ) = zero
  zero_add_zero : (zero : δ) + zero = zero
  sumStart_add_zero : (sumStart : δ) + zero = zero
  zero_div : ∀ x : δ, isFinite x = true → less zero x = true → zero / x = zero
  /-- Words are rounded to finite numbers, and only zero to zero. -/
  ofWord_pos : ∀ word, 0 < word → word < Word.bound →
    isFinite (ofWord word : δ) = true ∧ less (zero : δ) (ofWord word) = true
  abs_pos : ∀ x : δ, isFinite x = true → isZero x = false →
    isFinite (Measure.abs x) = true ∧ less zero (Measure.abs x) = true
  isNaN_zero : isNaN (zero : δ) = false

/-- The rules, and limits that are not negative. -/
structure Scalar.Rules (α δ : Type) [Measure δ] [Scalar α δ] : Prop extends Measure.Rules δ where
  array_limit : less (100.0 * widen (epsilon : α)) (zero : δ) = false
  dot_limit : less (dotTolerance α) (zero : δ) = false

theorem Measure.Rules.sum_replicate_zero {δ : Type} [Measure δ] (rules : Measure.Rules δ)
    {count : Nat} (positive : 0 < count) :
    Measure.sum (List.replicate count (zero : δ)) = zero := by
  have stays : ∀ count, (List.replicate count (zero : δ)).foldl (· + ·) zero = zero := by
    intro count
    induction count with
    | zero => rfl
    | succ count ih => rw [List.replicate_succ, List.foldl_cons, rules.zero_add_zero, ih]
  rcases count with _ | count
  · omega
  · rw [Measure.sum, List.replicate_succ, List.foldl_cons, rules.sumStart_add_zero, stays]

namespace Verdict

variable {α δ : Type} [Measure δ] [Scalar α δ]

theorem relativeTo_zero (rules : Measure.Rules δ) {expected : δ}
    (finite : isFinite expected = true) :
    relativeTo zero expected = (zero : δ) := by
  unfold relativeTo
  split
  · rfl
  · rename_i nonzero
    have positive := rules.abs_pos expected finite (Bool.eq_false_iff.mpr nonzero)
    exact rules.zero_div _ positive.1 positive.2

/-- An array that repeats the expected value has no error. -/
theorem meanError_replicate (rules : Measure.Rules δ) {value : α}
    (finite : isFinite (widen value) = true) {length : Nat} (positive : 0 < length)
    (isWord : length < Word.bound) :
    meanError (Array.replicate length value) value = (zero : δ) := by
  have differences : ((Array.replicate length value).toList.map fun element =>
      Measure.abs (widen element - widen value)) = List.replicate length (zero : δ) := by
    rw [Array.toList_replicate, List.map_replicate, rules.sub_self _ finite, rules.abs_zero]
  have words := rules.ofWord_pos length positive isWord
  have filled : (Array.replicate length value).isEmpty = false := by
    simp only [Array.isEmpty, Array.size_replicate, decide_eq_false_iff_not]
    omega
  simp only [meanError, filled, differences, rules.sum_replicate_zero positive,
    Array.size_replicate, rules.zero_div _ words.1 words.2]
  exact relativeTo_zero rules finite

theorem dotErrorOf_self (rules : Measure.Rules δ) {value : α}
    (finite : isFinite (widen value) = true) :
    dotErrorOf value value = (zero : δ) := by
  rw [dotErrorOf, rules.sub_self _ finite, rules.abs_zero, relativeTo_zero rules finite]

omit [Scalar α δ] in
theorem exceeds_zero (rules : Measure.Rules δ) {limit : δ} (limited : less limit zero = false) :
    exceeds zero limit = false := by
  rw [exceeds, rules.isNaN_zero, limited, Bool.or_self]

variable {report : Report α δ} {plan : Plan δ}

theorem arrayErrors_eq_zero (rules : Measure.Rules δ) (positive : 0 < report.arraySize)
    (isWord : report.arraySize < Word.bound)
    (finite : (plan.expected report.arraySize : Expected α).arrays.all
      (fun value => isFinite (widen value)) = true)
    (equal : report.arrays =
      (plan.expected report.arraySize : Expected α).arrays.map (Array.replicate report.arraySize)) :
    (ofReport report plan).arrayErrors = ⟨zero, zero, zero⟩ := by
  simp only [Triple.all, Bool.and_eq_true] at finite
  simp only [ofReport, equal, Triple.map, meanError_replicate rules finite.1.1 positive isWord,
    meanError_replicate rules finite.1.2 positive isWord,
    meanError_replicate rules finite.2 positive isWord]

variable (rules : Scalar.Rules α δ)
include rules

/-- Arrays without errors are within their limit. -/
theorem exceeds_array_eq_false (exact : (ofReport report plan).arrayErrors = ⟨zero, zero, zero⟩)
    (role : Role) :
    exceeds ((ofReport report plan).arrayErrors.at role) (ofReport report plan).arrayLimit =
      false := by
  have none : ((ofReport report plan).arrayErrors.at role) = zero := by
    rw [exact]
    cases role <;> rfl
  rw [none]
  exact exceeds_zero rules.toRules rules.array_limit

theorem array_not_mem_shortfalls (exact : (ofReport report plan).arrayErrors = ⟨zero, zero, zero⟩)
    (role : Role) (error : δ) : .array role error ∉ (ofReport report plan).shortfalls := by
  simp [shortfalls, exceeds_array_eq_false rules exact]

theorem passed_of_exact (exact : (ofReport report plan).arrayErrors = ⟨zero, zero, zero⟩)
    (exactDot : ∀ error, (ofReport report plan).dotError = some error → error = zero) :
    (ofReport report plan).passed = true := by
  have dots : (ofReport report plan).dotError.toList.filter
      (fun error => exceeds error (ofReport report plan).dotLimit) = [] := by
    rw [List.filter_eq_nil_iff]
    intro error errorMem
    rw [exactDot error (Option.mem_toList.mp errorMem)]
    exact Bool.eq_false_iff.mp (exceeds_zero rules.toRules rules.dot_limit)
  simp [passed, shortfalls, exceeds_array_eq_false rules exact, dots]

end Verdict

end Bandwidth
