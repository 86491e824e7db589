import Bandwidth.Proofs.Benchmark.SpecialValues

/-!
# Verdicts on results that are not finite

A single element that is infinite or no number makes the mean error of its array unbounded, wherever
the element stands and whatever the others are, and so does an expected value that is not finite. An
unbounded error is past every finite limit. So such a run does not pass its check, and the shortfall
of the array, or of the dot product, is among those that are reported.
-/

namespace Bandwidth

open Bandwidth.Measure Bandwidth.Scalar

/-- The rules for special values, and limits that are finite. -/
structure Scalar.SpecialValues (α δ : Type) [Measure δ] [Scalar α δ] : Prop
    extends Measure.SpecialValues δ where
  array_limit : isFinite (100.0 * widen (epsilon : α)) = true
  dot_limit : isFinite (dotTolerance α) = true

namespace Verdict

variable {α δ : Type} [Measure δ]

section

variable (rules : Measure.SpecialValues δ)
include rules

/-- An unbounded error stays unbounded in proportion to any expected value, zero or not. -/
theorem unbounded_relativeTo {error : δ} (unbounded : Unbounded error) (expected : δ) :
    Unbounded (relativeTo error expected) := by
  unfold relativeTo
  split
  · exact unbounded
  · rename_i nonzero
    exact rules.unbounded_div_abs unbounded (Bool.eq_false_iff.mpr nonzero)

theorem exceeds_of_unbounded {error limit : δ} (unbounded : Unbounded error)
    (finite : isFinite limit = true) : exceeds error limit = true := by
  rcases unbounded with nan | rfl
  · simp [exceeds, nan]
  · simp [exceeds, rules.less_infinity limit finite]

variable [Scalar α δ]

theorem unbounded_dotErrorOf {value expected : α}
    (bad : isFinite (widen value) = false ∨ isFinite (widen expected) = false) :
    Unbounded (dotErrorOf value expected) :=
  unbounded_relativeTo rules (rules.unbounded_abs_sub bad) _

theorem unbounded_meanError {values : Array α} {expected : α} (positive : 0 < values.size)
    (isWord : values.size < Word.bound)
    (bad : (∃ value ∈ values, isFinite (widen value) = false) ∨
      isFinite (widen expected) = false) :
    Unbounded (meanError values expected) := by
  -- An expected value that is not finite is at no bounded distance from any of the elements.
  have far : ∃ value ∈ values, Unbounded (Measure.abs (widen value - widen expected)) := by
    rcases bad with ⟨value, mem, infinite⟩ | infinite
    · exact ⟨value, mem, rules.unbounded_abs_sub (.inl infinite)⟩
    · exact ⟨values[0], Array.getElem_mem positive, rules.unbounded_abs_sub (.inr infinite)⟩
  have total : Unbounded (Measure.sum (values.toList.map fun value =>
      Measure.abs (widen value - widen expected))) := by
    rcases far with ⟨value, mem, unbounded⟩
    apply rules.unbounded_sum
    exact ⟨_, List.mem_map_of_mem (Array.mem_toList_iff.mpr mem), unbounded⟩
  have length := rules.ofWord_pos values.size positive isWord
  have filled : values.isEmpty = false := by simpa [Array.isEmpty] using Nat.ne_of_gt positive
  simp only [meanError, filled, Bool.false_eq_true, if_false]
  exact unbounded_relativeTo rules (rules.unbounded_div total length.1 length.2) _

end

theorem array_mem_shortfalls {verdict : Verdict δ} {role : Role}
    (past : exceeds (verdict.arrayErrors.at role) verdict.arrayLimit = true) :
    .array role (verdict.arrayErrors.at role) ∈ verdict.shortfalls := by
  apply List.mem_append_left
  apply List.mem_map_of_mem
  rw [List.mem_filter]
  exact ⟨by cases role <;> simp, past⟩

theorem dot_mem_shortfalls {verdict : Verdict δ} {error : δ} (some : verdict.dotError = some error)
    (past : exceeds error verdict.dotLimit = true) : .dot error ∈ verdict.shortfalls := by
  apply List.mem_append_right
  apply List.mem_map_of_mem
  rw [some, List.mem_filter]
  exact ⟨by simp, past⟩

theorem not_passed_of_mem {verdict : Verdict δ} {shortfall : Shortfall δ}
    (mem : shortfall ∈ verdict.shortfalls) : verdict.passed = false := by
  cases listed : verdict.shortfalls with
  | nil => simp [listed] at mem
  | cons => simp [passed, listed]

variable [Scalar α δ]

theorem arrayErrors_at (report : Report α δ) (plan : Plan δ) (role : Role) :
    (ofReport report plan).arrayErrors.at role =
      meanError (report.arrays.at role)
        ((plan.expected report.arraySize : Expected α).arrays.at role) := by
  cases role <;> rfl

/--
No verdict passes over a result that is not finite. If an element of an array, at whatever place and
among whatever others, is infinite or no number, or if the value expected of the array is, then the
array is among the shortfalls. The same holds of the dot product, if it was run. In either case the
report does not pass.
-/
theorem nonfinite_not_passed (rules : Scalar.SpecialValues α δ) (report : Report α δ)
    (plan : Plan δ) (positive : ∀ role, 0 < (report.arrays.at role).size)
    (areWords : ∀ role, (report.arrays.at role).size < Word.bound) :
    let expected : Expected α := plan.expected report.arraySize
    let verdict := ofReport report plan
    (∀ role, ((∃ value ∈ report.arrays.at role, isFinite (widen value) = false) ∨
        isFinite (widen (expected.arrays.at role)) = false) →
      .array role (verdict.arrayErrors.at role) ∈ verdict.shortfalls ∧ verdict.passed = false) ∧
    ∀ value, report.dot = some value →
      (isFinite (widen value) = false ∨ isFinite (widen expected.dot) = false) →
      .dot (dotErrorOf value expected.dot) ∈ verdict.shortfalls ∧ verdict.passed = false := by
  intro expected verdict
  constructor
  · intro role bad
    have past : exceeds (verdict.arrayErrors.at role) verdict.arrayLimit = true := by
      rw [arrayErrors_at]
      exact exceeds_of_unbounded rules.toSpecialValues
        (unbounded_meanError rules.toSpecialValues (positive role) (areWords role) bad)
        rules.array_limit
    have mem := array_mem_shortfalls past
    exact ⟨mem, not_passed_of_mem mem⟩
  · intro value ran bad
    have error : verdict.dotError = some (dotErrorOf value expected.dot) := by
      change report.dot.map _ = _
      rw [ran]
      rfl
    have past : exceeds (dotErrorOf value expected.dot) verdict.dotLimit = true :=
      exceeds_of_unbounded rules.toSpecialValues
        (unbounded_dotErrorOf rules.toSpecialValues bad) rules.dot_limit
    have mem := dot_mem_shortfalls error past
    exact ⟨mem, not_passed_of_mem mem⟩

end Verdict

theorem Scalar.specialValues_float : Scalar.SpecialValues Float Float where
  toSpecialValues := Measure.specialValues_float
  array_limit := by decide +kernel
  dot_limit := by decide +kernel

/-- Results of single precision are judged in double precision too. What the logic does not tell is
the double that a limit of single precision is widened to. -/
theorem Scalar.specialValues_single
    (limit : isFinite (100.0 * widen (epsilon : Float32)) = true) :
    Scalar.SpecialValues Float32 Float where
  toSpecialValues := Measure.specialValues_float
  array_limit := limit
  dot_limit := by decide +kernel

/-- One element that is no number, one infinite element and an infinite dot product are each
reported. -/
theorem Verdict.every_result_of_a_broken_run_reported :
    let nan : Float := 0.0 / 0.0
    let report : Report Float Float :=
      { device := ⟨0, "device", 1, 96⟩, precision := .double, arraySize := 2, residency := .managed,
        iterations := 1, selection := .all, summaries := [],
        arrays := ⟨#[1.0, nan], #[infinity, 1.0], #[1.0, 1.0]⟩, dot := some infinity }
    let plan : Plan Float := ⟨1, .all, ⟨0.1, 0.2, 0.0⟩⟩
    let verdict := ofReport report plan
    .array .a (verdict.arrayErrors.at .a) ∈ verdict.shortfalls ∧
      .array .b (verdict.arrayErrors.at .b) ∈ verdict.shortfalls ∧
      .dot (dotErrorOf infinity (plan.expected report.arraySize : Expected Float).dot) ∈
        verdict.shortfalls ∧
      verdict.passed = false := by
  intro nan report plan verdict
  rcases nonfinite_not_passed Scalar.specialValues_float report plan
    (by intro role; cases role <;> decide) (by intro role; cases role <;> decide) with
    ⟨arrays, dot⟩
  have notNumber := arrays .a (.inl ⟨nan, by simp [report, Triple.at], by decide +kernel⟩)
  have infinite := arrays .b (.inl ⟨infinity, by simp [report, Triple.at], by decide +kernel⟩)
  have infiniteDot := dot infinity rfl (.inl (by decide +kernel))
  exact ⟨notNumber.1, infinite.1, infiniteDot.1, infiniteDot.2⟩

end Bandwidth
