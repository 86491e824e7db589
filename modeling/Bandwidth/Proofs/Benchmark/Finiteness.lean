import Bandwidth.Benchmark.Plan
import Bandwidth.Proofs.Benchmark.Exact
import Mathlib.Order.Bounds.Defs

/-!
# Iterations with finite values

The number of iterations that a plan is said to support is found by one replay that goes on from
iteration to iteration and stops at the first one whose values are not finite. The values that a
number of iterations is expected to end with are found by a replay from the start. Both agree at
every number, so the number that a refusal names is the greatest one that is not refused, and it
does not depend on how many iterations were asked for.
-/

namespace Bandwidth

namespace Plan

variable {α δ : Type} [Measure δ] [Scalar α δ] {arraySize : Nat}

omit [Measure δ] in
def withIterations (plan : Plan δ) (iterations : Nat) : Plan δ := { plan with iterations }

omit [Measure δ] in
@[simp]
theorem withIterations_iterations (plan : Plan δ) (iterations : Nat) :
    (plan.withIterations iterations).iterations = iterations := rfl

variable (α) in
/-- So many iterations of the plan are expected to end with finite values; the dot product counts
only if the plan runs it. -/
structure FiniteAfter (plan : Plan δ) (arraySize iterations : Nat) : Prop where
  a : Measure.isFinite (Scalar.widen
    ((plan.withIterations iterations).expected arraySize : Expected α).arrays.a) = true
  b : Measure.isFinite (Scalar.widen
    ((plan.withIterations iterations).expected arraySize : Expected α).arrays.b) = true
  c : Measure.isFinite (Scalar.widen
    ((plan.withIterations iterations).expected arraySize : Expected α).arrays.c) = true
  dot : .dot ∈ plan.selection.kernels → Measure.isFinite (Scalar.widen
    ((plan.withIterations iterations).expected arraySize : Expected α).dot) = true

variable (α) in
/-- Every number of iterations up to this one ends with finite values. -/
def Supports (plan : Plan δ) (arraySize iterations : Nat) : Prop :=
  ∀ some, 1 ≤ some → some ≤ iterations → plan.FiniteAfter α arraySize some

/-- What is checked after an iteration is what is expected of so many iterations. -/
theorem isFinite_replay_iff (plan : Plan δ) (iterations : Nat) :
    isFinite plan.selection.kernels arraySize
        (replay plan.selection.kernels iterations plan.start : Triple α) = true ↔
      plan.FiniteAfter α arraySize iterations := by
  simp only [isFinite, Triple.all, Bool.and_eq_true, Bool.or_eq_true, Bool.not_eq_true']
  constructor
  · rintro ⟨⟨⟨a, b⟩, c⟩, dot⟩
    refine ⟨a, b, c, ?_⟩
    intro runsDot
    rcases dot with without | finite
    · simp [runsDot] at without
    · exact finite
  · rintro ⟨a, b, c, dot⟩
    refine ⟨⟨⟨a, b⟩, c⟩, ?_⟩
    by_cases runsDot : .dot ∈ plan.selection.kernels
    · right
      exact dot runsDot
    · left
      simpa using runsDot

/-- What a number of iterations ends with does not depend on how many the plan asks for. -/
theorem supports_withIterations {plan : Plan δ} {iterations some : Nat} :
    (plan.withIterations iterations).Supports α arraySize some ↔
      plan.Supports α arraySize some := by
  simp only [Supports, ← isFinite_replay_iff]
  exact Iff.rfl

theorem Supports.mono {plan : Plan δ} {fewer iterations : Nat}
    (supports : plan.Supports α arraySize iterations) (le : fewer ≤ iterations) :
    plan.Supports α arraySize fewer := by
  intro some positive below
  exact supports some positive (Nat.le_trans below le)

/-- The count goes on from `done` by the greatest number of iterations that all end with finite
values. -/
theorem countFinite_eq (kernels : List Kernel) (arraySize remaining done : Nat)
    (values : Triple α) :
    ∃ count, countFinite kernels arraySize remaining done values = done + count ∧
      IsGreatest {count | count ≤ remaining ∧ ∀ some, 1 ≤ some → some ≤ count →
        isFinite kernels arraySize (replay kernels some values) = true} count := by
  induction remaining generalizing done values with
  | zero =>
      refine ⟨0, rfl, ⟨Nat.le_refl 0, ?_⟩, ?_⟩
      · intro some positive none
        omega
      · intro count within
        exact within.1
  | succ remaining ih =>
      rw [countFinite]
      by_cases finite : isFinite kernels arraySize (replayIteration kernels values) = true
      · rcases ih (done + 1) (replayIteration kernels values) with
          ⟨count, counted, ⟨within, holds⟩, greatest⟩
        refine ⟨count + 1, ?_, ⟨by omega, ?_⟩, ?_⟩
        · rw [if_pos finite, counted]
          omega
        · intro some positive below
          rcases some with _ | _ | some
          · omega
          · exact finite
          · exact holds (some + 1) (by omega) (by omega)
        · rintro (_ | other) ⟨otherWithin, otherHolds⟩
          · omega
          · refine Nat.succ_le_succ (greatest ⟨by omega, ?_⟩)
            intro some _ below
            exact otherHolds (some + 1) (by omega) (by omega)
      · refine ⟨0, if_neg finite, ⟨Nat.zero_le _, ?_⟩, ?_⟩
        · intro some positive none
          omega
        · rintro (_ | other) ⟨_, otherHolds⟩
          · exact Nat.le_refl 0
          · exact absurd (otherHolds 1 (Nat.le_refl 1) (by omega)) finite

/-- The iterations that keep all values finite are the most that the plan asks for and supports. -/
theorem isGreatest_finiteIterations (plan : Plan δ) (arraySize : Nat) :
    IsGreatest {count | count ≤ plan.iterations ∧ plan.Supports α arraySize count}
      (plan.finiteIterations α arraySize) := by
  rcases countFinite_eq plan.selection.kernels arraySize plan.iterations 0
    (plan.start : Triple α) with ⟨count, counted, greatest⟩
  rw [finiteIterations, counted, Nat.zero_add]
  simpa only [isFinite_replay_iff, Supports] using greatest

theorem validateFor_eq (plan : Plan δ) (arraySize : Nat) :
    plan.validateFor α arraySize =
      if plan.iterations = 0 then .error (.invalidConfig .noIterations)
      else if plan.finiteIterations α arraySize < plan.iterations then
        .error (.invalidConfig (.valuesOverflow plan.iterations (Element.precision α)
          (plan.finiteIterations α arraySize)))
      else .ok () := by
  rw [validateFor, validate]
  split
  · rfl
  · change (if _ then _ else _) = _
    split <;> rfl

/-- A plan is valid exactly if it has iterations and supports them all. -/
theorem validateFor_eq_ok_iff (plan : Plan δ) :
    plan.validateFor α arraySize = .ok () ↔
      1 ≤ plan.iterations ∧ plan.Supports α arraySize plan.iterations := by
  rcases plan.isGreatest_finiteIterations (α := α) arraySize with
    ⟨⟨within, holds⟩, greatest⟩
  rw [validateFor_eq]
  split
  · rename_i none
    simp [none]
  · rename_i some
    have positive : 1 ≤ plan.iterations := Nat.one_le_iff_ne_zero.mpr some
    split
    · rename_i fewer
      simp only [positive, true_and, reduceCtorEq, false_iff]
      intro supports
      exact absurd (greatest ⟨Nat.le_refl _, supports⟩) (Nat.not_le.mpr fewer)
    · rename_i all
      have equal : plan.finiteIterations α arraySize = plan.iterations := by omega
      rw [equal] at holds
      exact iff_of_true rfl ⟨positive, holds⟩

/-- Beyond the number that is supported, however many are asked for, the same number is found. -/
theorem finiteIterations_withIterations {plan : Plan δ}
    (few : plan.finiteIterations α arraySize < plan.iterations) {more : Nat}
    (beyond : plan.finiteIterations α arraySize < more) :
    (plan.withIterations more).finiteIterations α arraySize =
      plan.finiteIterations α arraySize := by
  rcases plan.isGreatest_finiteIterations (α := α) arraySize with
    ⟨⟨_, holds⟩, greatest⟩
  rcases (plan.withIterations more).isGreatest_finiteIterations (α := α)
    arraySize with ⟨⟨_, moreHolds⟩, moreGreatest⟩
  simp only [supports_withIterations] at moreHolds moreGreatest
  apply Nat.le_antisymm
  · by_contra larger
    -- One more than is supported would be supported, and the plan asks for that many.
    have next : plan.Supports α arraySize (plan.finiteIterations α arraySize + 1) :=
      moreHolds.mono (by omega)
    have := greatest ⟨few, next⟩
    omega
  · exact moreGreatest ⟨Nat.le_of_lt beyond, holds⟩

/--
The number of iterations that keep all values finite is the greatest for which every number up to it
ends with finite expected values. A plan is valid exactly if it has iterations and supports them all,
and then every smaller number is valid too. A plan with iterations that is refused names the greatest
valid number, whatever number beyond it was asked for.
-/
theorem finiteIterations_exact (plan : Plan δ) (arraySize : Nat) :
    IsGreatest {count | count ≤ plan.iterations ∧ plan.Supports α arraySize count}
        (plan.finiteIterations α arraySize) ∧
      (plan.validateFor α arraySize = .ok () ↔
        1 ≤ plan.iterations ∧ plan.Supports α arraySize plan.iterations) ∧
      (plan.validateFor α arraySize = .ok () → ∀ fewer, 1 ≤ fewer → fewer ≤ plan.iterations →
        (plan.withIterations fewer).validateFor α arraySize = .ok ()) ∧
      ∀ failure, plan.validateFor α arraySize = .error failure →
        (plan.iterations = 0 ∧ failure = .invalidConfig .noIterations) ∨
          ∃ supported, failure = .invalidConfig
              (.valuesOverflow plan.iterations (Element.precision α) supported) ∧
            supported < plan.iterations ∧
            (1 ≤ supported → (plan.withIterations supported).validateFor α arraySize = .ok ()) ∧
            ∀ more, supported < more → (plan.withIterations more).validateFor α arraySize =
              .error (.invalidConfig (.valuesOverflow more (Element.precision α) supported)) := by
  refine ⟨plan.isGreatest_finiteIterations arraySize, plan.validateFor_eq_ok_iff, ?_, ?_⟩
  · intro valid fewer positive below
    rcases plan.validateFor_eq_ok_iff.mp valid with ⟨_, supports⟩
    rw [validateFor_eq_ok_iff, supports_withIterations]
    exact ⟨positive, supports.mono below⟩
  · intro failure refused
    rw [validateFor_eq] at refused
    split at refused
    · rename_i none
      left
      exact ⟨none, (Except.error.inj refused).symm⟩
    · split at refused
      · rename_i few
        right
        refine ⟨_, (Except.error.inj refused).symm, few, ?_, ?_⟩
        · intro positive
          rw [validateFor_eq_ok_iff, supports_withIterations]
          exact ⟨positive, (plan.isGreatest_finiteIterations arraySize).1.2⟩
        · intro more beyond
          have some : more ≠ 0 := Nat.ne_of_gt (Nat.zero_lt_of_lt beyond)
          have found := finiteIterations_withIterations few beyond
          rw [validateFor_eq, withIterations_iterations, if_neg some, found, if_pos beyond]
      · simp at refused

/-- Forty exact iterations of the whole suite on 4096 elements leave the range of single precision;
fifteen do not. -/
theorem fifteen_of_forty_supported :
    let plan : Plan Rat := ⟨40, .all, ⟨1 / 10, 1 / 5, 0⟩⟩
    plan.validateFor Rat 4096 = .error (.invalidConfig (.valuesOverflow 40 .double 15)) ∧
      (plan.withIterations 15).validateFor Rat 4096 = .ok () ∧
      ∀ more, 15 < more → (plan.withIterations more).validateFor Rat 4096 =
        .error (.invalidConfig (.valuesOverflow more .double 15)) := by
  intro plan
  have refused : plan.validateFor Rat 4096 =
      .error (.invalidConfig (.valuesOverflow 40 .double 15)) := by decide +kernel
  rcases finiteIterations_exact (α := Rat) plan 4096 with ⟨-, -, -, named⟩
  rcases named _ refused with ⟨none, -⟩ | ⟨supported, same, -, valid, beyond⟩
  · simp [plan] at none
  · simp only [Failure.invalidConfig.injEq, ConfigCause.valuesOverflow.injEq] at same
    rcases same with ⟨-, -, rfl⟩
    exact ⟨refused, valid (by decide), beyond⟩

end Plan

end Bandwidth
