import Bandwidth.Benchmark.Plan
import Bandwidth.Proofs.Stream.Lists

/-!
# Replays and uniform lists

Lists that each repeat one value go on doing so under every kernel, and the values are those of the
replay. So three values stand for three arrays of any length, as long as nothing is done but to run
kernels. The one thing that the values do not tell is the dot product, which adds up the elements in
an order of its own.
-/

namespace Bandwidth

section

variable {α : Type}

def Triple.uniform (length : Nat) (values : Triple α) : Triple (List α) :=
  values.map (List.replicate length)

variable [Element α] (length : Nat) (values : Triple α)

theorem Elementwise.onLists_fill_uniform {lists : Triple (List α)}
    (lengths : lists.a.length = length) :
    (Elementwise.fill values).onLists lists = values.uniform length := by
  rw [onLists, lengths, Triple.uniform]

/-- What a kernel makes of uniform lists is uniform, and its values are those of the replay. -/
theorem Kernel.onLists_uniform (kernel : Kernel) :
    kernel.onLists (values.uniform length) = (kernel.replay values).uniform length := by
  cases kernel <;>
    simp [onLists, elementwise?, Elementwise.onLists, replay, Triple.uniform, Triple.map]

def Kernel.listsAfter (kernels : List Kernel) (lists : Triple (List α)) : Triple (List α) :=
  kernels.foldl (fun lists kernel => kernel.onLists lists) lists

theorem Kernel.listsAfter_uniform (kernels : List Kernel) :
    listsAfter kernels (values.uniform length) =
      (replayIteration kernels values).uniform length := by
  induction kernels generalizing values with
  | nil => rfl
  | cons kernel kernels ih =>
      rw [listsAfter, List.foldl_cons, onLists_uniform, ← listsAfter, ih]
      rfl

theorem Operation.listsAfter_fill_kernels {lists : Triple (List α)}
    (lengths : lists.a.length = length) (kernels : List Kernel) :
    Operation.listsAfter (.fill values :: kernels.map .kernel) lists =
      (replayIteration kernels values).uniform length := by
  rw [← Kernel.listsAfter_uniform, ← Elementwise.onLists_fill_uniform length values lengths,
    Operation.listsAfter, List.foldl_cons, List.foldl_map]
  rfl

end

section

variable {α : Type} [Element α]

/-- The last dot product of some kernels, or one from before if they have none. -/
def Kernel.lastResult (blocks : Nat) : List Kernel → Triple (List α) → Option α → Option α
  | [], _, last => last
  | kernel :: kernels, lists, last =>
      lastResult blocks kernels (kernel.onLists lists) (kernel.resultOn blocks lists <|> last)

/-- The dot product that an iteration ends with, if it has one. -/
def Selection.result (selection : Selection) (blocks : Nat) (lists : Triple (List α)) : Option α :=
  match selection with
  | all => some (Dot.listSum blocks lists.a lists.b)
  | triadOnly | nstreamOnly => none

/-- The dot product is the last kernel of an iteration, so its result belongs to the arrays that are
left. -/
theorem Selection.lastResult_kernels (selection : Selection) (blocks : Nat)
    (lists : Triple (List α)) {last : Option α} (before : selection ≠ .all → last = none) :
    Kernel.lastResult blocks selection.kernels lists last =
      selection.result blocks (Kernel.listsAfter selection.kernels lists) := by
  cases selection with
  | all => rfl
  | triadOnly => exact before (by decide)
  | nstreamOnly => exact before (by decide)

theorem Selection.result_eq_none {selection : Selection} (other : selection ≠ .all) (blocks : Nat)
    (lists : Triple (List α)) : selection.result blocks lists = none := by
  cases selection with
  | all => exact absurd rfl other
  | _ => rfl

theorem Selection.dot_mem_kernels {selection : Selection} :
    .dot ∈ selection.kernels ↔ selection = .all := by
  cases selection <;> decide

end

namespace Plan

variable {α δ : Type} [Measure δ] [Scalar α δ] {kernels : List Kernel} {arraySize : Nat}

/-- If every iteration counts, the last one ends with finite values. -/
theorem isFinite_replay {remaining done : Nat} {values : Triple α} (positive : remaining ≠ 0)
    (counted : done + remaining ≤ countFinite kernels arraySize remaining done values) :
    isFinite kernels arraySize (replay kernels remaining values) = true := by
  induction remaining generalizing done values with
  | zero => exact absurd rfl positive
  | succ remaining ih =>
      rw [countFinite] at counted
      rw [replay]
      split at counted
      · rename_i finite
        rcases Nat.eq_zero_or_pos remaining with rfl | more
        · exact finite
        · exact @ih (done + 1) _ (Nat.ne_of_gt more) (by omega)
      · omega

variable {plan : Plan δ}

/-- A plan that is valid for an array length has iterations, and they end with finite values. -/
theorem of_validateFor_eq_ok (valid : plan.validateFor α arraySize = .ok ()) :
    plan.iterations ≠ 0 ∧
      isFinite plan.selection.kernels arraySize (plan.expected arraySize : Expected α).arrays =
        true := by
  have iterates : plan.iterations ≠ 0 := by
    intro zero
    simp [validateFor, validate, zero] at valid
  have checked : plan.validate = .ok () := if_neg iterates
  refine ⟨iterates, @isFinite_replay _ _ _ _ _ _ plan.iterations 0 _ iterates ?_⟩
  by_contra few
  have fewer : plan.finiteIterations α arraySize < plan.iterations := by
    rw [Nat.zero_add] at few
    exact Nat.lt_of_not_le few
  simp only [validateFor, checked, if_pos fewer] at valid
  exact nomatch valid

end Plan

end Bandwidth
