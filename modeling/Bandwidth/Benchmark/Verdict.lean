import Bandwidth.Benchmark.Plan
import Bandwidth.Benchmark.Summary
import Bandwidth.Device.Description
import Bandwidth.Kernel.Elementwise
import Bandwidth.Residency

/-!
# Reports and verdicts

What a run leaves behind is a report: the times of its kernels, and the arrays and the dot product to be checked. It is
judged by the distance of its arrays and of its dot product from the expected values. Distances are relative to the
expected value, unless that is zero. What is not a number is within no limit.
-/

namespace Bandwidth

structure Report (α δ : Type) where
  device : Description
  precision : Precision
  arraySize : Nat
  residency : Residency
  iterations : Nat
  selection : Selection
  /-- One summary for each timed kernel, in the order they ran. -/
  summaries : List (Summary δ)
  arrays : Triple (Array α)
  /-- The last dot product, if the dot product was timed. -/
  dot : Option α

namespace Report

variable {α δ : Type}

def summaryOf? (report : Report α δ) (kernel : Kernel) : Option (Summary δ) :=
  report.summaries.find? (·.kernel == kernel)

def arrayBytes [Element α] (report : Report α δ) : Checked Nat :=
  Word.mul report.arraySize (Element.bytes α)

end Report

structure Verdict (δ : Type) where
  /-- The mean relative error of each array. -/
  arrayErrors : Triple δ
  arrayLimit : δ
  /-- The relative error of the dot product, if it was run. -/
  dotError : Option δ
  dotLimit : δ

inductive Shortfall (δ : Type) where
  | array (role : Role) (error : δ)
  | dot (error : δ)

namespace Verdict

variable {α δ : Type} [Measure δ]

def exceeds (error limit : δ) : Bool :=
  Measure.isNaN error || Measure.less limit error

def shortfalls (verdict : Verdict δ) : List (Shortfall δ) :=
  let arrays := [Role.a, Role.b, Role.c].filter fun role => exceeds (verdict.arrayErrors.at role) verdict.arrayLimit
  let dot := verdict.dotError.toList.filter fun error => exceeds error verdict.dotLimit
  arrays.map (fun role => .array role (verdict.arrayErrors.at role)) ++ dot.map .dot

def passed (verdict : Verdict δ) : Bool := verdict.shortfalls.isEmpty

/-- An error in proportion to the expected value, or the error itself if zero is expected. -/
def relativeTo (error expected : δ) : δ :=
  if Measure.isZero expected then error else error / Measure.abs expected

variable [Scalar α δ]

/-- The mean error of an array of which every element should have one value. -/
def meanError (values : Array α) (expected : α) : δ :=
  if values.isEmpty then
    Measure.zero
  else
    let target : δ := Scalar.widen expected
    let total := Measure.sum (values.toList.map fun value => Measure.abs (Scalar.widen value - target))
    relativeTo (total / Measure.ofWord values.size) target

def dotErrorOf (value expected : α) : δ :=
  relativeTo (Measure.abs (Scalar.widen value - Scalar.widen expected)) (Scalar.widen expected)

def ofReport (report : Report α δ) (plan : Plan δ) : Verdict δ :=
  let expected : Expected α := plan.expected report.arraySize
  { arrayErrors :=
      ⟨meanError report.arrays.a expected.arrays.a, meanError report.arrays.b expected.arrays.b,
        meanError report.arrays.c expected.arrays.c⟩
    arrayLimit := 100.0 * Scalar.widen (Scalar.epsilon : α)
    dotError := report.dot.map fun value => dotErrorOf value expected.dot
    dotLimit := Scalar.dotTolerance α }

end Verdict

end Bandwidth
