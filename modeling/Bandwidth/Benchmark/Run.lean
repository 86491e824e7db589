import Bandwidth.Benchmark.Verdict
import Bandwidth.Stream.Interface

/-!
# Runs

A run fills the arrays, repeats the kernels of its plan while it takes the time of every call, and reads the arrays
back. It asks nothing else of the stream, and the first call that fails ends it. The times of a kernel go into a row
that is made before the first iteration; a plan of more iterations than an object can hold times of faults there, when
the arrays have been filled.

The run is written over any monad in which the stream's procedures can be performed and a clock can be read. So the
program that waits for a real clock and a statement about the calls that are made are about one definition.
-/

namespace Bandwidth

structure Observer (m : Type → Type) (δ : Type) where
  /-- The run starts: so many kernels, iterations and elements. -/
  started : Nat → Nat → Nat → m Unit
  /-- An iteration is complete; iterations count from zero. -/
  iterated : Nat → m Unit
  summarised : Summary δ → m Unit

namespace Benchmark

def timeBytes : Nat := 8

/-- Makes the rows for the times of a plan, or faults if they would be larger than any object. -/
def makeRows {δ : Type} (plan : Plan δ) : Checked Unit := Word.checkObject plan.iterations timeBytes

variable {m : Type → Type} [Monad m] {σ α δ : Type} [Measure δ]

section

variable (stream : Interface σ α) (perform : {β : Type} → Procedure Abort σ β → m β) (clock : m δ)

/-- Runs kernels in order: their times, and the last dot product so far. -/
def runKernels : List Kernel → Option α → m (List δ × Option α)
  | [], dot => pure ([], dot)
  | kernel :: kernels, dot => do
      let before ← clock
      let result ← perform (stream.runKernel kernel)
      let after ← clock
      let (times, dot) ← runKernels kernels (result <|> dot)
      return ((after - before) :: times, dot)

/-- Runs a number of iterations, the first of which is counted as `iteration`. -/
def runIterations (observer : Observer m δ) (kernels : List Kernel) :
    Nat → Nat → Array (List δ) → Option α → m (Array (List δ) × Option α)
  | 0, _, rows, dot => pure (rows, dot)
  | remaining + 1, iteration, rows, dot => do
      let (times, dot) ← runKernels stream perform clock kernels dot
      observer.iterated iteration
      runIterations observer kernels remaining (iteration + 1) (rows.push times) dot

end

def column (rows : Array (List δ)) (place : Nat) : List δ :=
  rows.toList.map fun times => times.getD place Measure.zero

variable [Scalar α δ]

def summarise (arraySize : Nat) (rows : Array (List δ)) (kernel : Kernel) (place : Nat) : Checked (Summary δ) := do
  let bytes ← kernel.bytesMoved arraySize (Element.bytes α)
  let flops ← kernel.flops arraySize
  return .ofTimings kernel bytes flops (column rows place)

def run (stream : Interface σ α) (perform : {β : Type} → Procedure Abort σ β → m β) (clock : m δ)
    (observer : Observer m δ) (plan : Plan δ) : m (Report α δ) := do
  let state ← perform Procedure.get
  let arraySize := stream.arraySize state
  perform (Procedure.ofExcept ((plan.validateFor α arraySize).mapError .failure))
  perform (stream.fill plan.start)
  perform (Procedure.ofExcept ((makeRows plan).mapError .fault))
  let kernels := plan.selection.kernels
  observer.started kernels.length plan.iterations arraySize
  let (rows, dot) ← runIterations stream perform clock observer kernels plan.iterations 0 #[] none
  let blank := Array.replicate arraySize Element.zero
  let arrays ← perform (stream.readInto ⟨blank, blank, blank⟩)
  let summaries ← perform (Procedure.ofExcept
    ((kernels.zipIdx.mapM fun (kernel, place) => summarise (α := α) arraySize rows kernel place).mapError .fault))
  summaries.forM observer.summarised
  let state ← perform Procedure.get
  return {
    device := stream.device state
    precision := Element.precision α
    arraySize
    residency := stream.residency state
    iterations := plan.iterations
    selection := plan.selection
    summaries
    arrays
    dot }

end Benchmark

end Bandwidth
