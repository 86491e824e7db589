import Bandwidth.Element
import Bandwidth.Failure
import Bandwidth.Kernel

/-!
# Plans

A plan says which kernels a run times, how often, and what the arrays are filled with. What the arrays must hold
afterwards follows from the plan alone: every element of an array has the same value after any sequence of kernels, so
the sequence is replayed on three single values. The replay also tells how many iterations keep all values finite.
-/

namespace Bandwidth

inductive Selection where
  | all
  | triadOnly
  | nstreamOnly
  deriving DecidableEq, Repr

namespace Selection

def standard : Selection := all

def kernels : Selection → List Kernel
  | all => Kernel.classic
  | triadOnly => [.triad]
  | nstreamOnly => [.nstream]

def tag : Selection → String
  | all => "all"
  | triadOnly => "triad-only"
  | nstreamOnly => "nstream-only"

end Selection

structure Plan (δ : Type) where
  iterations : Nat
  selection : Selection
  initial : Triple δ

structure Expected (α : Type) where
  arrays : Triple α
  dot : α

section Replay

variable {α : Type} [Element α]

/-- What a kernel does to three values that stand for three uniform arrays. -/
def Kernel.replay (kernel : Kernel) (values : Triple α) : Triple α :=
  match kernel with
  | .copy => { values with c := values.a }
  | .mul => { values with b := Element.factor * values.c }
  | .add => { values with c := values.a + values.b }
  | .triad => { values with a := values.b + Element.factor * values.c }
  | .nstream => { values with a := values.a + (values.b + Element.factor * values.c) }
  | .dot => values

def replayIteration (kernels : List Kernel) (values : Triple α) : Triple α :=
  kernels.foldl (fun values kernel => kernel.replay values) values

def replay (kernels : List Kernel) : Nat → Triple α → Triple α
  | 0, values => values
  | iterations + 1, values => replay kernels iterations (replayIteration kernels values)

end Replay

namespace Plan

variable {α δ : Type} [Measure δ]

def standard : Plan δ := ⟨10, .standard, ⟨0.1, 0.2, 0.0⟩⟩

omit [Measure δ] in
def validate (plan : Plan δ) : Except Failure Unit :=
  if plan.iterations = 0 then .error (.invalidConfig .noIterations) else .ok ()

variable [Scalar α δ]

def start (plan : Plan δ) : Triple α := plan.initial.map Scalar.narrow

def uniformDot (values : Triple α) (arraySize : Nat) : α :=
  Scalar.narrow (Scalar.widen values.a * Scalar.widen values.b * Measure.ofWord arraySize)

def expected (plan : Plan δ) (arraySize : Nat) : Expected α :=
  let values : Triple α := replay plan.selection.kernels plan.iterations plan.start
  ⟨values, uniformDot values arraySize⟩

/-- Whether the values after an iteration are finite; the dot product counts only if it is run. -/
def isFinite (kernels : List Kernel) (arraySize : Nat) (values : Triple α) : Bool :=
  values.all (fun value => Measure.isFinite (Scalar.widen value)) &&
    (!kernels.contains .dot || Measure.isFinite (Scalar.widen (uniformDot values arraySize)))

/-- Counts on from `done` how many of the remaining iterations end with finite values. -/
def countFinite (kernels : List Kernel) (arraySize : Nat) : Nat → Nat → Triple α → Nat
  | 0, done, _ => done
  | remaining + 1, done, values =>
      let after := replayIteration kernels values
      if isFinite kernels arraySize after then countFinite kernels arraySize remaining (done + 1) after else done

variable (α) in
/-- How many iterations of the plan keep all values finite, up to the number that the plan asks for. -/
def finiteIterations (plan : Plan δ) (arraySize : Nat) : Nat :=
  countFinite plan.selection.kernels arraySize plan.iterations 0 (plan.start : Triple α)

variable (α) in
/-- Refuses a run without iterations, and one whose values leave the range of the element type. -/
def validateFor (plan : Plan δ) (arraySize : Nat) : Except Failure Unit := do
  plan.validate
  let supported := plan.finiteIterations α arraySize
  if supported < plan.iterations then
    throw (.invalidConfig (.valuesOverflow plan.iterations (Element.precision α) supported))

end Plan

end Bandwidth
