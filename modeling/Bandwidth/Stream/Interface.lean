import Bandwidth.Stream

/-!
# Stream interfaces

A benchmark asks little of a stream: to fill, read and write its arrays and to run the kernels. An `Interface` is these
operations over any state, each of which may fail or fault. A stream of this library is one instance.
-/

namespace Bandwidth

/-- What a benchmark can ask of a stream that is held in a state `σ`. -/
structure Interface (σ α : Type) where
  arraySize : σ → Nat
  residency : σ → Residency
  blocks : σ → Nat
  device : σ → Description
  fill : Triple α → Procedure Abort σ Unit
  /-- Copies the arrays into a host's arrays. -/
  read : Procedure Abort (σ × Triple (Array α)) Unit
  /-- Copies a host's arrays into the arrays. -/
  write : Triple (Array α) → Procedure Abort σ Unit
  copy : Procedure Abort σ Unit
  mul : Procedure Abort σ Unit
  add : Procedure Abort σ Unit
  triad : Procedure Abort σ Unit
  nstream : Procedure Abort σ Unit
  dot : Procedure Abort σ α

namespace Interface

variable {σ α : Type}

/-- Runs a kernel by its name; only the dot product has a result. -/
def runKernel (stream : Interface σ α) : Kernel → Procedure Abort σ (Option α)
  | .copy => do stream.copy; return none
  | .mul => do stream.mul; return none
  | .add => do stream.add; return none
  | .triad => do stream.triad; return none
  | .nstream => do stream.nstream; return none
  | .dot => return some (← stream.dot)

/-- Reads the arrays into host arrays and hands those back. -/
def readInto (stream : Interface σ α) (host : Triple (Array α)) : Procedure Abort σ (Triple (Array α)) :=
  fun state =>
    match stream.read (state, host) with
    | (.ok (), (state, host)) => (.ok host, state)
    | (.error reason, (state, _)) => (.error reason, state)

end Interface

def Stream.interface {α : Type} [Element α] : Interface (Logged (Stream α)) α where
  arraySize := (·.state.arraySize)
  residency := (·.state.residency)
  blocks := (·.state.blocks)
  device := (·.state.device.description)
  fill := Stream.fill
  read := Procedure.within (fun (logged, host) => ⟨(logged.state, host), logged.log⟩)
    (fun _ after => (⟨after.state.1, after.log⟩, after.state.2)) Stream.read
  write := Stream.write
  copy := Stream.copy
  mul := Stream.mul
  add := Stream.add
  triad := Stream.triad
  nstream := Stream.nstream
  dot := Stream.dot

end Bandwidth
