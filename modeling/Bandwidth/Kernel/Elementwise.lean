import Bandwidth.Element
import Bandwidth.Kernel
import Bandwidth.Launch.Dispatch
import Bandwidth.Launch.GridWalk
import Bandwidth.Memory

/-!
# Elementwise kernels

What an elementwise kernel does at one index is a `Body`: a chain of single loads and stores, all at that index. It is
data and not a function on memory, so that the accesses of different workers can be interleaved one by one. A worker
runs the body at every index of its grid walk.

The buffers in the roles A, B and C need not be different.
-/

namespace Bandwidth

inductive Role where
  | a
  | b
  | c
  deriving DecidableEq, Repr

def Triple.at {β : Type} (triple : Triple β) : Role → β
  | .a => triple.a
  | .b => triple.b
  | .c => triple.c

/-- What a worker does at one index. -/
inductive Body (α : Type) where
  | done
  | load (role : Role) (next : α → Body α)
  | store (role : Role) (value : α) (next : Body α)

/-- Runs a body at one index of the buffers that play the roles. -/
def Body.run {α : Type} (buffers : Triple Nat) (index : Nat) : Body α → Procedure Fault (Memory α) Unit
  | .done => fun memory => (.ok (), memory)
  | .load role next => fun memory =>
      match Memory.load (buffers.at role) index memory with
      | (.ok value, memory) => (next value).run buffers index memory
      | (.error fault, memory) => (.error fault, memory)
  | .store role value next => fun memory =>
      match Memory.store (buffers.at role) index value memory with
      | (.ok (), memory) => next.run buffers index memory
      | (.error fault, memory) => (.error fault, memory)

inductive Elementwise (α : Type) where
  | fill (values : Triple α)
  | copy
  | mul
  | add
  | triad
  | nstream

namespace Elementwise

variable {α : Type} [Element α]

def body : Elementwise α → Body α
  | fill values => .store .a values.a (.store .b values.b (.store .c values.c .done))
  | copy => .load .a fun a => .store .c a .done
  | mul => .load .c fun c => .store .b (Element.factor * c) .done
  | add => .load .a fun a => .load .b fun b => .store .c (a + b) .done
  | triad => .load .b fun b => .load .c fun c => .store .a (b + Element.factor * c) .done
  | nstream => .load .a fun a => .load .b fun b => .load .c fun c => .store .a (a + (b + Element.factor * c)) .done

def perWorker (kernel : Elementwise α) (buffers : Triple Nat) (arraySize : Nat) (worker : Worker) :
    Procedure Fault (Memory α) Unit := do
  let first ← Procedure.ofExcept worker.globalId
  let stride ← Procedure.ofExcept worker.totalWorkers
  let walk ← Procedure.ofExcept (GridWalk.start first stride arraySize)
  walk.visitAll (kernel.body.run buffers)

def launch (kernel : Elementwise α) (geometry : Geometry) (buffers : Triple Nat) (arraySize : Nat) :
    Action (Device × Memory α) LaunchStats :=
  Device.launch geometry (kernel.perWorker buffers arraySize)

end Elementwise

end Bandwidth
