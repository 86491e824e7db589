import Bandwidth.Word

/-!
# Kernels

The timed kernels of the benchmark with the traffic that their rates are computed from: the bytes that a call moves
through memory and the floating-point operations it performs. Both are words, and a count that is no word is a fault.
-/

namespace Bandwidth

/-- A kernel that the benchmark times. -/
inductive Kernel where
  /-- `C[i] = A[i]` -/
  | copy
  /-- `B[i] = factor * C[i]` -/
  | mul
  /-- `C[i] = A[i] + B[i]` -/
  | add
  /-- `A[i] = B[i] + factor * C[i]` -/
  | triad
  /-- `A[i] = A[i] + (B[i] + factor * C[i])` -/
  | nstream
  /-- The sum of all `A[i] * B[i]`. -/
  | dot
  deriving DecidableEq, Repr

namespace Kernel

/-- The kernels of the classic suite, in the order they run. -/
def classic : List Kernel := [copy, mul, add, triad, dot]

def all : List Kernel := [copy, mul, add, triad, nstream, dot]

def name : Kernel → String
  | copy => "Copy"
  | mul => "Mul"
  | add => "Add"
  | triad => "Triad"
  | nstream => "Nstream"
  | dot => "Dot"

def tag : Kernel → String
  | copy => "copy"
  | mul => "mul"
  | add => "add"
  | triad => "triad"
  | nstream => "nstream"
  | dot => "dot"

/-- The whole arrays that one call reads or writes. -/
def arraysTouched : Kernel → Nat
  | copy | mul | dot => 2
  | add | triad => 3
  | nstream => 4

def flopsPerElement : Kernel → Nat
  | copy => 0
  | mul | add => 1
  | triad | dot => 2
  | nstream => 3

/-- The bytes that one call moves. -/
def bytesMoved (kernel : Kernel) (arraySize elementBytes : Nat) : Checked Nat := do
  let elements ← Word.mul kernel.arraysTouched arraySize
  Word.mul elements elementBytes

def flops (kernel : Kernel) (arraySize : Nat) : Checked Nat :=
  Word.mul kernel.flopsPerElement arraySize

end Kernel

end Bandwidth
