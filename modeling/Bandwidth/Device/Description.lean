import Bandwidth.Launch.Geometry

/-!
# Device descriptions

What is known of a device before it is opened, and whether three arrays fit into its memory. Their size is computed in
128 bits, so that no pair of array and element sizes that a caller can name passes for a small one.
-/

namespace Bandwidth

structure Description where
  index : Nat
  name : String
  /-- The number of processors that run groups side by side. -/
  units : Nat
  memory : Nat
  deriving DecidableEq, Repr

namespace Description

def label (device : Description) : String :=
  s!"{device.index}: {device.name}"

def dotBlocks (device : Description) : Checked Nat :=
  Bandwidth.dotBlocks device.units

/-- The bytes of three arrays, if the memory of the device holds them. -/
def checkCapacity (device : Description) (arraySize elementBytes : Nat) : Except Abort Nat := do
  let one ← (Word.mulWide arraySize elementBytes).mapError .fault
  let required ← (Word.mulWide one 3).mapError .fault
  if device.memory < required then
    throw (.failure (.insufficientMemory (min required Word.greatest) device.memory))
  return required

end Description

end Bandwidth
