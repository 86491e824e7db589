import Bandwidth.Failure
import Bandwidth.Word

/-!
# Launch geometry

A launch runs a grid of groups with the same number of workers each. Its geometry is checked before the launch is
counted; the number of all workers, and the place of a worker among them, are computed later and are checked words.
-/

namespace Bandwidth

structure Geometry where
  /-- The number of groups. -/
  grid : Nat
  /-- The number of workers in each group. -/
  group : Nat
  deriving DecidableEq, Repr

/-- The workers in each group of a stream's own launches. -/
def standardGroup : Nat := 1024

/-- The groups that a dot product runs for each compute unit. -/
def dotGroupsPerUnit : Nat := 4

def dotBlocks (units : Nat) : Checked Nat :=
  Word.mul (max units 1) dotGroupsPerUnit

namespace Geometry

/-- The geometry of an elementwise kernel: as many groups as cover the array with one worker for each element. -/
def elementwise (arraySize group : Nat) : Checked Geometry := do
  let grid ← Word.ceilDiv arraySize group
  return ⟨grid, group⟩

def reduction (groups group : Nat) : Geometry := ⟨groups, group⟩

def totalWorkers (geometry : Geometry) : Checked Nat :=
  Word.mul geometry.grid geometry.group

def validate (geometry : Geometry) : Except Failure Unit :=
  if geometry.group = 0 then .error (.invalidConfig .emptyGroup) else .ok ()

/-- The exponent of the greatest power of two that divides a word; zero is divided by all 64 of them. -/
def twoAdicOrder (number : Nat) : Nat :=
  if number = 0 then 64 else go number 64
where
  go (number : Nat) : Nat → Nat
    | 0 => 0
    | fuel + 1 => if number % 2 = 0 then go (number / 2) fuel + 1 else 0

def isPowerOfTwo (number : Nat) : Bool :=
  number != 0 && Nat.pow 2 (Nat.log2 number) == number

/--
Refuses a geometry whose groups cannot be folded by a halving tree: the offsets `group / 2`, `group / 4`, … reach every
slot only if the group size is a power of two.
-/
def validateCooperative (geometry : Geometry) : Except Failure Unit :=
  if geometry.group = 0 then .error (.invalidConfig .emptyGroup)
  else if isPowerOfTwo geometry.group then .ok ()
  else .error (.invalidConfig (.unevenGroup geometry.group))

/-- The number of steps, and of barriers, of the halving tree. -/
def reductionSteps (geometry : Geometry) : Nat :=
  twoAdicOrder geometry.group

end Geometry

structure Worker where
  /-- Its place in its group. -/
  localId : Nat
  groupId : Nat
  geometry : Geometry
  deriving DecidableEq, Repr

namespace Worker

/-- The place of a worker in the whole grid. -/
def globalId (worker : Worker) : Checked Nat := do
  let before ← Word.mul worker.groupId worker.geometry.group
  Word.add before worker.localId

def totalWorkers (worker : Worker) : Checked Nat :=
  worker.geometry.totalWorkers

end Worker

end Bandwidth
