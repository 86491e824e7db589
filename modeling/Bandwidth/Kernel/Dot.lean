import Bandwidth.Element
import Bandwidth.Launch.GridWalk
import Bandwidth.Launch.Group
import Bandwidth.Memory

/-!
# The dot product

Every worker adds up the products of its grid walk in its own shared slot. Then the group folds its slots with a
halving tree: with offset `group / 2`, `group / 4`, … the workers below the offset add the slot that lies one offset
higher to their own. A barrier precedes every step and is issued by the whole group, also by the workers that have
nothing left to add. The first worker writes the folded slot to the partial sum of its group.
-/

namespace Bandwidth.Dot

variable {α : Type} [Element α]

/-- The first region: a worker adds up the products at its indices. -/
def accumulate (a b arraySize : Nat) (worker : Worker) : Procedure Fault (GroupState α (Memory α)) Unit := do
  GroupState.modifySlots (·.setIfInBounds worker.localId Element.zero)
  let first ← Procedure.ofExcept worker.globalId
  let stride ← Procedure.ofExcept worker.totalWorkers
  let walk ← Procedure.ofExcept (GridWalk.start first stride arraySize)
  walk.visitAll fun index => do
    let x ← GroupState.onOutside (Memory.load a index)
    let y ← GroupState.onOutside (Memory.load b index)
    GroupState.modifySlots (·.modify worker.localId (· + x * y))

/-- One step of the tree: a worker below the offset adds the slot one offset higher to its own. -/
def foldStep (offset : Nat) (worker : Worker) : Procedure Fault (GroupState α (Memory α)) Unit :=
  if worker.localId < offset then
    GroupState.modifySlots fun slots =>
      let other := slots.getD (worker.localId + offset) Element.zero
      slots.modify worker.localId (· + other)
  else
    pure ()

/-- The tree from one offset on. -/
def tree (group : Group) (offset : Nat) : Procedure Fault (GroupState α (Memory α)) Unit :=
  if offset = 0 then
    pure ()
  else do
    Group.sync
    group.forEachWorker (foldStep offset)
    tree group (offset / 2)
termination_by offset

/-- The last region: the first worker writes the folded slot out. -/
def publish (sums : Nat) (worker : Worker) : Procedure Fault (GroupState α (Memory α)) Unit :=
  if worker.localId = 0 then do
    let state ← Procedure.get
    GroupState.onOutside (Memory.store sums worker.groupId (state.slots.getD 0 Element.zero))
  else
    pure ()

def program (a b sums arraySize : Nat) : GroupProgram α (Memory α) := fun group => do
  group.forEachWorker (accumulate a b arraySize)
  tree group (group.geometry.group / 2)
  group.forEachWorker (publish sums)

/-- Launches the dot product of two buffers; the partial sum of each group goes to a third. -/
def launch (geometry : Geometry) (a b sums arraySize : Nat) : Action (Device × Memory α) LaunchStats :=
  Device.launchGroups geometry (.ofElement α) (program a b sums arraySize)

end Bandwidth.Dot
