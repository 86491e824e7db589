import Bandwidth.Element
import Bandwidth.Launch.Dispatch

/-!
# Cooperative launches

The workers of a cooperative group share memory and run in regions: every worker finishes a region before any worker
starts the one after it. A barrier belongs to the group as a whole, so the number of barriers is a number of the
group; groups that issue different numbers would hang a real device, and the launch fails.

Each share of the grid has one shared memory, which its groups use one after the other. It is not cleared between
them: a group finds in it what the group before left there. The launch faults before any group is run if shared memory,
or the list of the groups' answers, would be larger than any object.
-/

namespace Bandwidth

structure Group where
  id : Nat
  geometry : Geometry
  deriving DecidableEq, Repr

structure Slot (σ : Type) where
  /-- What a slot holds before any group has run. -/
  blank : σ
  bytes : Nat

def Slot.ofElement (α : Type) [Element α] : Slot α := ⟨Element.zero, Element.bytes α⟩

def Slot.ofWord : Slot Nat := ⟨0, Word.bytes⟩

/-- What a group works on: `σ` is the type of its shared slots, `τ` of the memory outside. -/
structure GroupState (σ τ : Type) where
  slots : Array σ
  barriers : Nat
  outside : τ

abbrev GroupProgram (σ τ : Type) := Group → Procedure Fault (GroupState σ τ) Unit

namespace GroupState

variable {σ τ β : Type}

@[inline]
def onOutside (procedure : Procedure Fault τ β) : Procedure Fault (GroupState σ τ) β :=
  Procedure.within GroupState.outside (fun state outside => { state with outside := outside }) procedure

@[inline]
def modifySlots (change : Array σ → Array σ) : Procedure Fault (GroupState σ τ) Unit :=
  Procedure.modify fun state => { state with slots := change state.slots }

end GroupState

namespace Group

variable {σ τ : Type}

/-- Runs one region: the body once for every worker of the group. -/
def forEachWorker (group : Group) (body : Worker → Procedure Fault (GroupState σ τ) Unit) :
    Procedure Fault (GroupState σ τ) Unit :=
  Procedure.forRange (fun localId => body ⟨localId, group.id, group.geometry⟩) 0 group.geometry.group

theorem forEachWorker_eq_forEach (group : Group) (body : Worker → Procedure Fault (GroupState σ τ) Unit) :
    group.forEachWorker body =
      Procedure.forEach (fun localId => body ⟨localId, group.id, group.geometry⟩) (List.range group.geometry.group) := by
  rw [forEachWorker, Procedure.forRange_eq_forEach, ← List.range_eq_range']

def sync : Procedure Fault (GroupState σ τ) Unit :=
  Procedure.modify fun state => { state with barriers := state.barriers + 1 }

/-- Runs a group in a scratch memory and counts its barriers. -/
def runIn (geometry : Geometry) (program : GroupProgram σ τ) (groupId : Nat) :
    Procedure Fault (Array σ × τ) Nat := fun state =>
  match program ⟨groupId, geometry⟩ ⟨state.1, 0, state.2⟩ with
  | (outcome, after) => (outcome.map fun _ => after.barriers, (after.slots, after.outside))

end Group

namespace Device

variable {σ τ : Type}

/-- Refuses a launch whose shared memory or whose answers would be larger than any object. -/
def checkCapacity (geometry : Geometry) (slot : Slot σ) : Checked Unit := do
  Word.checkObject geometry.grid Word.bytes
  Word.checkObject geometry.group slot.bytes

/-- Runs groups one after the other in one shared memory, which is not needed if there is no group. -/
def runInTurn (geometry : Geometry) (slot : Slot σ) (program : GroupProgram σ τ) (first count : Nat) :
    Procedure Fault τ (Array Nat) := fun outside =>
  if count = 0 then
    (.ok #[], outside)
  else
    match Procedure.mapRange (Group.runIn geometry program) first count
        (Array.replicate geometry.group slot.blank, outside) with
    | (outcome, state) => (outcome, state.2)

/-- Runs the groups of a cooperative launch on so many units; the answer holds the barriers of each. -/
def runGroups (units : Nat) (geometry : Geometry) (slot : Slot σ) (program : GroupProgram σ τ) :
    Procedure Fault τ (Array Nat) :=
  Share.runGrid units geometry.grid (runInTurn geometry slot program)

/-- The barriers that every group issued, unless a group issued another number than the first. -/
def commonBarriers (barriers : Array Nat) : Except Failure Nat :=
  let expected := barriers.getD 0 0
  match barriers.findIdx? (· != expected) with
  | some group => .error (.deviceOperation (.divergentBarriers group (barriers.getD group 0) expected))
  | none => .ok expected

/-- Launches a group program, with one slot of shared memory for each worker. -/
def launchGroups (geometry : Geometry) (slot : Slot σ) (program : GroupProgram σ τ) :
    Action (Device × τ) LaunchStats := do
  Action.check geometry.validateCooperative
  let (device, _) ← Action.get
  onQueue (Action.modify beginLaunch)
  Action.emit (.groupsLaunched device.description.index geometry)
  Action.checked (checkCapacity geometry slot)
  let barriers ← onMemory (runGroups device.description.units geometry slot program)
  let common ← Action.check (commonBarriers barriers)
  let workers ← Action.checked geometry.totalWorkers
  return ⟨geometry.grid, workers, common⟩

end Device

end Bandwidth
