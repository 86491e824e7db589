import Bandwidth.Device
import Bandwidth.Launch.Share

/-!
# Dispatch

A launch runs a kernel once for each worker of its grid. The groups are shared out among the units of the device
(`Bandwidth.Launch.Share`); inside a group the workers run one after the other. A worker that faults ends its group and
its share. The other shares are run all the same, and the launch faults with the first group that did.

A geometry is validated before the launch is counted. Whether its workers can be numbered with words is found out only
when one of them is numbered, or when all have run and are counted for the stats.
-/

namespace Bandwidth

/-- What a completed launch has run. -/
structure LaunchStats where
  groups : Nat
  workers : Nat
  /-- The barriers that every group issued. -/
  barriers : Nat
  deriving DecidableEq, Repr

namespace Device

variable {τ : Type}

/-- Runs an action on the device of a launch. -/
def onQueue {β : Type} (action : Action Device β) : Action (Device × τ) β :=
  Action.within Prod.fst (fun state device => (device, state.2)) action

/-- Runs a procedure on what the workers of a launch work on. -/
def onMemory {β : Type} (procedure : Procedure Fault τ β) : Action (Device × τ) β :=
  Action.within Prod.snd (fun state memory => (state.1, memory)) (Action.silent procedure)

def runGroup (geometry : Geometry) (kernel : Worker → Procedure Fault τ Unit) (groupId : Nat) :
    Procedure Fault τ Unit :=
  Procedure.forRange (fun localId => kernel ⟨localId, groupId, geometry⟩) 0 geometry.group

theorem runGroup_eq_forEach (geometry : Geometry) (kernel : Worker → Procedure Fault τ Unit) (groupId : Nat) :
    runGroup geometry kernel groupId =
      Procedure.forEach (fun localId => kernel ⟨localId, groupId, geometry⟩) (List.range geometry.group) := by
  rw [runGroup, Procedure.forRange_eq_forEach, ← List.range_eq_range']

def runGrid (units : Nat) (geometry : Geometry) (kernel : Worker → Procedure Fault τ Unit) :
    Procedure Fault τ Unit := do
  let _ ← Share.runGrid units geometry.grid (Procedure.mapRange (runGroup geometry kernel))
  return

def launch (geometry : Geometry) (kernel : Worker → Procedure Fault τ Unit) : Action (Device × τ) LaunchStats := do
  Action.check geometry.validate
  let (device, _) ← Action.get
  onQueue (Action.modify beginLaunch)
  Action.emit (.launched device.description.index geometry)
  onMemory (runGrid device.description.units geometry kernel)
  let workers ← Action.checked geometry.totalWorkers
  return ⟨geometry.grid, workers, 0⟩

end Device

end Bandwidth
