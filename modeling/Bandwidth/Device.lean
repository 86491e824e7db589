import Bandwidth.Device.Ledger
import Bandwidth.Event

/-!
# Devices

An opened device has its books and a queue. Of the queue only two numbers matter: how many launches were handed to the
device so far, and how many of them are still in flight. A launch counts as soon as its geometry is accepted, whatever
becomes of it, and stays in flight until the next synchronization retires it. Both numbers wrap around.
-/

namespace Bandwidth

structure Host where
  /-- Blocks below this many bytes are granted. -/
  blockLimit : Nat
  deriving DecidableEq, Repr

/-- A host with 32 gibibytes of memory; it grants every block that is smaller. -/
def Host.standard : Host := ⟨34359738368⟩

structure Device where
  description : Description
  host : Host
  ledger : Ledger
  /-- The launches that no synchronization has retired yet. -/
  inFlight : Nat
  launches : Nat
  deriving DecidableEq, Repr

namespace Device

def fresh (description : Description) (host : Host) : Device where
  description := description
  host := host
  ledger := .empty description.memory
  inFlight := 0
  launches := 0

def isIdle (device : Device) : Bool := device.inFlight == 0

/-- Counts a launch and puts it in flight. -/
def beginLaunch (device : Device) : Device :=
  { device with
    inFlight := Word.addWrapping device.inFlight 1
    launches := Word.addWrapping device.launches 1 }

/-- Waits for every launch in flight. -/
def synchronize : Action Device Unit := do
  let device ← Action.get
  Action.modify fun device => { device with inFlight := 0 }
  if 0 < device.inFlight then
    Action.emit (.synchronized device.description.index device.inFlight)

/-- Refuses the host an access while a launch is in flight. -/
def ensureIdle (access : String) : Action Device Unit := do
  let device ← Action.get
  if device.isIdle then return
  else Action.fail (.deviceOperation (.notSynchronized access))

def enter (entry : Ledger.Entry) : Action Device Unit :=
  Procedure.within (·.state.ledger)
    (fun logged ledger => { logged with state := { logged.state with ledger := ledger } }) (Ledger.enter entry)

def close : Action Device Unit := do
  let device ← Action.get
  Action.emit (.deviceClosed device.description.index device.launches)

end Device

end Bandwidth
