import Bandwidth.Device

/-!
# Platforms

A platform enumerates the devices that can be opened. A device needs at least one compute unit, so a profile that
names none is taken to name one.
-/

namespace Bandwidth

/-- The version that every simulated device reports as its driver's. -/
def driverVersion : String := "0.1.0"

/-- The memory of a device that stands for the whole host: 16 GiB. -/
def hostMemory : Nat := 17179869184

structure Profile where
  name : String
  units : Nat
  memory : Nat
  deriving DecidableEq, Repr

namespace Profile

def ofHost (architecture : String) (threads : Nat) : Profile :=
  ⟨s!"{architecture} host ({threads} threads)", threads, hostMemory⟩

/-- The profile of a host that does all work in one thread, as this library does. -/
def sequential : Profile := ofHost "x86_64" 1

def withUnits (profile : Profile) (units : Nat) : Profile :=
  { profile with units := max units 1 }

def withName (profile : Profile) (name : String) : Profile :=
  { profile with name := name }

def withMemory (profile : Profile) (memory : Nat) : Profile :=
  { profile with memory := memory }

def describe (profile : Profile) (index : Nat) : Description :=
  ⟨index, profile.name, max profile.units 1, profile.memory⟩

end Profile

/-- The devices that can be opened, and the host that serves them. -/
structure Platform where
  profiles : List Profile
  host : Host

namespace Platform

/-- The platform with one device that stands for the whole host. -/
def ofHost (profile : Profile) : Platform := ⟨[profile], .standard⟩

def sequential : Platform := ofHost .sequential

def deviceCount (platform : Platform) : Nat := platform.profiles.length

def devices (platform : Platform) : List Description :=
  platform.profiles.mapIdx fun index profile => profile.describe index

def device (platform : Platform) (index : Nat) : Except Failure Description :=
  match platform.profiles[index]? with
  | some profile => .ok (profile.describe index)
  | none => .error (.invalidDevice index platform.deviceCount)

def driver (platform : Platform) (index : Nat) : Except Failure String := do
  let _ ← platform.device index
  return driverVersion

def openDevice {σ : Type} (platform : Platform) (index : Nat) : Action σ Device := do
  let description ← Action.check (platform.device index)
  Action.emit (.deviceOpened description)
  return .fresh description platform.host

end Platform

end Bandwidth
