import Bandwidth.Buffer
import Bandwidth.Device.Platform
import Bandwidth.Kernel.Dot
import Bandwidth.Kernel.Elementwise

/-!
# Machines

A machine is a number of opened devices and the buffers that were allocated on them. A buffer is named by a handle,
which is never used again, and remembers the device on which it is booked; but every step may hand it any device. A
machine is driven by steps, and a step that fails or faults leaves a machine too.
-/

namespace Bandwidth

/-- A buffer and the device on which it is booked. -/
structure Booking (α : Type) where
  owner : Nat
  buffer : Buffer α

/-- Opened devices, and all buffers so far: a freed buffer leaves a gap. -/
structure Machine (α : Type) where
  devices : Array Device
  bookings : Array (Option (Booking α))

namespace Machine

variable {α : Type} {β τ : Type}

def empty : Machine α := ⟨#[], #[]⟩

/-- Opens a device of a platform; its position is the number of devices before it. -/
def openDevice (platform : Platform) (index : Nat) : Action (Machine α) Unit := do
  let device ← platform.openDevice index
  Action.modify fun machine => { machine with devices := machine.devices.push device }

def onDevice (position : Nat) (action : Action Device β) : Action (Machine α) β := fun logged =>
  match logged.state.devices[position]? with
  | none => (.error (.failure (.invalidDevice position logged.state.devices.size)), logged)
  | some device =>
      match action ⟨device, logged.log⟩ with
      | (outcome, part) =>
          (outcome, ⟨{ logged.state with devices := logged.state.devices.setIfInBounds position part.state }, part.log⟩)

def booking (handle : Nat) : Action (Machine α) (Booking α) := do
  let machine ← Action.get
  match machine.bookings[handle]? with
  | some (some booking) => return booking
  | _ => Procedure.stop (.fault (.danglingBuffer handle))

def addBuffer (owner : Nat) (buffer : Buffer α) : Action (Machine α) Nat := do
  let machine ← Action.get
  Action.modify fun machine => { machine with bookings := machine.bookings.push (some ⟨owner, buffer⟩) }
  return machine.bookings.size

def setBooking (handle : Nat) (booking : Option (Booking α)) : Action (Machine α) Unit :=
  Action.modify fun machine => { machine with bookings := machine.bookings.setIfInBounds handle booking }

/-- The memory that a launch can address: the contents of every buffer, by handle. -/
def memory (machine : Machine α) : Memory α :=
  ⟨machine.bookings.map fun booking => (booking.map (·.buffer.contents)).getD #[]⟩

def setMemory (machine : Machine α) (memory : Memory α) : Machine α :=
  { machine with
    bookings := machine.bookings.mapIdx fun handle booking =>
      booking.map fun booking =>
        { booking with buffer := { booking.buffer with contents := memory.contents handle } } }

/-- Launches work of the caller's own on the device at a position. The work is on a state of its own. -/
def launchOutside (position : Nat) (outside : τ) (work : Action (Device × τ) β) :
    Action (Machine α) (Except Abort β × τ) :=
  onDevice position fun logged =>
    match work ⟨(logged.state, outside), logged.log⟩ with
    | (outcome, after) => (.ok (outcome, after.state.2), ⟨after.state.1, after.log⟩)

def launchInside (position : Nat) (work : Action (Device × Memory α) β) : Action (Machine α) β := do
  let machine ← Action.get
  let (outcome, memory) ← launchOutside position machine.memory work
  Action.modify (·.setMemory memory)
  Procedure.ofExcept outcome

/-- Closes every device, in the order they were opened. -/
def shutDown : Action (Machine α) Unit := do
  let machine ← Action.get
  for device in machine.devices.toList do
    Action.emit (.deviceClosed device.description.index device.launches)

/-- One thing that can be done with a machine; `device` is always a position. -/
inductive Step (α : Type) where
  | allocate (device length : Nat) (residency : Residency)
  | pin (device length : Nat)
  | free (handle : Nat)
  | view (device handle : Nat)
  | edit (device handle : Nat) (change : Array α → Checked (Array α))
  | download (device handle : Nat) (target : Array α)
  | upload (device handle : Nat) (source : Array α)
  | synchronize (device : Nat)
  | ensureIdle (device : Nat) (access : String)
  | launch (device : Nat) (geometry : Geometry) (kernel : Worker → Procedure Fault (Memory α) Unit)
  | launchGroups (device : Nat) (geometry : Geometry) (program : GroupProgram α (Memory α))
  | elementwise (device : Nat) (kernel : Elementwise α) (geometry : Geometry) (buffers : Triple Nat) (arraySize : Nat)
  | dot (device : Nat) (geometry : Geometry) (a b sums arraySize : Nat)

inductive Reply (α : Type) where
  | done
  | handle (handle : Nat)
  | contents (values : Array α)
  | stats (stats : LaunchStats)

variable [Element α]

def perform : Step α → Action (Machine α) (Reply α)
  | .allocate device length residency => do
      let buffer ← onDevice device (Buffer.allocate length residency)
      return .handle (← addBuffer device buffer)
  | .pin device length => do
      let buffer ← onDevice device (Buffer.pin length)
      return .handle (← addBuffer device buffer)
  | .free handle => do
      let booking ← booking handle
      onDevice booking.owner booking.buffer.free
      setBooking handle none
      return .done
  | .view device handle => do
      let booking ← booking handle
      return .contents (← onDevice device booking.buffer.view)
  | .edit device handle change => do
      let booking ← booking handle
      let buffer ← onDevice device (booking.buffer.edit change)
      setBooking handle (some { booking with buffer := buffer })
      return .done
  | .download device handle target => do
      let booking ← booking handle
      return .contents (← onDevice device (booking.buffer.download target))
  | .upload device handle source => do
      let booking ← booking handle
      let buffer ← onDevice device (booking.buffer.upload source)
      setBooking handle (some { booking with buffer := buffer })
      return .done
  | .synchronize device => do
      onDevice device Device.synchronize
      return .done
  | .ensureIdle device access => do
      onDevice device (Device.ensureIdle access)
      return .done
  | .launch device geometry kernel => do
      return .stats (← launchInside device (Device.launch geometry kernel))
  | .launchGroups device geometry program => do
      return .stats (← launchInside device (Device.launchGroups geometry (.ofElement α) program))
  | .elementwise device kernel geometry buffers arraySize => do
      return .stats (← launchInside device (kernel.launch geometry buffers arraySize))
  | .dot device geometry a b sums arraySize => do
      return .stats (← launchInside device (Dot.launch geometry a b sums arraySize))

end Machine

end Bandwidth
