import Bandwidth.Device
import Bandwidth.Element

/-!
# Buffers

A buffer is a zeroed block of host memory that is booked on the device it was allocated on: against the budget of the
device, as pinned memory, or not at all, depending on where it lives. The host reads and writes a buffer through a view
or through a transfer. A view needs a queue with no launch in flight; a transfer waits for the queue by itself, but only
after it has compared the lengths.

Every action here is handed a device. Nothing ties it to the device on which the buffer was allocated.
-/

namespace Bandwidth

inductive Placement where
  | resident (residency : Residency)
  /-- Page-locked host memory that kernels write directly. -/
  | pinned
  deriving DecidableEq, Repr

namespace Placement

/-- The entry that books a buffer of so many bytes. -/
def reservation (placement : Placement) (bytes : Nat) : Option Ledger.Entry :=
  match placement with
  | resident residency => if residency.usesDeviceMemory then some (.reserveDevice bytes) else none
  | pinned => some (.reservePinned bytes)

/-- The entry that undoes the booking. -/
def release (placement : Placement) (bytes : Nat) : Option Ledger.Entry :=
  match placement with
  | resident residency => if residency.usesDeviceMemory then some (.releaseDevice bytes) else none
  | pinned => some (.releasePinned bytes)

def requiresTransfer : Placement → Bool
  | resident residency => residency.requiresTransfer
  | pinned => false

end Placement

structure Buffer (α : Type) where
  contents : Array α
  placement : Placement

namespace Buffer

variable {α : Type}

def length (buffer : Buffer α) : Nat := buffer.contents.size

def book : Option Ledger.Entry → Action Device Unit
  | some entry => Device.enter entry
  | none => pure ()

def checkView (buffer : Buffer α) (access : String) : Action Device Unit :=
  match buffer.placement with
  | .resident residency =>
      if residency.requiresTransfer then Action.fail (.deviceOperation (.notHostAccessible access))
      else Device.ensureIdle access
  | .pinned => Device.ensureIdle "partial sums"

/-- The contents, as the host sees them in place. -/
def view (buffer : Buffer α) : Action Device (Array α) := do
  buffer.checkView "read"
  return buffer.contents

/-- Changes the contents in place, from the host. A change that faults leaves them as they were. -/
def edit (buffer : Buffer α) (change : Array α → Checked (Array α)) : Action Device (Buffer α) := do
  buffer.checkView "write"
  let contents ← Action.checked (change buffer.contents)
  return { buffer with contents := contents }

def replaceAt (index : Nat) (value : α) (contents : Array α) : Checked (Array α) :=
  if index < contents.size then .ok (contents.setIfInBounds index value)
  else .error (.indexOutOfBounds index contents.size)

/-- Refuses a host array of another length. -/
def checkTransfer (buffer : Buffer α) (length : Nat) : Except Failure Unit :=
  if length = buffer.length then .ok () else .error (.lengthMismatch buffer.length length)

/-- Transfers the contents to a host array, which they replace. -/
def download (buffer : Buffer α) (target : Array α) : Action Device (Array α) := do
  Action.check (buffer.checkTransfer target.size)
  Device.synchronize
  return buffer.contents

/-- Transfers a host array to the buffer, whose contents it replaces. -/
def upload (buffer : Buffer α) (source : Array α) : Action Device (Buffer α) := do
  Action.check (buffer.checkTransfer source.size)
  Device.synchronize
  return { buffer with contents := source }

variable [Element α]

def bytes (buffer : Buffer α) : Nat := buffer.length * Element.bytes α

def zeroed (length : Nat) (placement : Placement) : Buffer α :=
  ⟨Array.replicate length Element.zero, placement⟩

variable (α) in
def checkBlock (host : Host) (length : Nat) : Except Failure Unit :=
  if length = 0 then
    .error (.invalidConfig .emptyBuffer)
  else if Word.greatestObject < length * Element.bytes α then
    .error (.deviceOperation (.addressSpace length))
  else if host.blockLimit ≤ length * Element.bytes α then
    .error (.deviceOperation (.hostExhausted (length * Element.bytes α)))
  else
    .ok ()

def provide (length : Nat) (placement : Placement) : Action Device (Buffer α) := do
  let device ← Action.get
  Action.check (checkBlock α device.host length)
  book (placement.reservation (length * Element.bytes α))
  return zeroed length placement

def allocate (length : Nat) (residency : Residency) : Action Device (Buffer α) := do
  let buffer ← provide length (.resident residency)
  let device ← Action.get
  Action.emit (.allocated buffer.bytes residency device.description.index)
  return buffer

def pin (length : Nat) : Action Device (Buffer α) := provide length .pinned

def free (buffer : Buffer α) : Action Device Unit :=
  book (buffer.placement.release buffer.bytes)

end Buffer

end Bandwidth
