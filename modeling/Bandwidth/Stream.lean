import Bandwidth.Buffer
import Bandwidth.Device.Platform
import Bandwidth.Kernel.Dot
import Bandwidth.Kernel.Elementwise
import Bandwidth.Residency

/-!
# Streams

A stream owns three arrays A, B and C of one length on one device, and a pinned buffer for the partial sums of the dot
product. Each of its operations launches one kernel and waits for it, so the queue is idle between operations.

A stream is created in one fixed order of checks: the array length, the device, its memory. The memory check is the same
for every residency, also for arrays that are not booked on the device.
-/

namespace Bandwidth

/-- What is fixed for the life of a stream. -/
structure StreamConfig where
  arraySize : Nat
  deviceIndex : Nat
  residency : Residency
  deriving DecidableEq, Repr

namespace StreamConfig

/-- The array length of a stream that asks for none: 2²⁵ elements. -/
def standardArraySize : Nat := 33554432

def standard : StreamConfig := ⟨standardArraySize, 0, .standard⟩

def validate (config : StreamConfig) : Except Failure Unit :=
  if config.arraySize = 0 then .error (.invalidConfig .emptyArrays) else .ok ()

def arrayBytes (config : StreamConfig) (elementBytes : Nat) : Checked Nat :=
  Word.mul config.arraySize elementBytes

/-- The configuration itself, if it is valid. -/
def build (config : StreamConfig) : Except Failure StreamConfig := do
  config.validate
  return config

end StreamConfig

/-- Three arrays on a device, with the kernels that run over them. -/
structure Stream (α : Type) where
  device : Device
  arraySize : Nat
  residency : Residency
  blocks : Nat
  arrays : Triple (Buffer α)
  /-- One partial sum for each group of a dot product. -/
  sums : Buffer α

/-- Refuses host arrays of another length; the first of them is named. -/
def checkHostLengths (expected : Nat) (lengths : Triple Nat) : Except Failure Unit :=
  match lengths.toList.find? (· != expected) with
  | some actual => .error (.lengthMismatch expected actual)
  | none => .ok ()

namespace Stream

variable {α : Type} {β : Type}

/-- The places of the arrays in the memory of a launch. -/
def arrayPlaces : Triple Nat := ⟨0, 1, 2⟩

def sumsPlace : Nat := 3

/-- Runs an action that allocates on a fresh device; if it fails, the device is closed again. -/
def closingOnFailure {σ : Type} (device : Device) (action : Action Device β) : Action σ (β × Device) := fun logged =>
  match action ⟨device, logged.log⟩ with
  | (.ok value, part) => (.ok (value, part.state), ⟨logged.state, part.log⟩)
  | (.error reason, part) =>
      (.error reason,
        ⟨logged.state, part.log.push (.deviceClosed part.state.description.index part.state.launches)⟩)

def onDevice (action : Action Device β) : Action (Stream α) β :=
  Action.within Stream.device (fun stream device => { stream with device := device }) action

/-- The memory of a launch: A, B, C and the partial sums. -/
def memory (stream : Stream α) : Memory α :=
  ⟨#[stream.arrays.a.contents, stream.arrays.b.contents, stream.arrays.c.contents, stream.sums.contents]⟩

def setMemory (stream : Stream α) (memory : Memory α) : Stream α :=
  { stream with
    arrays :=
      ⟨{ stream.arrays.a with contents := memory.contents arrayPlaces.a },
        { stream.arrays.b with contents := memory.contents arrayPlaces.b },
        { stream.arrays.c with contents := memory.contents arrayPlaces.c }⟩
    sums := { stream.sums with contents := memory.contents sumsPlace } }

def launching (launch : Action (Device × Memory α) β) : Action (Stream α) β :=
  Action.within (fun stream => (stream.device, stream.memory))
    (fun stream after => { stream.setMemory after.2 with device := after.1 }) launch

/-- Runs an action on the device of a stream beside a host's arrays. -/
def beside {τ : Type} (action : Action Device β) : Action (Stream α × τ) β :=
  Action.within (fun state => state.1.device)
    (fun state device => ({ state.1 with device := device }, state.2)) action

/-- What an array holds after another one was copied over it in place. -/
def copyOver (target source : Array α) : Checked (Array α) :=
  if source.size = target.size then .ok source else .error (.copyLength source.size target.size)

/-- How the host gets at the contents of an array of a stream: by transfer, or in place. -/
def fetch (residency : Residency) (buffer : Buffer α) (target : Array α) : Action Device (Array α) :=
  if residency.requiresTransfer then buffer.download target
  else do
    let contents ← buffer.view
    Action.checked (copyOver target contents)

def send (residency : Residency) (buffer : Buffer α) (source : Array α) : Action Device (Buffer α) :=
  if residency.requiresTransfer then buffer.upload source
  else buffer.edit fun contents => copyOver contents source

/-- Copies the arrays into a host's arrays, in the order A, B, C. -/
def read : Action (Stream α × Triple (Array α)) Unit := do
  let (stream, host) ← Action.get
  Action.check (checkHostLengths stream.arraySize (host.map Array.size))
  unless stream.residency.requiresTransfer do beside Device.synchronize
  let a ← beside (fetch stream.residency stream.arrays.a host.a)
  Action.modify fun (stream, host) => (stream, { host with a := a })
  let b ← beside (fetch stream.residency stream.arrays.b host.b)
  Action.modify fun (stream, host) => (stream, { host with b := b })
  let c ← beside (fetch stream.residency stream.arrays.c host.c)
  Action.modify fun (stream, host) => (stream, { host with c := c })

/-- Copies a host's arrays into the arrays, in the order A, B, C. -/
def write (source : Triple (Array α)) : Action (Stream α) Unit := do
  let stream ← Action.get
  Action.check (checkHostLengths stream.arraySize (source.map Array.size))
  unless stream.residency.requiresTransfer do onDevice Device.synchronize
  let a ← onDevice (send stream.residency stream.arrays.a source.a)
  Action.modify fun stream => { stream with arrays := { stream.arrays with a := a } }
  let b ← onDevice (send stream.residency stream.arrays.b source.b)
  Action.modify fun stream => { stream with arrays := { stream.arrays with b := b } }
  let c ← onDevice (send stream.residency stream.arrays.c source.c)
  Action.modify fun stream => { stream with arrays := { stream.arrays with c := c } }

variable [Element α]

def allocateBuffers (platform : Platform) (arraySize index : Nat) (residency : Residency) :
    Action Device (Nat × Triple (Buffer α) × Buffer α) := do
  let device ← Action.get
  Action.emit (.deviceChosen device.description.name)
  Action.emit (.driverFound (← Action.check (platform.driver index)))
  Action.emit (.residencyChosen residency)
  let bytes ← Procedure.ofExcept (device.description.checkCapacity arraySize (Element.bytes α))
  let blocks ← Action.checked device.description.dotBlocks
  let sums ← Buffer.pin blocks
  let a ← Buffer.allocate arraySize residency
  let b ← Buffer.allocate arraySize residency
  let c ← Buffer.allocate arraySize residency
  Action.emit (.streamReady arraySize (Element.precision α) bytes blocks)
  return (blocks, ⟨a, b, c⟩, sums)

def create {σ : Type} (platform : Platform) (config : StreamConfig) : Action σ (Stream α) := do
  Action.check config.validate
  let device ← platform.openDevice config.deviceIndex
  let ((blocks, arrays, sums), device) ← closingOnFailure device
    (allocateBuffers platform config.arraySize config.deviceIndex config.residency)
  return ⟨device, config.arraySize, config.residency, blocks, arrays, sums⟩

/-- Launches an elementwise kernel over the arrays and waits for it. -/
def elementwise (kernel : Elementwise α) : Action (Stream α) Unit := do
  let stream ← Action.get
  let geometry ← Action.checked (Geometry.elementwise stream.arraySize standardGroup)
  let _ ← launching (kernel.launch geometry arrayPlaces stream.arraySize)
  onDevice Device.synchronize

def fill (values : Triple α) : Action (Stream α) Unit := elementwise (.fill values)

def copy : Action (Stream α) Unit := elementwise .copy

def mul : Action (Stream α) Unit := elementwise .mul

def add : Action (Stream α) Unit := elementwise .add

def triad : Action (Stream α) Unit := elementwise .triad

def nstream : Action (Stream α) Unit := elementwise .nstream

/-- The sum of all `A[i] * B[i]`: the groups' partial sums, added in the order of the groups. -/
def dot : Action (Stream α) α := do
  let stream ← Action.get
  let geometry := Geometry.reduction stream.blocks standardGroup
  let _ ← launching (Dot.launch geometry arrayPlaces.a arrayPlaces.b sumsPlace stream.arraySize)
  onDevice Device.synchronize
  let stream ← Action.get
  let partialSums ← onDevice stream.sums.view
  return partialSums.foldl (· + ·) Element.zero

/-- Frees the buffers; what is left is the device. -/
def release : Action (Stream α) Unit := do
  let stream ← Action.get
  onDevice stream.arrays.a.free
  onDevice stream.arrays.b.free
  onDevice stream.arrays.c.free
  onDevice stream.sums.free

def close : Action (Stream α) Unit := do
  release
  onDevice Device.close

end Stream

end Bandwidth
