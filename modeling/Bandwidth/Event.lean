import Bandwidth.Device.Description
import Bandwidth.Procedure
import Bandwidth.Residency

/-!
# Events

What devices and streams do is told as a sequence of typed events. Their wording and their level are functions of the
event, so a statement about what is logged does not compare texts.
-/

namespace Bandwidth

inductive Level where
  | error
  | warn
  | info
  | debug
  | trace
  deriving DecidableEq, Repr

namespace Level

def name : Level → String
  | error => "ERROR"
  | warn => "WARN"
  | info => "INFO"
  | debug => "DEBUG"
  | trace => "TRACE"

/-- The place of a level, the most important first. -/
def rank : Level → Nat
  | error => 0
  | warn => 1
  | info => 2
  | debug => 3
  | trace => 4

end Level

inductive Event where
  | deviceOpened (device : Description)
  | deviceClosed (index launches : Nat)
  | launched (index : Nat) (geometry : Geometry)
  | groupsLaunched (index : Nat) (geometry : Geometry)
  | synchronized (index retired : Nat)
  | allocated (bytes : Nat) (residency : Residency) (index : Nat)
  | deviceChosen (name : String)
  | driverFound (version : String)
  | residencyChosen (residency : Residency)
  | streamReady (elements : Nat) (precision : Precision) (bytes blocks : Nat)
  | backendSelected (name : String)
  | runStarted (kernels iterations elements : Nat)
  | kernelTimed (name least greatest mean : String)
  deriving DecidableEq, Repr

namespace Event

def level : Event → Level
  | deviceOpened _ | deviceChosen _ | driverFound _ | residencyChosen _ | backendSelected _ | runStarted .. => .info
  | deviceClosed .. | allocated .. | streamReady .. | kernelTimed .. => .debug
  | launched .. | groupsLaunched .. | synchronized .. => .trace

def message : Event → String
  | deviceOpened device =>
      s!"Opened CPU device {device.index} '{device.name}' " ++
        s!"({device.units} compute units, {device.memory / 1048576} MiB)"
  | deviceClosed index launches => s!"Closing CPU device {index} after {launches} launches"
  | launched index geometry => s!"CPU launch on device {index}: grid={geometry.grid}, group={geometry.group}"
  | groupsLaunched index geometry =>
      s!"CPU cooperative launch on device {index}: grid={geometry.grid}, group={geometry.group}"
  | synchronized index retired => s!"Device {index} synchronized ({retired} launches retired)"
  | allocated bytes residency index => s!"Allocated {bytes} bytes ({residency.label}) on CPU device {index}"
  | deviceChosen name => s!"Using CPU device {name}"
  | driverFound version => s!"Driver: {version}"
  | residencyChosen residency => s!"Memory: {residency.label}"
  | streamReady elements precision bytes blocks =>
      s!"CPU stream ready: {elements} elements of {precision.typeName} ({bytes} bytes total), dot grid={blocks}"
  | backendSelected name => s!"Auto-selected {name} backend"
  | runStarted kernels iterations elements =>
      s!"Running {kernels} kernel(s) {iterations} times on {elements} elements"
  | kernelTimed name least greatest mean => s!"{name}: min={least}s max={greatest}s avg={mean}s"

/-- The log line of an event: its level in a column of five characters, and its text. -/
def line (event : Event) : String :=
  "".pushn ' ' (5 - event.level.name.length) ++ event.level.name ++ " " ++ event.message

end Event

/-- A state with the events that led to it. -/
structure Logged (σ : Type) where
  state : σ
  log : Array Event

abbrev Action (σ : Type) := Procedure Abort (Logged σ)

namespace Action

variable {σ τ β : Type}

def emit (event : Event) : Action σ Unit :=
  Procedure.modify fun logged => { logged with log := logged.log.push event }

def get : Action σ σ := fun logged => (.ok logged.state, logged)

def modify (change : σ → σ) : Action σ Unit :=
  Procedure.modify fun logged => { logged with state := change logged.state }

def fail (failure : Failure) : Action σ β := Procedure.stop (.failure failure)

def check (outcome : Except Failure β) : Action σ β :=
  Procedure.ofExcept (outcome.mapError .failure)

def checked (outcome : Checked β) : Action σ β :=
  Procedure.ofExcept (outcome.mapError .fault)

/-- Runs a procedure that can only fault and does not log. -/
def silent (procedure : Procedure Fault σ β) : Action σ β := fun logged =>
  match procedure logged.state with
  | (outcome, state) => (outcome.mapError .fault, { logged with state := state })

def within (view : σ → τ) (update : σ → τ → σ) (action : Action τ β) : Action σ β :=
  Procedure.within (fun logged => ⟨view logged.state, logged.log⟩)
    (fun logged part => ⟨update logged.state part.state, part.log⟩) action

end Action

end Bandwidth
