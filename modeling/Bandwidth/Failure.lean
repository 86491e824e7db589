import Bandwidth.Element
import Bandwidth.Fault

/-!
# Failures

A failure is reported to the caller as a value and names its cause. The wording of every cause is in one place,
`Failure.message`; the rest of the library only compares and passes on causes. A stream of another make may fail for
reasons of its own, so each family of causes ends in one that carries a text.
-/

namespace Bandwidth

inductive ConfigCause where
  | emptyArrays
  | noIterations
  | emptyGroup
  /-- A halving tree cannot fold a group of this size. -/
  | unevenGroup (size : Nat)
  | emptyBuffer
  | unknownResidency (name : String)
  | unknownBackend (name : String)
  /-- The expected values leave the range of the element type. -/
  | valuesOverflow (iterations : Nat) (precision : Precision) (supported : Nat)
  | other (text : String)
  deriving DecidableEq, Repr

inductive DeviceCause where
  /-- The budget of the device does not cover a reservation. -/
  | outOfMemory (requested available : Nat)
  /-- No object of that many elements fits into the address space. -/
  | addressSpace (elements : Nat)
  /-- The host has no block of that many bytes. -/
  | hostExhausted (bytes : Nat)
  | notHostAccessible (access : String)
  | notSynchronized (access : String)
  /-- A group issued another number of barriers than the first group. -/
  | divergentBarriers (group barriers expected : Nat)
  | other (text : String)
  deriving DecidableEq, Repr

inductive BackendCause where
  | notBuilt
  | other (text : String)
  deriving DecidableEq, Repr

inductive Failure where
  | invalidDevice (index count : Nat)
  | insufficientMemory (required available : Nat)
  | deviceOperation (cause : DeviceCause)
  | invalidConfig (cause : ConfigCause)
  /-- A host array has another length than the device array. -/
  | lengthMismatch (expected actual : Nat)
  | backendUnavailable (cause : BackendCause)
  deriving DecidableEq, Repr

namespace ConfigCause

def message : ConfigCause → String
  | emptyArrays => "array size must be at least 1"
  | noIterations => "number of iterations must be at least 1"
  | emptyGroup => "group size must be positive"
  | unevenGroup size => s!"group size {size} is not a power of two"
  | emptyBuffer => "Cannot allocate zero-sized buffer"
  | unknownResidency name => s!"Unknown residency '{name}'. Valid options: device, managed, pagefault"
  | unknownBackend name => s!"unknown backend '{name}' (expected auto, cpu or cuda)"
  | valuesOverflow iterations precision supported =>
      s!"{iterations} iterations overflow {precision.typeName} values; at most {supported} are supported"
  | other text => text

end ConfigCause

namespace DeviceCause

def message : DeviceCause → String
  | outOfMemory requested available =>
      s!"out of device memory: requested {requested} bytes, {available} available"
  | addressSpace elements => s!"allocation of {elements} elements overflows the address space"
  | hostExhausted bytes => s!"host allocation of {bytes} bytes failed"
  | notHostAccessible access => s!"device-only memory is not host accessible ({access})"
  | notSynchronized access => s!"host access before synchronization ({access})"
  | divergentBarriers group barriers expected =>
      s!"divergent barriers: group {group} issued {barriers} barriers, group 0 issued {expected}"
  | other text => text

end DeviceCause

namespace BackendCause

def message : BackendCause → String
  | notBuilt => "CUDA feature not enabled"
  | other text => text

end BackendCause

namespace Failure

def message : Failure → String
  | invalidDevice index count => s!"Invalid device index {index} ({count} device(s) available)"
  | insufficientMemory required available =>
      "Device does not have enough memory for all 3 buffers: " ++
        s!"{required} bytes required, {available} bytes available"
  | deviceOperation cause => s!"Device operation failed: {cause.message}"
  | invalidConfig cause => s!"Invalid configuration: {cause.message}"
  | lengthMismatch expected actual => s!"Array length mismatch: expected {expected}, got {actual}"
  | backendUnavailable cause => s!"Backend not available: {cause.message}"

/-- Whether the device is lost: only a failed device operation leaves it in doubt. -/
def isFatal : Failure → Bool
  | deviceOperation _ => true
  | _ => false

/-- Whether the failure belongs to the construction of a stream and not to its use. -/
def isConstruction : Failure → Bool
  | invalidDevice .. | insufficientMemory .. | invalidConfig _ | backendUnavailable _ => true
  | deviceOperation _ | lengthMismatch .. => false

end Failure

inductive Abort where
  | failure (failure : Failure)
  | fault (fault : Fault)
  deriving DecidableEq, Repr

end Bandwidth
