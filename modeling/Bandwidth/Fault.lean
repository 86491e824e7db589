/-!
# Faults

A call can end in two bad ways. A *failure* is reported to the caller, who may go on; it is described in
`Bandwidth.Failure`. A *fault* stops the call on the spot: a size left the range of a machine word, a divisor was
zero, a worker reached past the end of a buffer. What was done before a fault stays done, so every computation that
can fault also says in which state it leaves the world (`Bandwidth.Procedure`).
-/

namespace Bandwidth

inductive Fault where
  | addOverflow
  | subtractOverflow
  | multiplyOverflow
  | divideByZero
  /-- A walk over an array is shared out among no workers at all. -/
  | noWorkers
  | readOutOfBounds (index length : Nat)
  | writeOutOfBounds (index length : Nat)
  /-- The host names an element past the end of an array. -/
  | indexOutOfBounds (index length : Nat)
  /-- An array is copied in place over one of another length. -/
  | copyLength (source target : Nat)
  /-- Something would take more bytes than any object has. -/
  | capacityOverflow
  /-- A step names a buffer that is not allocated. -/
  | danglingBuffer (handle : Nat)
  | libraryMissing
  deriving DecidableEq, Repr

namespace Fault

def message : Fault → String
  | addOverflow => "attempt to add with overflow"
  | subtractOverflow => "attempt to subtract with overflow"
  | multiplyOverflow => "attempt to multiply with overflow"
  | divideByZero => "attempt to divide by zero"
  | noWorkers => "assertion failed: total_workers > 0"
  | readOutOfBounds index length => s!"device read out of bounds: {index} >= {length}"
  | writeOutOfBounds index length => s!"device write out of bounds: {index} >= {length}"
  | indexOutOfBounds index length => s!"index out of bounds: the len is {length} but the index is {index}"
  | copyLength source target =>
      s!"copy_from_slice: source slice length ({source}) does not match destination slice length ({target})"
  | capacityOverflow => "capacity overflow"
  | danglingBuffer handle => s!"buffer {handle} is not allocated"
  | libraryMissing => "Unable to dynamically load the \"cuda\" shared library"

end Fault

/-- A computation on sizes, which a fault may cut short. -/
abbrev Checked := Except Fault

end Bandwidth
