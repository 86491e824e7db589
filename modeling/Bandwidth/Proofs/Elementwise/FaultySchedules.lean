import Bandwidth.Proofs.Elementwise.Faults

/-!
# Faults in any schedule

When a worker faults, the others may still be at work. So a launch that faults can leave more behind than what was done
before the fault: here a schedule goes on after it, without the worker. Which of the others get any further turns is up
to the schedule.

Whatever the schedule, every element is old or new, every fault is past the end of a buffer, and a schedule that brings
all workers to their end without a fault shows that the buffers were long enough.
-/

namespace Bandwidth

namespace Thread

variable {α : Type}

end Thread

namespace Elementwise

variable {α : Type} [Element α] (kernel : Elementwise α)

end Elementwise

namespace Thread

variable {α : Type} {buffers : Triple Nat} {memory after : Memory α} {crew : List (Thread α)}
  {turn : Nat} {thread next : Thread α}

section Turns

end Turns

section Invariant

variable [Element α] {kernel : Elementwise α} {arraySize : Nat} {before : Memory α}

end Invariant

end Thread

namespace Elementwise

variable {α : Type} [Element α] {kernel : Elementwise α} {buffers : Triple Nat} {arraySize : Nat}
  {before : Memory α} {geometry : Geometry}

section Launches

variable (kernel : Elementwise α) (buffers : Triple Nat) (memory : Memory α) (device : Device)
  (log : Array Event) (group_pos : 1 ≤ geometry.group) (isWords : geometry.size < Word.bound)
  (isWord : arraySize < Word.bound)

include group_pos isWords isWord

end Launches

end Elementwise

end Bandwidth
