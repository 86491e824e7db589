import Bandwidth.Procedure
import Bandwidth.Word

/-!
# Grid walks

A worker starts at its place in the grid and goes on by the number of workers, until it is past the end of the array.
So the grid need not fit the array: a worker may visit many elements or none.

A step saturates at the greatest word. The end of an array is at most that word, so a walk that has saturated is over,
and every step that yields an index brings the walk nearer to its end. Both facts are fields of the type, and the
recursion over a walk rests on them.
-/

namespace Bandwidth

/-- The indices that one worker has yet to visit. -/
structure GridWalk where
  /-- The next index, if it is below `stop`. -/
  next : Nat
  /-- The distance to the index after that. -/
  stride : Nat
  stop : Nat
  stride_pos : 0 < stride
  stop_le : stop ≤ Word.greatest

namespace GridWalk

/-- The walk of the worker at `globalId` among `totalWorkers`. An array has no index past the greatest word. -/
def start (globalId totalWorkers arraySize : Nat) : Checked GridWalk :=
  if positive : 0 < totalWorkers then
    .ok ⟨globalId, totalWorkers, min arraySize Word.greatest, positive, Nat.min_le_right _ _⟩
  else
    .error .noWorkers

def advance (walk : GridWalk) : GridWalk :=
  { walk with next := Word.addSaturating walk.next walk.stride }

def step? (walk : GridWalk) : Option (Nat × GridWalk) :=
  if walk.next < walk.stop then some (walk.next, walk.advance) else none

/-- Takes a number of steps, unless the walk is over before: the indices, and the walk after them. -/
def take (walk : GridWalk) : Nat → List Nat × GridWalk
  | 0 => ([], walk)
  | steps + 1 =>
      match walk.step? with
      | none => ([], walk)
      | some (index, after) =>
          let (indices, last) := after.take steps
          (index :: indices, last)

/-- The number of indices a walk announces, computed as a quotient rounded up. -/
def announced (walk : GridWalk) : Checked Nat :=
  if walk.next < walk.stop then Word.ceilDiv (walk.stop - walk.next) walk.stride else .ok 0

theorem distance_advance_lt {walk : GridWalk} (more : walk.next < walk.stop) :
    walk.advance.stop - walk.advance.next < walk.stop - walk.next := by
  have below : walk.next < Word.greatest := Nat.lt_of_lt_of_le more walk.stop_le
  have further := Word.lt_addSaturating walk.stride_pos below
  simp only [advance]
  omega

def indices (walk : GridWalk) : List Nat :=
  if _more : walk.next < walk.stop then walk.next :: walk.advance.indices else []
termination_by walk.stop - walk.next
decreasing_by exact distance_advance_lt (by assumption)

/-- Visits every index of a walk in order, until a visit stops. -/
def visitAll {ε σ : Type} (walk : GridWalk) (visit : Nat → Procedure ε σ Unit) : Procedure ε σ Unit := fun state =>
  if _more : walk.next < walk.stop then
    match visit walk.next state with
    | (.ok (), state) => walk.advance.visitAll visit state
    | (.error reason, state) => (.error reason, state)
  else
    (.ok (), state)
termination_by walk.stop - walk.next
decreasing_by exact distance_advance_lt (by assumption)

/-- A walk visits its indices. -/
theorem visitAll_eq_forEach_indices {ε σ : Type} (walk : GridWalk) (visit : Nat → Procedure ε σ Unit) :
    walk.visitAll visit = Procedure.forEach visit walk.indices := by
  funext state
  fun_induction indices walk generalizing state with
  | case1 walk more ih =>
      rw [visitAll, Procedure.forEach]
      simp only [more, ↓reduceDIte]
      rcases visit walk.next state with ⟨outcome, after⟩
      cases outcome with
      | ok value => exact ih after
      | error reason => rfl
  | case2 walk more =>
      rw [visitAll, Procedure.forEach]
      simp [more]

end GridWalk

end Bandwidth
