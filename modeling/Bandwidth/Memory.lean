import Bandwidth.Procedure

/-!
# Memory of a launch

A launch addresses buffers by number. Two roles of a kernel may name the same buffer, so kernels work on the memory as a
whole and not on separate arrays. An access past the end of a buffer is a fault that leaves the memory as it was; a
number that names no buffer names an empty one.
-/

namespace Bandwidth

/-- The contents of the buffers that a launch can address. -/
structure Memory (α : Type) where
  buffers : Array (Array α)

namespace Memory

variable {α : Type}

def contents (memory : Memory α) (buffer : Nat) : Array α :=
  memory.buffers.getD buffer #[]

def set (memory : Memory α) (buffer index : Nat) (value : α) : Memory α :=
  ⟨memory.buffers.modify buffer (·.setIfInBounds index value)⟩

def load (buffer index : Nat) : Procedure Fault (Memory α) α := fun memory =>
  match (memory.contents buffer)[index]? with
  | some value => (.ok value, memory)
  | none => (.error (.readOutOfBounds index (memory.contents buffer).size), memory)

def store (buffer index : Nat) (value : α) : Procedure Fault (Memory α) Unit := fun memory =>
  if index < (memory.contents buffer).size then
    (.ok (), memory.set buffer index value)
  else
    (.error (.writeOutOfBounds index (memory.contents buffer).size), memory)

/-- A write is seen in its own buffer and nowhere else. -/
theorem contents_set (memory : Memory α) (buffer index : Nat) (value : α) (other : Nat) :
    (memory.set buffer index value).contents other =
      if other = buffer then (memory.contents other).setIfInBounds index value
      else memory.contents other := by
  simp only [contents, set, Array.getD_eq_getD_getElem?, Array.getElem?_modify]
  by_cases same : buffer = other
  · subst same
    cases memory.buffers[buffer]? <;> simp
  · simp [same, Ne.symm same]

@[simp]
theorem size_contents_set (memory : Memory α) (buffer index : Nat) (value : α) (other : Nat) :
    ((memory.set buffer index value).contents other).size = (memory.contents other).size := by
  rw [contents_set]
  split <;> simp

end Memory

end Bandwidth
