import Bandwidth.Kernel.Dot
import Bandwidth.Proofs.Elementwise.Column
import Bandwidth.Proofs.Launch.Sequence
import Bandwidth.Proofs.Launch.Stride
import Mathlib.Algebra.Group.Nat.Defs

/-!
# The regions of the dot product

What one worker does in each region of the dot product, as an equation between states. In the first
region it replaces its own slot by the sum of its products, whatever the slot held; in a step of the
tree it adds one slot to its own; in the last one it writes a partial sum. No worker touches the
slot of another.
-/

namespace Bandwidth

namespace GroupState

variable {α : Type} {state : GroupState α (Memory α)} {buffer index : Nat}

theorem load_run {value : α} (there : state.outside.column index buffer = some value) :
    (onOutside (Memory.load buffer index)).run state = (.ok value, state) := by
  simp only [Procedure.run, onOutside, Procedure.within, Memory.load_of_column there]

theorem store_run (below : index < (state.outside.contents buffer).size) (value : α) :
    (onOutside (Memory.store buffer index value)).run state =
      (.ok (), { state with outside := state.outside.set buffer index value }) := by
  simp only [Procedure.run, onOutside, Procedure.within, Memory.store_of_lt below]

end GroupState

namespace Dot

variable {α : Type} [Element α]

/-- The products of two arrays at some indices, added up in order from zero. -/
def productSum (x y : List α) (indices : List Nat) : α :=
  indices.foldl
    (fun sum index => sum + x.getD index Element.zero * y.getD index Element.zero) Element.zero

def workerSum (x y : List α) (arraySize : Nat) (worker : Worker) : α :=
  productSum x y (worker.indices arraySize)

/-- The halving tree over the first `2 ^ levels` values. -/
def treeSum : Nat → (Nat → α) → α
  | 0, values => values 0
  | levels + 1, values => treeSum levels fun slot => values slot + values (slot + 2 ^ levels)

/-- The partial sum of a group with `2 ^ levels` workers. -/
def groupSum (levels : Nat) (x y : List α) (arraySize : Nat) (geometry : Geometry)
    (groupId : Nat) : α :=
  treeSum levels fun localId => workerSum x y arraySize ⟨localId, groupId, geometry⟩

variable {worker : Worker} {a b sums arraySize : Nat} {state : GroupState α (Memory α)}

omit [Element α] in
theorem modify_setIfInBounds (slots : Array α) (slot : Nat) (value : α) (change : α → α) :
    (slots.setIfInBounds slot value).modify slot change =
      slots.setIfInBounds slot (change value) := by
  apply Array.ext_getElem?
  intro index
  simp only [Array.getElem?_modify, Array.getElem?_setIfInBounds]
  by_cases same : slot = index
  · subst same
    by_cases below : slot < slots.size <;> simp [below]
  · simp [same]

/-- Adds the product at one index to a slot. -/
def addProduct (a b slot index : Nat) : Procedure Fault (GroupState α (Memory α)) Unit := do
  let x ← GroupState.onOutside (Memory.load a index)
  let y ← GroupState.onOutside (Memory.load b index)
  GroupState.modifySlots (·.modify slot (· + x * y))

section

variable {slots : Array α} {barriers : Nat} {outside : Memory α}

theorem addProduct_run {slot index : Nat} (inA : index < (outside.contents a).size)
    (inB : index < (outside.contents b).size) :
    (addProduct a b slot index).run ⟨slots, barriers, outside⟩ =
      (.ok (),
        ⟨slots.modify slot (· + (outside.contents a)[index] * (outside.contents b)[index]),
          barriers, outside⟩) := by
  rw [addProduct, Procedure.bind_run_of_ok (GroupState.load_run (Memory.column_of_lt inA)),
    Procedure.bind_run_of_ok (GroupState.load_run (Memory.column_of_lt inB))]
  rfl

/-- A slot to which products are added holds the sum as far as it has come. -/
theorem addProducts_run {slot : Nat} {indices : List Nat}
    (inA : ∀ index ∈ indices, index < (outside.contents a).size)
    (inB : ∀ index ∈ indices, index < (outside.contents b).size) (sum : α) :
    (Procedure.forEach (addProduct a b slot) indices).run
        ⟨slots.setIfInBounds slot sum, barriers, outside⟩ =
      (.ok (),
        ⟨slots.setIfInBounds slot (indices.foldl (fun sum index =>
          sum + (outside.contents a).toList.getD index Element.zero *
            (outside.contents b).toList.getD index Element.zero) sum), barriers, outside⟩) := by
  induction indices generalizing sum with
  | nil => rfl
  | cons index indices ih =>
      have belowA := inA index List.mem_cons_self
      have belowB := inB index List.mem_cons_self
      rw [Procedure.forEach_cons, addProduct_run belowA belowB]
      simp only [modify_setIfInBounds]
      rw [ih (fun other otherMem => inA other (List.mem_cons_of_mem _ otherMem))
        (fun other otherMem => inB other (List.mem_cons_of_mem _ otherMem))]
      simp [List.getD_eq_getElem?_getD, belowA, belowB]

end

/-- In the first region a worker clears its slot and adds the products at its indices. -/
theorem accumulate_eq (inGrid : worker.InGrid) (fits : worker.geometry.size < Word.bound)
    (isWord : arraySize < Word.bound) :
    accumulate a b arraySize worker = (do
      GroupState.modifySlots (·.setIfInBounds worker.localId Element.zero)
      Procedure.forEach (addProduct a b worker.localId) (worker.indices arraySize) :
        Procedure Fault (GroupState α (Memory α)) Unit) := by
  rcases Worker.start_eq inGrid isWord with ⟨walk, started, indices⟩
  simp only [accumulate, Worker.globalId_eq inGrid fits, Worker.totalWorkers_eq fits,
    Procedure.ofExcept_ok, pure_bind, started]
  rw [← indices, ← GridWalk.visitAll_eq_forEach_indices]
  rfl

/-- It leaves the sum of its products in its slot, whatever the slot held. -/
theorem accumulate_run (inGrid : worker.InGrid) (fits : worker.geometry.size < Word.bound)
    (isWord : arraySize < Word.bound) (inA : arraySize ≤ (state.outside.contents a).size)
    (inB : arraySize ≤ (state.outside.contents b).size) :
    (accumulate a b arraySize worker).run state =
      (.ok (), { state with
        slots := state.slots.setIfInBounds worker.localId
          (workerSum (state.outside.contents a).toList (state.outside.contents b).toList arraySize
            worker) }) := by
  have below : ∀ index ∈ worker.indices arraySize, index < arraySize := by
    intro index indexMem
    exact (Worker.mem_indices_iff.mp indexMem).1
  rw [accumulate_eq inGrid fits isWord]
  exact addProducts_run (fun index indexMem => Nat.lt_of_lt_of_le (below index indexMem) inA)
    (fun index indexMem => Nat.lt_of_lt_of_le (below index indexMem) inB) Element.zero

/-- In a step of the tree a worker below the offset adds one slot to its own. -/
theorem foldStep_run (offset : Nat) (worker : Worker) (state : GroupState α (Memory α)) :
    (foldStep offset worker).run state =
      (.ok (), { state with
        slots :=
          if worker.localId < offset then
            state.slots.modify worker.localId
              (· + state.slots.getD (worker.localId + offset) Element.zero)
          else state.slots }) := by
  unfold foldStep
  split <;> rfl

theorem publish_run (inSums : worker.groupId < (state.outside.contents sums).size) :
    (publish sums worker).run state =
      (.ok (), { state with
        outside :=
          if worker.localId = 0 then
            state.outside.set sums worker.groupId (state.slots.getD 0 Element.zero)
          else state.outside }) := by
  unfold publish
  split
  · exact GroupState.store_run inSums _
  · rfl

end Dot

end Bandwidth
