import Bandwidth.Proofs.Dot.Region

/-!
# Races in shared memory

A worker reads a slot if what it does depends on what it finds there, and writes a slot if it can
leave something else there. In no region of the dot product does a worker read a slot that another
one writes. In the first region it reads none at all, so nothing that was left in shared memory is
ever seen; the later regions read slots of the group only.
-/

namespace Bandwidth

namespace GroupState

variable {σ τ : Type}

/-- Two states of a group that differ at most in what one slot holds. -/
structure AgreeOff (slot : Nat) (state other : GroupState σ τ) : Prop where
  size_eq : state.slots.size = other.slots.size
  elsewhere : ∀ place, place ≠ slot → state.slots[place]? = other.slots[place]?
  barriers_eq : state.barriers = other.barriers
  outside_eq : state.outside = other.outside

/-- Two states that differ in one slot lead to the same end, and the slot is left alone or
overwritten alike. -/
structure SameEffect (slot : Nat) (procedure : Procedure Fault (GroupState σ τ) Unit)
    (state other : GroupState σ τ) : Prop where
  outcome_eq : (procedure.run state).1 = (procedure.run other).1
  agree : (procedure.run state).2.AgreeOff slot (procedure.run other).2
  here : (procedure.run state).2.slots[slot]? = (procedure.run other).2.slots[slot]? ∨
    (procedure.run state).2.slots[slot]? = state.slots[slot]? ∧
      (procedure.run other).2.slots[slot]? = other.slots[slot]?

theorem SameEffect.of_ok {slot : Nat} {procedure : Procedure Fault (GroupState σ τ) Unit}
    {state other after otherAfter : GroupState σ τ} (ran : procedure.run state = (.ok (), after))
    (otherRan : procedure.run other = (.ok (), otherAfter)) (agree : after.AgreeOff slot otherAfter)
    (here : after.slots[slot]? = otherAfter.slots[slot]? ∨
      after.slots[slot]? = state.slots[slot]? ∧ otherAfter.slots[slot]? = other.slots[slot]?) :
    SameEffect slot procedure state other := by
  constructor
  all_goals rw [ran, otherRan]
  · exact agree
  · exact here

def Reads (states : GroupState σ τ → Prop) (procedure : Procedure Fault (GroupState σ τ) Unit)
    (slot : Nat) : Prop :=
  ∃ state other, states state ∧ states other ∧ AgreeOff slot state other ∧
    ¬SameEffect slot procedure state other

def Writes (states : GroupState σ τ → Prop) (procedure : Procedure Fault (GroupState σ τ) Unit)
    (slot : Nat) : Prop :=
  ∃ state, states state ∧ (procedure.run state).2.slots[slot]? ≠ state.slots[slot]?

/-- A slot that a group does not have cannot be read. -/
theorem lt_of_reads {states : GroupState σ τ → Prop}
    {procedure : Procedure Fault (GroupState σ τ) Unit} {size slot : Nat}
    (sizes : ∀ state, states state → state.slots.size = size)
    (reads : Reads states procedure slot) : slot < size := by
  by_contra past
  rcases reads with ⟨state, other, known, otherKnown, agree, different⟩
  have stateSize := sizes state known
  have otherSize := sizes other otherKnown
  have same : state = other := by
    rcases state with ⟨slots, barriers, outside⟩
    rcases other with ⟨otherSlots, otherBarriers, otherOutside⟩
    have slotsEq : slots = otherSlots := by
      apply Array.ext_getElem?
      intro place
      by_cases here : place = slot
      · simp only at stateSize otherSize
        rw [Array.getElem?_eq_none (by omega), Array.getElem?_eq_none (by omega)]
      · exact agree.elsewhere place here
    rw [slotsEq, show barriers = otherBarriers from agree.barriers_eq,
      show outside = otherOutside from agree.outside_eq]
  subst same
  exact different ⟨rfl, ⟨rfl, fun _ _ => rfl, rfl, rfl⟩, Or.inl rfl⟩

end GroupState

namespace Dot

open GroupState

variable {α : Type} [Element α]

/-- The states in which the workers of a group find their slots and all elements that they load and
store. -/
structure Ready (geometry : Geometry) (a b sums arraySize : Nat)
    (state : GroupState α (Memory α)) : Prop where
  size_eq : state.slots.size = geometry.group
  inA : arraySize ≤ (state.outside.contents a).size
  inB : arraySize ≤ (state.outside.contents b).size
  inSums : geometry.grid ≤ (state.outside.contents sums).size

inductive Region where
  | accumulate
  | foldStep (offset : Nat)
  | publish
  deriving DecidableEq, Repr

def Region.body (a b sums arraySize : Nat) :
    Region → Worker → Procedure Fault (GroupState α (Memory α)) Unit
  | accumulate => Dot.accumulate a b arraySize
  | foldStep offset => Dot.foldStep offset
  | publish => Dot.publish sums

variable {geometry : Geometry} {worker other : Worker} {a b sums arraySize slot : Nat}

theorem not_reads_accumulate (inGrid : worker.InGrid) (sameGrid : worker.geometry = geometry)
    (fits : geometry.size < Word.bound) (isWord : arraySize < Word.bound) :
    ¬Reads (Ready geometry a b sums arraySize) (accumulate (α := α) a b arraySize worker) slot := by
  subst sameGrid
  rintro ⟨state, other, ready, otherReady, agree, different⟩
  apply different
  have ran := accumulate_run inGrid fits isWord ready.inA ready.inB
  have otherRan := accumulate_run inGrid fits isWord otherReady.inA otherReady.inB
  rw [← agree.outside_eq] at otherRan
  refine .of_ok ran otherRan ⟨by simpa using agree.size_eq, ?_, agree.barriers_eq, rfl⟩ ?_
  · intro place elsewhere
    simp only [Array.getElem?_setIfInBounds, agree.size_eq, agree.elsewhere place elsewhere]
  · by_cases own : worker.localId = slot
    · left
      simp only [Array.getElem?_setIfInBounds, own, agree.size_eq, if_pos]
    · right
      simp only [Array.getElem?_setIfInBounds_ne own, and_self]

theorem reads_foldStep {offset : Nat} {states : GroupState α (Memory α) → Prop}
    (reads : Reads states (foldStep offset worker) slot) :
    worker.localId < offset ∧ (slot = worker.localId ∨ slot = worker.localId + offset) := by
  by_contra unread
  rcases reads with ⟨state, other, _, _, agree, different⟩
  apply different
  have ran := foldStep_run offset worker state
  have otherRan := foldStep_run offset worker other
  by_cases adds : worker.localId < offset
  · rw [if_pos adds] at ran otherRan
    have added : state.slots.getD (worker.localId + offset) Element.zero =
        other.slots.getD (worker.localId + offset) Element.zero := by
      rw [Array.getD_eq_getD_getElem?, agree.elsewhere _ (by omega), Array.getD_eq_getD_getElem?]
    have own : worker.localId ≠ slot := by omega
    refine .of_ok ran otherRan
      ⟨by simpa using agree.size_eq, ?_, agree.barriers_eq, agree.outside_eq⟩ ?_
    · intro place elsewhere
      simp only [Array.getElem?_modify, agree.elsewhere place elsewhere, added]
    · simp [Array.getElem?_modify, own]
  · rw [if_neg adds] at ran otherRan
    exact .of_ok ran otherRan agree (Or.inr ⟨rfl, rfl⟩)

/-- In every region a worker writes its own slot at most, and above the offset of a step of the tree
it writes none. -/
theorem writes_region {region : Region} (inGrid : worker.InGrid)
    (sameGrid : worker.geometry = geometry) (fits : geometry.size < Word.bound)
    (isWord : arraySize < Word.bound)
    (writes : Writes (Ready geometry a b sums arraySize)
      (region.body (α := α) a b sums arraySize worker) slot) :
    slot = worker.localId ∧ ∀ offset, region = .foldStep offset → slot < offset := by
  rcases writes with ⟨state, ready, changed⟩
  have below := inGrid.groupId_lt
  rw [sameGrid] at below
  cases region with
  | accumulate =>
      refine ⟨?_, by simp⟩
      by_contra elsewhere
      subst sameGrid
      apply changed
      rw [Region.body, accumulate_run inGrid fits isWord ready.inA ready.inB]
      exact Array.getElem?_setIfInBounds_ne (Ne.symm elsewhere)
  | foldStep offset =>
      rw [Region.body, foldStep_run] at changed
      by_cases adds : worker.localId < offset
      · simp only [if_pos adds, Array.getElem?_modify] at changed
        by_cases here : worker.localId = slot
        · subst here
          exact ⟨rfl, by simpa using adds⟩
        · simp [here] at changed
      · simp [adds] at changed
  | publish =>
      rw [Region.body, publish_run (Nat.lt_of_lt_of_le below ready.inSums)] at changed
      exact absurd rfl changed

theorem not_reads_of_writes {region : Region} (inGrid : worker.InGrid)
    (sameGrid : worker.geometry = geometry) (otherInGrid : other.InGrid)
    (otherGrid : other.geometry = geometry) (different : worker.localId ≠ other.localId)
    (fits : geometry.size < Word.bound) (isWord : arraySize < Word.bound)
    (writes : Writes (Ready geometry a b sums arraySize)
      (region.body (α := α) a b sums arraySize other) slot) :
    ¬Reads (Ready geometry a b sums arraySize)
      (region.body (α := α) a b sums arraySize worker) slot := by
  rcases writes_region otherInGrid otherGrid fits isWord writes with ⟨rfl, lower⟩
  intro reads
  cases region with
  | accumulate => exact not_reads_accumulate inGrid sameGrid fits isWord reads
  | foldStep offset =>
      have adds := lower offset rfl
      rcases reads_foldStep reads with ⟨_, own | upper⟩
      · exact different own.symm
      · omega
  | publish =>
      rcases writes with ⟨state, ready, changed⟩
      have below := otherInGrid.groupId_lt
      rw [otherGrid] at below
      rw [Region.body, publish_run (Nat.lt_of_lt_of_le below ready.inSums)] at changed
      exact changed rfl

/-- The workers of a group do not get in each other's way, and see nothing that was left in shared
memory. -/
structure RaceFree (α : Type) [Element α] (geometry : Geometry)
    (a b sums arraySize : Nat) : Prop where
  /-- No worker reads a slot that another worker of its group writes in the same region. -/
  apart : ∀ (region : Region) (worker other : Worker),
    worker.InGrid → worker.geometry = geometry → other.InGrid → other.geometry = geometry →
    worker.groupId = other.groupId → worker.localId ≠ other.localId → ∀ slot,
    Writes (Ready geometry a b sums arraySize)
      (region.body (α := α) a b sums arraySize other) slot →
    ¬Reads (Ready geometry a b sums arraySize)
      (region.body (α := α) a b sums arraySize worker) slot
  /-- In the first region no slot is read. -/
  blind : ∀ worker : Worker, worker.InGrid → worker.geometry = geometry →
    ∀ slot, ¬Reads (Ready geometry a b sums arraySize)
      (accumulate (α := α) a b arraySize worker) slot
  /-- In the first region every worker overwrites its slot, whatever the slots hold. -/
  overwritten : ∀ worker : Worker, worker.InGrid → worker.geometry = geometry →
    ∀ state : GroupState α (Memory α), Ready geometry a b sums arraySize state →
      ((accumulate a b arraySize worker).run state).2.slots[worker.localId]? =
        some (workerSum (state.outside.contents a).toList (state.outside.contents b).toList
          arraySize worker)
  /-- Only slots of the group are ever read. -/
  inside : ∀ (region : Region) (worker : Worker) (slot : Nat),
    Reads (Ready geometry a b sums arraySize)
      (region.body (α := α) a b sums arraySize worker) slot →
    slot < geometry.group

theorem raceFree (fits : geometry.size < Word.bound) (isWord : arraySize < Word.bound) :
    RaceFree α geometry a b sums arraySize where
  apart _ _ _ inGrid sameGrid otherInGrid otherGrid _ different _ writes :=
    not_reads_of_writes inGrid sameGrid otherInGrid otherGrid different fits isWord writes
  blind _ inGrid sameGrid _ := not_reads_accumulate inGrid sameGrid fits isWord
  overwritten worker inGrid sameGrid state ready := by
    subst sameGrid
    rw [accumulate_run inGrid fits isWord ready.inA ready.inB]
    exact Array.getElem?_setIfInBounds_self_of_lt (ready.size_eq ▸ inGrid.localId_lt)
  inside _ _ _ reads := lt_of_reads (fun _ ready => ready.size_eq) reads

end Dot

end Bandwidth
