import Bandwidth.Proofs.Elementwise.Column
import Mathlib.Data.List.Nodup

/-!
# The progress of an elementwise launch

An elementwise kernel is to leave, in every column of the array, what its body makes of that column.
While the launch runs, some indices are still pending, each with what is left of its body. The
invariant `Progress` says that what is left will end and will bring its column to the goal, and that
every other column has reached it. It does not say in which order the pending bodies go on, so it
serves a launch that runs its workers one after the other as well as one that interleaves their
single accesses.
-/

namespace Bandwidth

namespace Elementwise

variable {α : Type} [Element α]

/-- The body of a kernel run once at every index of an array, each time on the memory before the
launch. -/
def pointwise (kernel : Elementwise α) (buffers : Triple Nat) (arraySize : Nat)
    (memory : Memory α) : Memory α :=
  ⟨memory.buffers.mapIdx fun buffer contents => contents.mapIdx fun index value =>
    if index < arraySize then
      ((kernel.body.run buffers index memory).2.column index buffer).getD value
    else value⟩

variable (kernel : Elementwise α) (buffers : Triple Nat) (arraySize : Nat) (memory : Memory α)

@[simp]
theorem size_buffers_pointwise :
    (kernel.pointwise buffers arraySize memory).buffers.size = memory.buffers.size := by
  simp [pointwise]

theorem contents_pointwise (buffer : Nat) :
    (kernel.pointwise buffers arraySize memory).contents buffer =
      (memory.contents buffer).mapIdx fun index value =>
        if index < arraySize then
          ((kernel.body.run buffers index memory).2.column index buffer).getD value
        else value := by
  simp only [Memory.contents, pointwise, Array.getD_eq_getD_getElem?, Array.getElem?_mapIdx]
  cases memory.buffers[buffer]? <;> simp

@[simp]
theorem size_contents_pointwise (buffer : Nat) :
    ((kernel.pointwise buffers arraySize memory).contents buffer).size =
      (memory.contents buffer).size := by
  simp [contents_pointwise]

theorem column_pointwise (index : Nat) :
    (kernel.pointwise buffers arraySize memory).column index =
      if index < arraySize then (kernel.body.run buffers index memory).2.column index
      else memory.column index := by
  funext buffer
  have sizes : ((kernel.body.run buffers index memory).2.contents buffer).size =
      (memory.contents buffer).size :=
    kernel.body.size_contents_run memory buffer
  rw [Memory.column, contents_pointwise]
  rcases Nat.lt_or_ge index (memory.contents buffer).size with below | past
  · have ran := Memory.column_of_lt (sizes ▸ below)
    by_cases inside : index < arraySize
    · simp [below, inside, ran]
    · simp [below, inside, Memory.column]
  · have ran : (kernel.body.run buffers index memory).2.column index buffer = none := by
      simpa [Memory.column, sizes] using past
    by_cases inside : index < arraySize
    · simp [past, inside, ran]
    · simp [past, inside, Memory.column]

end Elementwise

/-- The bodies that are still pending will bring their columns to the goal, and all other columns
have reached it. -/
structure Progress {α : Type} (buffers : Triple Nat) (goal : Memory α)
    (pending : List (Nat × Body α)) (memory : Memory α) : Prop where
  nodup : (pending.map Prod.fst).Nodup
  ends : ∀ index body, (index, body) ∈ pending → (body.run buffers index memory).1 = .ok ()
  reaches : ∀ index body, (index, body) ∈ pending →
    (body.run buffers index memory).2.column index = goal.column index
  settled : ∀ index, index ∉ pending.map Prod.fst → memory.column index = goal.column index
  size_eq : memory.buffers.size = goal.buffers.size

namespace Progress

variable {α : Type} {buffers : Triple Nat} {goal memory after : Memory α}
  {pending other : List (Nat × Body α)} {index : Nat} {body next : Body α}

theorem eq_goal (progress : Progress buffers goal [] memory) : memory = goal :=
  Memory.ext_of_column progress.size_eq fun index => progress.settled index (by simp)

theorem perm (progress : Progress buffers goal pending memory) (same : pending.Perm other) :
    Progress buffers goal other memory where
  nodup := (same.map Prod.fst).nodup progress.nodup
  ends index body bodyMem := progress.ends index body (same.mem_iff.mpr bodyMem)
  reaches index body bodyMem := progress.reaches index body (same.mem_iff.mpr bodyMem)
  settled index unlisted := progress.settled index fun listed =>
    unlisted ((same.map Prod.fst).mem_iff.mp listed)
  size_eq := progress.size_eq

theorem index_ne (progress : Progress buffers goal ((index, body) :: pending) memory)
    {otherIndex : Nat} {otherBody : Body α}
    (otherMem : (otherIndex, otherBody) ∈ pending) : otherIndex ≠ index := by
  rintro rfl
  exact (List.nodup_cons.mp progress.nodup).1 (List.mem_map.mpr ⟨_, otherMem, rfl⟩)

/-- A body that goes on leaves the invariant, if what is left of it ends as the whole would have
ended. -/
theorem step (progress : Progress buffers goal ((index, body) :: pending) memory)
    (rest : next.run buffers index after = body.run buffers index memory)
    (elsewhere : ∀ other, other ≠ index → after.column other = memory.column other)
    (size_eq : after.buffers.size = memory.buffers.size) :
    Progress buffers goal ((index, next) :: pending) after where
  nodup := progress.nodup
  ends other otherBody otherMem := by
    rcases List.mem_cons.mp otherMem with equal | otherMem
    · rcases Prod.mk.inj equal with ⟨rfl, rfl⟩
      rw [rest]
      exact progress.ends _ _ List.mem_cons_self
    · have different := progress.index_ne otherMem
      exact (otherBody.run_congr (elsewhere other different).symm
        (progress.ends _ _ (List.mem_cons_of_mem _ otherMem))).1
  reaches other otherBody otherMem := by
    rcases List.mem_cons.mp otherMem with equal | otherMem
    · rcases Prod.mk.inj equal with ⟨rfl, rfl⟩
      rw [rest]
      exact progress.reaches _ _ List.mem_cons_self
    · have different := progress.index_ne otherMem
      rw [← progress.reaches _ _ (List.mem_cons_of_mem _ otherMem)]
      exact (otherBody.run_congr (elsewhere other different).symm
        (progress.ends _ _ (List.mem_cons_of_mem _ otherMem))).2.symm
  settled other unlisted := by
    have different : other ≠ index := by
      rintro rfl
      exact unlisted (by simp)
    rw [elsewhere other different]
    exact progress.settled other unlisted
  size_eq := size_eq.trans progress.size_eq

theorem settle (progress : Progress buffers goal ((index, .done) :: pending) memory) :
    Progress buffers goal pending memory where
  nodup := (List.nodup_cons.mp progress.nodup).2
  ends other body bodyMem := progress.ends other body (List.mem_cons_of_mem _ bodyMem)
  reaches other body bodyMem := progress.reaches other body (List.mem_cons_of_mem _ bodyMem)
  settled other unlisted := by
    by_cases here : other = index
    · subst here
      exact progress.reaches other .done List.mem_cons_self
    · exact progress.settled other (by simpa [here] using unlisted)
  size_eq := progress.size_eq

/-- A pending load does not fault, and goes on with what the column holds. -/
theorem load {role : Role} {rest : α → Body α}
    (progress : Progress buffers goal ((index, .load role rest) :: pending) memory) :
    ∃ value, (Memory.load (buffers.at role) index).run memory = (.ok value, memory) ∧
      Progress buffers goal ((index, rest value) :: pending) memory := by
  have ends := progress.ends index _ List.mem_cons_self
  cases there : memory.column index (buffers.at role) with
  | none =>
      have past : (memory.contents (buffers.at role)).size ≤ index := by
        simpa [Memory.column] using there
      simp [Body.run_load_of_le past] at ends
  | some value =>
      exact ⟨value, Memory.load_of_column there,
        progress.step (Body.run_load_of_column there).symm (fun _ _ => rfl) rfl⟩

/-- A pending store does not fault, and goes on in its column. -/
theorem store {role : Role} {value : α} {rest : Body α}
    (progress : Progress buffers goal ((index, .store role value rest) :: pending) memory) :
    (Memory.store (buffers.at role) index value).run memory =
        (.ok (), memory.set (buffers.at role) index value) ∧
      Progress buffers goal ((index, rest) :: pending)
        (memory.set (buffers.at role) index value) := by
  have ends := progress.ends index _ List.mem_cons_self
  rcases Nat.lt_or_ge index (memory.contents (buffers.at role)).size with below | past
  · refine ⟨Memory.store_of_lt below value, progress.step (Body.run_store_of_lt below).symm ?_ ?_⟩
    · intro other different
      exact Memory.column_set_of_ne _ _ _ different
    · exact Memory.size_buffers_set _ _ _ _
  · simp [Body.run_store_of_le past] at ends

theorem run (progress : Progress buffers goal ((index, body) :: pending) memory) :
    ∃ after, body.run buffers index memory = (.ok (), after) ∧
      Progress buffers goal pending after := by
  have ran : body.run buffers index memory = (.ok (), (body.run buffers index memory).2) :=
    Prod.ext (progress.ends index body List.mem_cons_self) rfl
  refine ⟨(body.run buffers index memory).2, ran, settle (progress.step ?_ ?_ ?_)⟩
  · rw [ran]
    rfl
  · intro other different
    exact body.column_run_of_ne memory different
  · exact body.size_buffers_run memory

end Progress

/-- Before a launch the body of the kernel is pending at every index of the array. -/
theorem Elementwise.progress_start {α : Type} [Element α] (kernel : Elementwise α)
    {buffers : Triple Nat} {arraySize : Nat} {memory : Memory α}
    (within : ∀ role,
      kernel.body.Touches role → arraySize ≤ (memory.contents (buffers.at role)).size)
    {indices : List Nat} (nodup : indices.Nodup)
    (members : ∀ index, index ∈ indices ↔ index < arraySize) :
    Progress buffers (kernel.pointwise buffers arraySize memory)
      (indices.map (·, kernel.body)) memory where
  nodup := by simpa [Function.comp_def] using nodup
  ends index body bodyMem := by
    rcases List.mem_map.mp bodyMem with ⟨_, indexMem, equal⟩
    rcases Prod.mk.inj equal with ⟨rfl, rfl⟩
    have below := (members _).mp indexMem
    exact kernel.body.run_ok fun role touches => Nat.lt_of_lt_of_le below (within role touches)
  reaches index body bodyMem := by
    rcases List.mem_map.mp bodyMem with ⟨_, indexMem, equal⟩
    rcases Prod.mk.inj equal with ⟨rfl, rfl⟩
    rw [column_pointwise, if_pos ((members _).mp indexMem)]
  settled index unlisted := by
    have outside : ¬index < arraySize := by
      intro below
      exact unlisted (by simpa using (members index).mpr below)
    rw [column_pointwise, if_neg outside]
  size_eq := by simp

end Bandwidth
