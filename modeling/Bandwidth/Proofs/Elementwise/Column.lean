import Bandwidth.Kernel.Elementwise

/-!
# Columns

A column of a memory holds what its buffers hold at one index. All accesses of a body are at one
index, so a body works on one column: the others stay as they are, and neither its end nor what it
leaves in its own column depends on them. This is what makes the bodies of different indices
independent of each other, in whatever order their accesses are made and whichever buffers play the
same role.
-/

namespace Bandwidth

namespace Memory

variable {α : Type}

/-- What the buffers hold at one index. -/
def column (memory : Memory α) (index buffer : Nat) : Option α :=
  (memory.contents buffer)[index]?

theorem isSome_column_iff {memory : Memory α} {index buffer : Nat} :
    (memory.column index buffer).isSome ↔ index < (memory.contents buffer).size := by
  simp [column]

theorem column_of_lt {memory : Memory α} {index buffer : Nat}
    (below : index < (memory.contents buffer).size) :
    memory.column index buffer = some (memory.contents buffer)[index] := by
  simp [column, below]

theorem column_set_of_ne (memory : Memory α) (buffer : Nat) {index other : Nat} (value : α)
    (different : other ≠ index) :
    (memory.set buffer index value).column other = memory.column other := by
  funext place
  simp only [column, contents_set]
  split
  · exact Array.getElem?_setIfInBounds_ne (Ne.symm different)
  · rfl

theorem column_set_self {memory : Memory α} {buffer index : Nat}
    (below : index < (memory.contents buffer).size) (value : α) (place : Nat) :
    (memory.set buffer index value).column index place =
      if place = buffer then some value else memory.column index place := by
  simp only [column, contents_set]
  split
  · rename_i same
    subst same
    exact Array.getElem?_setIfInBounds_self_of_lt below
  · rfl

/-- A write changes a column to what depends on the column alone. -/
theorem column_set_congr {memory other : Memory α} {index : Nat}
    (agree : memory.column index = other.column index) (buffer : Nat) (value : α) :
    (memory.set buffer index value).column index = (other.set buffer index value).column index := by
  funext place
  have same := congrFun agree place
  simp only [column, contents_set] at same ⊢
  split
  · simp only [Array.getElem?_setIfInBounds_self]
    have sizes : index < (memory.contents place).size ↔ index < (other.contents place).size := by
      rw [← isSome_column_iff, ← isSome_column_iff, agree]
    simp [sizes]
  · exact same

theorem size_buffers_set (memory : Memory α) (buffer index : Nat) (value : α) :
    (memory.set buffer index value).buffers.size = memory.buffers.size := by
  simp [set]

theorem ext_of_column {memory other : Memory α} (sizes : memory.buffers.size = other.buffers.size)
    (columns : ∀ index, memory.column index = other.column index) : memory = other := by
  have same : memory.buffers = other.buffers := by
    apply Array.ext sizes
    intro place inFirst inSecond
    apply Array.ext_getElem?
    intro index
    have equal := congrFun (columns index) place
    simpa [column, contents, Array.getD_eq_getD_getElem?, inFirst, inSecond] using equal
  rcases memory with ⟨buffers⟩
  rcases other with ⟨otherBuffers⟩
  simp only at same
  rw [same]

theorem load_of_column {memory : Memory α} {buffer index : Nat} {value : α}
    (there : memory.column index buffer = some value) :
    load buffer index memory = (.ok value, memory) := by
  simp only [column] at there
  simp [load, there]

theorem load_of_le {memory : Memory α} {buffer index : Nat}
    (past : (memory.contents buffer).size ≤ index) :
    load buffer index memory =
      (.error (.readOutOfBounds index (memory.contents buffer).size), memory) := by
  simp [load, past]

theorem store_of_lt {memory : Memory α} {buffer index : Nat}
    (below : index < (memory.contents buffer).size) (value : α) :
    store buffer index value memory = (.ok (), memory.set buffer index value) := by
  simp [store, below]

theorem store_of_le {memory : Memory α} {buffer index : Nat}
    (past : (memory.contents buffer).size ≤ index) (value : α) :
    store buffer index value memory =
      (.error (.writeOutOfBounds index (memory.contents buffer).size), memory) := by
  simp [store, Nat.not_lt.mpr past]

end Memory

namespace Body

variable {α : Type}

def Reads (role : Role) : Body α → Prop
  | done => False
  | load source next => source = role ∨ ∃ value, (next value).Reads role
  | store _ _ next => next.Reads role

def Touches (role : Role) : Body α → Prop
  | done => False
  | load source next => source = role ∨ ∃ value, (next value).Touches role
  | store target _ next => target = role ∨ next.Touches role

def Writes (role : Role) : Body α → Prop
  | done => False
  | load _ next => ∃ value, (next value).Writes role
  | store target _ next => target = role ∨ next.Writes role

variable {buffers : Triple Nat} {index : Nat}

theorem run_load_of_column {role : Role} {next : α → Body α} {memory : Memory α} {value : α}
    (there : memory.column index (buffers.at role) = some value) :
    (load role next).run buffers index memory = (next value).run buffers index memory := by
  simp only [run, Memory.load_of_column there]

theorem run_load_of_le {role : Role} {next : α → Body α} {memory : Memory α}
    (past : (memory.contents (buffers.at role)).size ≤ index) :
    (load role next).run buffers index memory =
      (.error (.readOutOfBounds index (memory.contents (buffers.at role)).size), memory) := by
  simp only [run, Memory.load_of_le past]

theorem run_store_of_lt {role : Role} {value : α} {next : Body α} {memory : Memory α}
    (below : index < (memory.contents (buffers.at role)).size) :
    (store role value next).run buffers index memory =
      next.run buffers index (memory.set (buffers.at role) index value) := by
  simp only [run, Memory.store_of_lt below]

theorem run_store_of_le {role : Role} {value : α} {next : Body α} {memory : Memory α}
    (past : (memory.contents (buffers.at role)).size ≤ index) :
    (store role value next).run buffers index memory =
      (.error (.writeOutOfBounds index (memory.contents (buffers.at role)).size), memory) := by
  simp only [run, Memory.store_of_le past]

/-- What holds of a memory and is kept by the writes of a body, holds when the body has ended. -/
theorem run_preserves (invariant : Memory α → Prop) (body : Body α)
    (keep : ∀ memory role value, body.Writes role → invariant memory →
      invariant (memory.set (buffers.at role) index value))
    {memory : Memory α} (start : invariant memory) :
    invariant (body.run buffers index memory).2 := by
  induction body generalizing memory with
  | done => exact start
  | load role next ih =>
      rcases Nat.lt_or_ge index (memory.contents (buffers.at role)).size with below | past
      · rw [run_load_of_column (Memory.column_of_lt below)]
        exact ih _ (fun memory role value writes => keep memory role value ⟨_, writes⟩) start
      · rw [run_load_of_le past]
        exact start
  | store role value next ih =>
      rcases Nat.lt_or_ge index (memory.contents (buffers.at role)).size with below | past
      · rw [run_store_of_lt below]
        exact ih (fun memory role value writes => keep memory role value (Or.inr writes))
          (keep memory role value (Or.inl rfl) start)
      · rw [run_store_of_le past]
        exact start

/-- A body leaves the other columns as they are. -/
theorem column_run_of_ne (body : Body α) (memory : Memory α) {other : Nat}
    (different : other ≠ index) :
    (body.run buffers index memory).2.column other = memory.column other := by
  refine run_preserves (fun after => after.column other = memory.column other) body ?_ rfl
  intro after role value _ same
  rw [Memory.column_set_of_ne _ _ _ different, same]

/-- A body leaves the buffers as they are in which it writes nothing. -/
theorem contents_run_of_not_writes (body : Body α) (memory : Memory α) {buffer : Nat}
    (unwritten : ∀ role, body.Writes role → buffers.at role ≠ buffer) :
    (body.run buffers index memory).2.contents buffer = memory.contents buffer := by
  refine run_preserves (fun after => after.contents buffer = memory.contents buffer) body ?_ rfl
  intro after role value writes same
  rw [Memory.contents_set, if_neg (Ne.symm (unwritten role writes)), same]

theorem size_contents_run (body : Body α) (memory : Memory α) (buffer : Nat) :
    ((body.run buffers index memory).2.contents buffer).size = (memory.contents buffer).size := by
  refine run_preserves
    (fun after => (after.contents buffer).size = (memory.contents buffer).size) body ?_ rfl
  intro after role value _ same
  rw [Memory.size_contents_set, same]

theorem size_buffers_run (body : Body α) (memory : Memory α) :
    (body.run buffers index memory).2.buffers.size = memory.buffers.size := by
  refine run_preserves (fun after => after.buffers.size = memory.buffers.size) body ?_ rfl
  intro after role value _ same
  rw [Memory.size_buffers_set, same]

/-- The end of a body and its column afterwards depend on the column alone. -/
theorem run_congr (body : Body α) {memory other : Memory α}
    (agree : memory.column index = other.column index)
    (succeeds : (body.run buffers index memory).1 = .ok ()) :
    (body.run buffers index other).1 = .ok () ∧
      (body.run buffers index memory).2.column index =
        (body.run buffers index other).2.column index := by
  induction body generalizing memory other with
  | done => exact ⟨rfl, agree⟩
  | load role next ih =>
      cases there : memory.column index (buffers.at role) with
      | none =>
          have past : (memory.contents (buffers.at role)).size ≤ index := by
            simpa [Memory.column] using there
          simp [run_load_of_le past] at succeeds
      | some value =>
          have otherThere : other.column index (buffers.at role) = some value := agree ▸ there
          rw [run_load_of_column there] at succeeds ⊢
          rw [run_load_of_column otherThere]
          exact ih value agree succeeds
  | store role value next ih =>
      rcases Nat.lt_or_ge index (memory.contents (buffers.at role)).size with below | past
      · have otherBelow : index < (other.contents (buffers.at role)).size := by
          rwa [← Memory.isSome_column_iff, ← agree, Memory.isSome_column_iff]
        rw [run_store_of_lt below] at succeeds ⊢
        rw [run_store_of_lt otherBelow]
        exact ih (Memory.column_set_congr agree _ _) succeeds
      · simp [run_store_of_le past] at succeeds

/-- A body succeeds within the buffers that it touches. -/
theorem run_ok (body : Body α) {memory : Memory α}
    (within : ∀ role, body.Touches role → index < (memory.contents (buffers.at role)).size) :
    (body.run buffers index memory).1 = .ok () := by
  induction body generalizing memory with
  | done => rfl
  | load role next ih =>
      have below := within role (Or.inl rfl)
      rw [run_load_of_column (Memory.column_of_lt below)]
      exact ih _ fun other touches => within other (Or.inr ⟨_, touches⟩)
  | store role value next ih =>
      rw [run_store_of_lt (within role (Or.inl rfl))]
      apply ih
      intro other touches
      rw [Memory.size_contents_set]
      exact within other (Or.inr touches)

end Body

end Bandwidth
