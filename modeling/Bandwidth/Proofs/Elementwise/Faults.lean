import Bandwidth.Element.Native
import Bandwidth.Proofs.Elementwise.Pointwise
import Bandwidth.Proofs.Stream.Lists
import Mathlib.Data.List.Perm.Subperm

/-!
# Elementwise launches that fault

A kernel can be launched on buffers that are too short for its array. Some worker then reaches past the end of one of
them and the launch faults, after an unknown part of the work. It still leaves nothing but old and new elements: each
is as it was before the launch, or as the completed kernel would have left it. For a body works in one column, which no
other body touches, and has loaded all that it needs when it first stores something.

The buffers need not be different. A worker that faults does no more, and what the others do afterwards is left open: a
schedule may let them go on or not.
-/

namespace Bandwidth

open Procedure (Ends GivesUp Settles)

namespace Body

variable {α : Type}

/-- A body that has ended has touched the role, whatever it has loaded. -/
def MustTouch (role : Role) : Body α → Prop
  | done => False
  | load source next => source = role ∨ ∀ value, (next value).MustTouch role
  | store target _ next => target = role ∨ next.MustTouch role

/-- All that a body stores is wanted, if it loads what a column holds; and it loads nothing more once
it has stored something. -/
def Delivers (column : Role → Option α) (wanted : Role → α → Prop) : Body α → Prop
  | done => True
  | load role next => ∀ value, column role = some value → (next value).Delivers column wanted
  | store role value next =>
      wanted role value ∧ (∀ source, ¬next.Reads source) ∧ next.Delivers column wanted

end Body

namespace Elementwise

variable {α : Type} [Element α] (kernel : Elementwise α) (buffers : Triple Nat) (arraySize : Nat)
  (before : Memory α)

/-- The completed kernel puts a value in a role at an index, where it finds all that it reads. -/
def Gives (index : Nat) (role : Role) (value : α) : Prop :=
  ∃ elements : Triple α,
    (∀ source, kernel.body.Reads source →
      before.column index (buffers.at source) = some (elements.at source)) ∧
    value = (kernel.onElements elements).at role

/-- An element is as it was before the launch, or as the completed kernel leaves it. -/
def OldOrNew (buffer index : Nat) (value : α) : Prop :=
  before.column index buffer = some value ∨
    index < arraySize ∧ ∃ role, kernel.body.Writes role ∧ buffers.at role = buffer ∧
      kernel.Gives buffers before index role value

/-- A fault names an index of the array that is past the end of a buffer, and the length of that
buffer. -/
inductive Overruns : Fault → Prop
  | read {role : Role} {index : Nat} (reads : kernel.body.Reads role)
      (past : (before.contents (buffers.at role)).size ≤ index) (inside : index < arraySize) :
      Overruns (.readOutOfBounds index (before.contents (buffers.at role)).size)
  | write {role : Role} {index : Nat} (writes : kernel.body.Writes role)
      (past : (before.contents (buffers.at role)).size ≤ index) (inside : index < arraySize) :
      Overruns (.writeOutOfBounds index (before.contents (buffers.at role)).size)

/-- All buffers that a kernel touches reach an index. -/
def Reached (index : Nat) : Prop :=
  ∀ role, kernel.body.Touches role → index < (before.contents (buffers.at role)).size

/-- What is left of a body at an index has to do with the kernel and the memory before the launch. -/
structure Underway (index : Nat) (body : Body α) (now : Memory α) : Prop where
  inside : index < arraySize
  reads : ∀ role, body.Reads role → kernel.body.Reads role
  writes : ∀ role, body.Writes role → kernel.body.Writes role
  delivers : body.Delivers (fun role => before.column index (buffers.at role))
    (kernel.Gives buffers before index)
  /-- Nothing has been stored as long as something is to be loaded. -/
  unchanged : ∀ role, body.Reads role → now.column index = before.column index
  touched : ∀ role, kernel.body.Touches role →
    index < (before.contents (buffers.at role)).size ∨ body.MustTouch role

/-- An unknown part of a launch has been done; of what is left, some bodies are pending and others
have been given up. -/
structure Unfinished (pending : List (Nat × Body α)) (now : Memory α) : Prop where
  nodup : (pending.map Prod.fst).Nodup
  underway : ∀ index body, (index, body) ∈ pending →
    kernel.Underway buffers arraySize before index body now
  lengths : ∀ buffer, (now.contents buffer).size = (before.contents buffer).size
  elements : ∀ buffer index value, now.column index buffer = some value →
    kernel.OldOrNew buffers arraySize before buffer index value

variable {kernel buffers arraySize before}

namespace Unfinished

variable {pending other rest : List (Nat × Body α)} {index : Nat} {body next : Body α}
  {now after : Memory α}

/-- Any of the pending bodies may be given up, and the order of the others does not matter. -/
theorem subperm (unfinished : kernel.Unfinished buffers arraySize before pending now)
    (fewer : other.Subperm pending) : kernel.Unfinished buffers arraySize before other now where
  nodup := by
    rcases fewer with ⟨same, perm, sub⟩
    exact ((perm.map Prod.fst).nodup_iff).mp (unfinished.nodup.sublist (sub.map Prod.fst))
  underway index body bodyMem := unfinished.underway index body (fewer.subset bodyMem)
  lengths := unfinished.lengths
  elements := unfinished.elements

theorem giveUp (unfinished : kernel.Unfinished buffers arraySize before (pending ++ rest) now) :
    kernel.Unfinished buffers arraySize before rest now :=
  unfinished.subperm (List.sublist_append_right pending rest).subperm

theorem done (unfinished : kernel.Unfinished buffers arraySize before ((index, .done) :: rest) now) :
    kernel.Reached buffers before index ∧ kernel.Unfinished buffers arraySize before rest now := by
  have underway := unfinished.underway index .done List.mem_cons_self
  refine ⟨?_, unfinished.subperm (List.sublist_cons_self _ rest).subperm⟩
  intro role touches
  exact (underway.touched role touches).elim id False.elim

/-- A body goes on in its column; what it has stored there is new. -/
theorem step (unfinished : kernel.Unfinished buffers arraySize before ((index, body) :: rest) now)
    (underway : kernel.Underway buffers arraySize before index next after)
    (elsewhere : ∀ other, other ≠ index → after.column other = now.column other)
    (lengths : ∀ buffer, (after.contents buffer).size = (now.contents buffer).size)
    (elements : ∀ buffer value, after.column index buffer = some value →
      kernel.OldOrNew buffers arraySize before buffer index value) :
    kernel.Unfinished buffers arraySize before ((index, next) :: rest) after where
  nodup := unfinished.nodup
  underway := by
    intro otherIndex otherBody otherMem
    rcases List.mem_cons.mp otherMem with equal | restMem
    · rcases Prod.mk.inj equal with ⟨rfl, rfl⟩
      exact underway
    · have different : otherIndex ≠ index := by
        rintro rfl
        exact (List.nodup_cons.mp unfinished.nodup).1 (List.mem_map.mpr ⟨_, restMem, rfl⟩)
      have own := unfinished.underway otherIndex otherBody (List.mem_cons_of_mem _ restMem)
      refine { own with unchanged := fun role reads => ?_ }
      rw [elsewhere otherIndex different, own.unchanged role reads]
  lengths buffer := (lengths buffer).trans (unfinished.lengths buffer)
  elements := by
    intro buffer otherIndex value there
    by_cases here : otherIndex = index
    · subst here
      exact elements buffer value there
    · rw [elsewhere otherIndex here] at there
      exact unfinished.elements buffer otherIndex value there

theorem load {role : Role} {next : α → Body α}
    (unfinished : kernel.Unfinished buffers arraySize before ((index, .load role next) :: rest) now) :
    (∃ value, (Memory.load (buffers.at role) index).run now = (.ok value, now) ∧
      kernel.Unfinished buffers arraySize before ((index, next value) :: rest) now) ∨
    ∃ fault, (Memory.load (buffers.at role) index).run now = (.error fault, now) ∧
      kernel.Overruns buffers arraySize before fault := by
  have underway := unfinished.underway index _ List.mem_cons_self
  have lengths := unfinished.lengths (buffers.at role)
  rcases Nat.lt_or_ge index (now.contents (buffers.at role)).size with below | past
  · left
    have there := Memory.column_of_lt below
    refine ⟨_, Memory.load_of_column there, unfinished.step ?_ (fun _ _ => rfl) (fun _ => rfl) ?_⟩
    · have old := underway.unchanged role (Or.inl rfl)
      refine ⟨underway.inside, fun role reads => underway.reads role (Or.inr ⟨_, reads⟩),
        fun role writes => underway.writes role ⟨_, writes⟩,
        underway.delivers _ (old ▸ there),
        fun role reads => underway.unchanged role (Or.inr ⟨_, reads⟩), ?_⟩
      intro other touches
      rcases underway.touched other touches with reached | rfl | later
      · exact Or.inl reached
      · exact Or.inl (lengths ▸ below)
      · exact Or.inr (later _)
    · intro buffer value
      exact unfinished.elements buffer index value
  · right
    refine ⟨_, Memory.load_of_le past, ?_⟩
    rw [lengths] at past ⊢
    exact .read (underway.reads role (Or.inl rfl)) past underway.inside

theorem store {role : Role} {value : α}
    (unfinished : kernel.Unfinished buffers arraySize before ((index, .store role value next) :: rest) now) :
    ((Memory.store (buffers.at role) index value).run now =
        (.ok (), now.set (buffers.at role) index value) ∧
      kernel.Unfinished buffers arraySize before ((index, next) :: rest)
        (now.set (buffers.at role) index value)) ∨
    ∃ fault, (Memory.store (buffers.at role) index value).run now = (.error fault, now) ∧
      kernel.Overruns buffers arraySize before fault := by
  have underway := unfinished.underway index _ List.mem_cons_self
  have lengths := unfinished.lengths (buffers.at role)
  have writes := underway.writes role (Or.inl rfl)
  rcases underway.delivers with ⟨wanted, silent, later⟩
  rcases Nat.lt_or_ge index (now.contents (buffers.at role)).size with below | past
  · left
    refine ⟨Memory.store_of_lt below value, unfinished.step ?_
      (fun _ different => Memory.column_set_of_ne _ _ _ different)
      (fun buffer => Memory.size_contents_set _ _ _ _ buffer) ?_⟩
    · refine ⟨underway.inside, underway.reads, fun role writes => underway.writes role
        (Or.inr writes), later, fun source reads => absurd reads (silent source), ?_⟩
      intro other touches
      rcases underway.touched other touches with reached | rfl | later
      · exact Or.inl reached
      · exact Or.inl (lengths ▸ below)
      · exact Or.inr later
    · intro buffer stored there
      rw [Memory.column_set_self below] at there
      split at there
      · rename_i same
        rcases Option.some.inj there with rfl
        exact Or.inr ⟨underway.inside, role, writes, same.symm, wanted⟩
      · exact unfinished.elements buffer index stored there
  · right
    refine ⟨_, Memory.store_of_le past value, ?_⟩
    rw [lengths] at past ⊢
    exact .write writes past underway.inside

/-- A body that is run until it ends or faults. -/
theorem run
    (unfinished : kernel.Unfinished buffers arraySize before ((index, body) :: rest) now) :
    kernel.Unfinished buffers arraySize before rest (body.run buffers index now).2 ∧
      Ends (kernel.Reached buffers before) (kernel.Overruns buffers arraySize before) [index]
        (body.run buffers index now).1 := by
  induction body generalizing now with
  | done =>
      rcases unfinished.done with ⟨reached, later⟩
      exact ⟨later, by simpa [Ends, Body.run] using reached⟩
  | load role next ih =>
      rcases unfinished.load with ⟨value, loaded, later⟩ | ⟨fault, failed, overruns⟩
      · simp only [Procedure.run] at loaded
        simp only [Body.run, loaded]
        exact ih value later
      · simp only [Procedure.run] at failed
        simp only [Body.run, failed]
        exact ⟨unfinished.subperm (List.sublist_cons_self _ rest).subperm, overruns⟩
  | store role value next ih =>
      rcases unfinished.store with ⟨stored, later⟩ | ⟨fault, failed, overruns⟩
      · simp only [Procedure.run] at stored
        simp only [Body.run, stored]
        exact ih later
      · simp only [Procedure.run] at failed
        simp only [Body.run, failed]
        exact ⟨unfinished.subperm (List.sublist_cons_self _ rest).subperm, overruns⟩

end Unfinished

variable {geometry : Geometry}

end Elementwise

end Bandwidth
