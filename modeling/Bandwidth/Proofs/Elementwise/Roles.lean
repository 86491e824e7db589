import Bandwidth.Proofs.Elementwise.Column

/-!
# Roles of the elementwise kernels

What a kernel is to do at one index, without loads and stores: the roles that it reads, the roles that
it writes, and what it makes of the elements there. The body of the kernel reads and writes these roles
and no others, and leaves in each of them what the kernel is to make of its sources.
-/

namespace Bandwidth

namespace Elementwise

variable {α : Type}

/-- The roles that a kernel reads. -/
def sources : Elementwise α → List Role
  | fill _ => []
  | copy => [.a]
  | mul => [.c]
  | add => [.a, .b]
  | triad => [.b, .c]
  | nstream => [.a, .b, .c]

/-- The roles that a kernel writes. -/
def targets : Elementwise α → List Role
  | fill _ => [.a, .b, .c]
  | copy => [.c]
  | mul => [.b]
  | add => [.c]
  | triad => [.a]
  | nstream => [.a]

variable [Element α]

/-- What a kernel makes of the elements at one index. -/
def onElements (kernel : Elementwise α) (elements : Triple α) : Triple α :=
  match kernel with
  | fill values => values
  | copy => { elements with c := elements.a }
  | mul => { elements with b := Element.factor * elements.c }
  | add => { elements with c := elements.a + elements.b }
  | triad => { elements with a := elements.b + Element.factor * elements.c }
  | nstream => { elements with a := elements.a + (elements.b + Element.factor * elements.c) }

/-- The body of a kernel reads and writes the roles that the kernel is to read and to write. -/
structure KeepsRoles (kernel : Elementwise α) : Prop where
  reads_iff : ∀ role, kernel.body.Reads role ↔ role ∈ kernel.sources
  writes_iff : ∀ role, kernel.body.Writes role ↔ role ∈ kernel.targets
  touches_iff : ∀ role, kernel.body.Touches role ↔ role ∈ kernel.sources ∨ role ∈ kernel.targets

theorem keepsRoles (kernel : Elementwise α) : kernel.KeepsRoles := by
  have inhabited : Nonempty α := ⟨Element.zero⟩
  constructor <;> intro role <;> cases kernel <;> cases role <;>
    simp [body, sources, targets, Body.Reads, Body.Writes, Body.Touches]

variable {buffers : Triple Nat} {memory : Memory α} {index : Nat} {elements : Triple α}

theorem onElements_of_not_mem_targets {kernel : Elementwise α} {role : Role}
    (unwritten : role ∉ kernel.targets) :
    (kernel.onElements elements).at role = elements.at role := by
  cases kernel <;> cases role <;> simp [targets] at unwritten <;> rfl

/-- Filling leaves the value of a role in its buffer, if no other role has that buffer. -/
theorem column_run_fill (values : Triple α)
    (inside : ∀ role, index < (memory.contents (buffers.at role)).size) {target : Role}
    (alone : ∀ other, buffers.at other = buffers.at target → other = target) :
    ((fill values).body.run buffers index memory).2.column index (buffers.at target) =
      some (values.at target) := by
  have inB : index <
      ((memory.set (buffers.at .a) index values.a).contents (buffers.at .b)).size := by
    rw [Memory.size_contents_set]
    exact inside .b
  have inC : index < (((memory.set (buffers.at .a) index values.a).set
      (buffers.at .b) index values.b).contents (buffers.at .c)).size := by
    rw [Memory.size_contents_set, Memory.size_contents_set]
    exact inside .c
  have apart : ∀ other, other ≠ target → buffers.at target ≠ buffers.at other :=
    fun other different same => different (alone other same.symm)
  have done : ∀ memory : Memory α, Body.done.run buffers index memory = (.ok (), memory) :=
    fun _ => rfl
  rw [body, Body.run_store_of_lt (inside .a), Body.run_store_of_lt inB, Body.run_store_of_lt inC,
    done, Memory.column_set_self inC, Memory.column_set_self inB,
    Memory.column_set_self (inside .a)]
  cases target with
  | a =>
      rw [if_neg (apart .c (by decide)), if_neg (apart .b (by decide)), if_pos rfl]
      rfl
  | b =>
      rw [if_neg (apart .c (by decide)), if_pos rfl]
      rfl
  | c =>
      rw [if_pos rfl]
      rfl

/-- In a buffer that a kernel writes in one role alone, its body leaves what the kernel makes of the
sources. -/
theorem column_run_of_mem_targets (kernel : Elementwise α)
    (inside : ∀ role, kernel.body.Touches role →
      index < (memory.contents (buffers.at role)).size)
    (there : ∀ source ∈ kernel.sources,
      memory.column index (buffers.at source) = some (elements.at source))
    {target : Role} (mem : target ∈ kernel.targets)
    (alone : ∀ other ∈ kernel.targets, buffers.at other = buffers.at target → other = target) :
    (kernel.body.run buffers index memory).2.column index (buffers.at target) =
      some ((kernel.onElements elements).at target) := by
  have within : index < (memory.contents (buffers.at target)).size :=
    inside target ((kernel.keepsRoles.touches_iff target).mpr (.inr mem))
  have done : ∀ memory : Memory α, Body.done.run buffers index memory = (.ok (), memory) :=
    fun _ => rfl
  have loads : ∀ source ∈ kernel.sources, ∀ next,
      (Body.load source next).run buffers index memory =
        (next (elements.at source)).run buffers index memory :=
    fun source mem _ => Body.run_load_of_column (there source mem)
  cases kernel with
  | fill values =>
      have all : ∀ role, role ∈ (fill values).targets := by
        intro role
        cases role <;> simp [targets]
      have touches := (fill values).keepsRoles.touches_iff
      exact column_run_fill values (fun role => inside role ((touches role).mpr (.inr (all role))))
        fun other => alone other (all other)
  | _ =>
      rcases List.mem_singleton.mp mem with rfl
      simp only [sources, List.forall_mem_cons, List.not_mem_nil, false_implies, implies_true,
        and_true] at loads
      simp only [body, loads, Body.run_store_of_lt within, done]
      rw [Memory.column_set_self within, if_pos rfl]
      rfl

end Elementwise

end Bandwidth
