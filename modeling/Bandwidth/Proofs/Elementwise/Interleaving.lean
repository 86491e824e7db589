import Bandwidth.Proofs.Elementwise.Progress
import Bandwidth.Proofs.Launch.Stride

/-!
# Interleaved elementwise launches

On a device the workers of a launch run at the same time. Here their single loads and stores are put
into one order, in any way that keeps the order of each worker: a schedule names, step by step, the
worker that goes on. A worker that has nothing left to do lets its turn pass.

Whatever the schedule, the invariant `Progress` holds after each step, so no step faults, and a
launch in which every worker has finished has reached its goal. Every schedule can be continued to
such an end.
-/

namespace Bandwidth

/-- What a worker has yet to do: the indices before it, each with what is left of the body there. -/
abbrev Thread (α : Type) := List (Nat × Body α)

namespace Thread

variable {α : Type}

def step (buffers : Triple Nat) : Thread α → Procedure Fault (Memory α) (Thread α)
  | [] => pure []
  | (_, .done) :: rest => pure rest
  | (index, .load role next) :: rest => do
      let value ← Memory.load (buffers.at role) index
      return (index, next value) :: rest
  | (index, .store role value next) :: rest => do
      Memory.store (buffers.at role) index value
      return (index, next) :: rest

/-- Lets the workers take turns as a schedule says. -/
def interleave (buffers : Triple Nat) :
    List Nat → List (Thread α) → Procedure Fault (Memory α) (List (Thread α))
  | [], crew => pure crew
  | turn :: turns, crew =>
      match crew[turn]? with
      | some thread => do
          let thread ← thread.step buffers
          interleave buffers turns (crew.set turn thread)
      | none => interleave buffers turns crew

end Thread

def Elementwise.thread {α : Type} [Element α] (kernel : Elementwise α) (arraySize : Nat)
    (worker : Worker) : Checked (Thread α) := do
  let first ← worker.globalId
  let stride ← worker.totalWorkers
  let walk ← GridWalk.start first stride arraySize
  return walk.indices.map (·, kernel.body)

/-- Runs a kernel on all workers of a grid as a schedule says; the answer is what they have yet to
do. -/
def Elementwise.interleaved {α : Type} [Element α] (kernel : Elementwise α) (geometry : Geometry)
    (buffers : Triple Nat) (arraySize : Nat) (schedule : List Nat) :
    Procedure Fault (Memory α) (List (Thread α)) := do
  let crew ← Procedure.ofExcept (geometry.workers.mapM (kernel.thread arraySize))
  Thread.interleave buffers schedule crew

namespace Thread

variable {α : Type} {buffers : Triple Nat} {goal memory : Memory α} {crew : List (Thread α)}

/-- What the whole crew has yet to do is what one worker does next, and the rest. -/
theorem flatten_perm_of_getElem? {turn : Nat} {item : Nat × Body α} {rest : Thread α}
    (turnOf : crew[turn]? = some (item :: rest)) :
    crew.flatten.Perm (item :: (crew.set turn rest).flatten) := by
  induction crew generalizing turn with
  | nil => simp at turnOf
  | cons thread crew ih =>
      cases turn with
      | zero =>
          simp only [List.getElem?_cons_zero, Option.some.injEq] at turnOf
          subst turnOf
          exact List.Perm.refl _
      | succ turn =>
          simp only [List.getElem?_cons_succ] at turnOf
          simp only [List.flatten_cons, List.set_cons_succ]
          exact ((ih turnOf).append_left thread).trans List.perm_middle

theorem flatten_set_perm {turn : Nat} (inside : turn < crew.length) (item : Nat × Body α)
    (rest : Thread α) :
    (item :: (crew.set turn rest).flatten).Perm (crew.set turn (item :: rest)).flatten := by
  have turnOf : (crew.set turn (item :: rest))[turn]? = some (item :: rest) :=
    List.getElem?_set_self inside
  have same := flatten_perm_of_getElem? turnOf
  rw [List.set_set] at same
  exact same.symm

/-- The next step of a worker does not fault and keeps the invariant. -/
theorem step_progress {turn : Nat} {thread : Thread α} (turnOf : crew[turn]? = some thread)
    (progress : Progress buffers goal crew.flatten memory) :
    ∃ next after, (thread.step buffers).run memory = (.ok next, after) ∧
      Progress buffers goal (crew.set turn next).flatten after := by
  rcases List.getElem?_eq_some_iff.mp turnOf with ⟨inside, threadEq⟩
  cases thread with
  | nil =>
      refine ⟨[], memory, rfl, ?_⟩
      rwa [← threadEq, List.set_getElem_self]
  | cons item rest =>
      rcases item with ⟨index, body⟩
      have first := progress.perm (flatten_perm_of_getElem? turnOf)
      cases body with
      | done => exact ⟨rest, memory, rfl, first.settle⟩
      | load role next =>
          rcases first.load with ⟨value, loaded, later⟩
          refine ⟨(index, next value) :: rest, memory, ?_, later.perm (flatten_set_perm inside _ _)⟩
          exact Procedure.bind_run_of_ok loaded _
      | store role value next =>
          rcases first.store with ⟨stored, later⟩
          refine ⟨(index, next) :: rest, memory.set (buffers.at role) index value, ?_,
            later.perm (flatten_set_perm inside _ _)⟩
          exact Procedure.bind_run_of_ok stored _

theorem interleave_cons_run {turn : Nat} {thread next : Thread α} {after : Memory α}
    (turns : List Nat) (turnOf : crew[turn]? = some thread)
    (stepped : (thread.step buffers).run memory = (.ok next, after)) :
    (interleave buffers (turn :: turns) crew).run memory =
      (interleave buffers turns (crew.set turn next)).run after := by
  simp only [interleave, turnOf]
  exact Procedure.bind_run_of_ok stepped _

theorem interleave_cons_of_fault {turn : Nat} {thread : Thread α} {after : Memory α} {fault : Fault}
    (turns : List Nat) (turnOf : crew[turn]? = some thread)
    (stepped : (thread.step buffers).run memory = (.error fault, after)) :
    (interleave buffers (turn :: turns) crew).run memory = (.error fault, after) := by
  simp only [interleave, turnOf]
  exact Procedure.bind_run_of_error stepped _

/-- No schedule faults, and the invariant holds after it. -/
theorem interleave_progress (schedule : List Nat)
    (progress : Progress buffers goal crew.flatten memory) :
    ∃ rest between, (interleave buffers schedule crew).run memory = (.ok rest, between) ∧
      Progress buffers goal rest.flatten between := by
  induction schedule generalizing crew memory with
  | nil => exact ⟨crew, memory, rfl, progress⟩
  | cons turn turns ih =>
      cases turnOf : crew[turn]? with
      | none =>
          simp only [interleave, turnOf]
          exact ih progress
      | some thread =>
          rcases step_progress turnOf progress with ⟨next, after, stepped, later⟩
          rw [interleave_cons_run turns turnOf stepped]
          exact ih later

theorem interleave_append_run (schedule more : List Nat) {rest : List (Thread α)}
    {between : Memory α}
    (ran : (interleave buffers schedule crew).run memory = (.ok rest, between)) :
    (interleave buffers (schedule ++ more) crew).run memory =
      (interleave buffers more rest).run between := by
  induction schedule generalizing crew memory with
  | nil =>
      simp only [interleave, Procedure.pure_run, Prod.mk.injEq, Except.ok.injEq] at ran
      rw [List.nil_append, ran.1, ran.2]
  | cons turn turns ih =>
      rw [List.cons_append]
      simp only [interleave] at ran ⊢
      cases turnOf : crew[turn]? with
      | none =>
          simp only [turnOf] at ran
          exact ih ran
      | some thread =>
          simp only [turnOf] at ran
          rcases stepped : (thread.step buffers).run memory with ⟨_ | next, after⟩
          · rw [Procedure.bind_run_of_error stepped] at ran
            simp at ran
          · rw [Procedure.bind_run_of_ok stepped] at ran ⊢
            exact ih ran

/-- What turns lead to: a fault, or a crew as wanted. -/
def LeadsTo (buffers : Triple Nat) (turns : List Nat) (crew : List (Thread α)) (memory : Memory α)
    (wanted : List (Thread α) → Prop) : Prop :=
  (∃ fault after, (interleave buffers turns crew).run memory = (.error fault, after)) ∨
    ∃ rest after, (interleave buffers turns crew).run memory = (.ok rest, after) ∧ wanted rest

/-- A worker that gets enough turns in a row brings its index to an end, or faults. -/
theorem exists_turns_done {turn index : Nat} {body : Body α} {rest : Thread α}
    (turnOf : crew[turn]? = some ((index, body) :: rest)) (memory : Memory α) :
    ∃ turns, LeadsTo buffers turns crew memory (· = crew.set turn rest) := by
  have inside : turn < crew.length := (List.getElem?_eq_some_iff.mp turnOf).1
  induction body generalizing crew memory with
  | done => exact ⟨[turn], Or.inr ⟨_, memory, interleave_cons_run [] turnOf rfl, rfl⟩⟩
  | load role next ih =>
      rcases loaded : (Memory.load (buffers.at role) index).run memory with ⟨fault | value, after⟩
      · have stepped : (step buffers ((index, .load role next) :: rest)).run memory =
            (.error fault, after) := Procedure.bind_run_of_error loaded _
        exact ⟨[turn], Or.inl ⟨_, _, interleave_cons_of_fault [] turnOf stepped⟩⟩
      · have stepped : (step buffers ((index, .load role next) :: rest)).run memory =
            (.ok ((index, next value) :: rest), after) := Procedure.bind_run_of_ok loaded _
        rcases ih value (List.getElem?_set_self inside) after (by simpa using inside) with
          ⟨turns, leads⟩
        rw [List.set_set] at leads
        refine ⟨turn :: turns, ?_⟩
        rwa [LeadsTo, interleave_cons_run turns turnOf stepped]
  | store role value next ih =>
      rcases stored : (Memory.store (buffers.at role) index value).run memory with
        ⟨fault | ⟨⟩, after⟩
      · have stepped : (step buffers ((index, .store role value next) :: rest)).run memory =
            (.error fault, after) := Procedure.bind_run_of_error stored _
        exact ⟨[turn], Or.inl ⟨_, _, interleave_cons_of_fault [] turnOf stepped⟩⟩
      · have stepped : (step buffers ((index, .store role value next) :: rest)).run memory =
            (.ok ((index, next) :: rest), after) := Procedure.bind_run_of_ok stored _
        rcases ih (List.getElem?_set_self inside) after (by simpa using inside) with
          ⟨turns, leads⟩
        rw [List.set_set] at leads
        refine ⟨turn :: turns, ?_⟩
        rwa [LeadsTo, interleave_cons_run turns turnOf stepped]

/-- The crew can bring all its work to an end, unless one of it faults. -/
theorem exists_turns_idle (buffers : Triple Nat) (crew : List (Thread α)) (memory : Memory α) :
    ∃ turns, LeadsTo buffers turns crew memory fun rest => rest.flatten = [] := by
  induction left : crew.flatten.length generalizing crew memory with
  | zero => exact ⟨[], Or.inr ⟨crew, memory, rfl, List.length_eq_zero_iff.mp left⟩⟩
  | succ count ih =>
      have busy : ∃ thread ∈ crew, thread ≠ [] := by
        by_contra idle
        push Not at idle
        rw [List.flatten_eq_nil_iff.mpr idle] at left
        simp at left
      rcases busy with ⟨thread, threadMem, unfinished⟩
      rcases List.exists_cons_of_ne_nil unfinished with ⟨⟨index, body⟩, rest, rfl⟩
      rcases List.mem_iff_getElem?.mp threadMem with ⟨turn, turnOf⟩
      rcases exists_turns_done turnOf memory with ⟨turns, failed | ⟨_, between, ran, rfl⟩⟩
      · exact ⟨turns, Or.inl failed⟩
      · have fewer : (crew.set turn rest).flatten.length = count := by
          have := (flatten_perm_of_getElem? turnOf).length_eq
          rw [List.length_cons] at this
          omega
        rcases ih _ between fewer with ⟨more, leads⟩
        refine ⟨turns ++ more, ?_⟩
        rwa [LeadsTo, interleave_append_run turns more ran]

/-- Every schedule can be continued to such an end. -/
theorem exists_more_idle (buffers : Triple Nat) (schedule : List Nat) (crew : List (Thread α))
    (memory : Memory α) :
    ∃ more, LeadsTo buffers (schedule ++ more) crew memory fun rest => rest.flatten = [] := by
  rcases ran : (interleave buffers schedule crew).run memory with ⟨fault | rest, between⟩
  · refine ⟨[], Or.inl ⟨fault, between, ?_⟩⟩
    rwa [List.append_nil]
  · rcases exists_turns_idle buffers rest between with ⟨more, leads⟩
    refine ⟨more, ?_⟩
    rwa [LeadsTo, interleave_append_run schedule more ran]

end Thread

end Bandwidth
