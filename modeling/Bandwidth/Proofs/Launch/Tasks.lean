import Bandwidth.Proofs.Launch.Dispatch

/-!
# Tasks of a launch

The workers of a launch have tasks, and an invariant says what is true of the memory while some of them are pending. A
fault ends the share of the grid in which it occurs: what this share had yet to do is given up, and the other shares go
on. So after a procedure that has some tasks the invariant holds without them, whether they were done or given up. If
the procedure has ended well, all of its tasks are done; otherwise it has met with a fault that was to be expected.
Where none is to be expected, nothing is given up either.
-/

namespace Bandwidth

namespace Procedure

variable {ε σ β γ ι κ : Type}

/-- An outcome of some tasks: all of them are `done`, or the reason to stop is `expected`. -/
def Ends (done : κ → Prop) (expected : ε → Prop) (tasks : List κ) : Except ε β → Prop
  | .ok _ => ∀ task ∈ tasks, done task
  | .error reason => expected reason

/-- A procedure deals with its tasks, whatever else is pending. -/
def Settles (holds : List κ → σ → Prop) (done : κ → Prop) (expected : ε → Prop) (tasks : List κ)
    (procedure : Procedure ε σ β) : Prop :=
  ∀ rest state, holds (tasks ++ rest) state →
    holds rest (procedure.run state).2 ∧ Ends done expected tasks (procedure.run state).1

/-- If there is a reason to stop, an invariant also holds when tasks are given up. -/
def GivesUp (holds : List κ → σ → Prop) (expected : ε → Prop) : Prop :=
  ∀ reason, expected reason → ∀ tasks rest state, holds (tasks ++ rest) state → holds rest state

variable {holds : List κ → σ → Prop} {done : κ → Prop} {expected : ε → Prop} {tasks more : List κ}

theorem Settles.pure (value : β) :
    Settles holds done expected [] (Pure.pure value : Procedure ε σ β) :=
  fun _ _ pending => ⟨pending, fun _ taskMem => absurd taskMem List.not_mem_nil⟩

theorem Ends.append {outcome : Except ε β} (ended : ∀ task ∈ tasks, done task)
    (endedToo : Ends done expected more outcome) : Ends done expected (tasks ++ more) outcome := by
  cases outcome with
  | error reason => exact endedToo
  | ok answer =>
      intro task taskMem
      exact (List.mem_append.mp taskMem).elim (ended task) (endedToo task)

/-- If the first procedure stops, the tasks of the second are given up. -/
theorem Settles.bind (giveUp : GivesUp holds expected) {procedure : Procedure ε σ β}
    {next : β → Procedure ε σ γ}
    (first : Settles holds done expected tasks procedure)
    (second : ∀ value, Settles holds done expected more (next value)) :
    Settles holds done expected (tasks ++ more) (procedure >>= next) := by
  intro rest state pending
  rw [List.append_assoc] at pending
  rcases first _ state pending with ⟨between, ended⟩
  rcases ran : procedure.run state with ⟨reason | value, after⟩
  · rw [ran] at between ended
    rw [bind_run_of_error ran]
    exact ⟨giveUp reason ended more rest after between, ended⟩
  · rw [ran] at between ended
    rw [bind_run_of_ok ran]
    rcases second value rest after between with ⟨final, endedToo⟩
    exact ⟨final, Ends.append ended endedToo⟩

theorem forEach_cons_eq_bind (visit : ι → Procedure ε σ Unit) (item : ι) (items : List ι) :
    Procedure.forEach visit (item :: items) =
      (do visit item; Procedure.forEach visit items) := by
  funext state
  change (Procedure.forEach visit (item :: items)).run state =
    (visit item >>= fun _ => Procedure.forEach visit items).run state
  rw [forEach_cons, bind_run]
  rcases (visit item).run state with ⟨reason | ⟨⟩, after⟩ <;> rfl

theorem Settles.forEach (giveUp : GivesUp holds expected) {visit : ι → Procedure ε σ Unit}
    {tasksOf : ι → List κ} {items : List ι}
    (visits : ∀ item ∈ items, Settles holds done expected (tasksOf item) (visit item)) :
    Settles holds done expected (items.flatMap tasksOf) (Procedure.forEach visit items) := by
  induction items with
  | nil => exact Settles.pure ()
  | cons item items ih =>
      rw [List.flatMap_cons, forEach_cons_eq_bind]
      exact (visits item List.mem_cons_self).bind giveUp fun _ =>
        ih fun other otherMem => visits other (List.mem_cons_of_mem _ otherMem)

theorem Settles.mapRange (giveUp : GivesUp holds expected) {visit : Nat → Procedure ε σ β}
    {tasksOf : Nat → List κ} {first count : Nat}
    (visits : ∀ number < first + count,
      Settles holds done expected (tasksOf number) (visit number)) :
    Settles holds done expected ((List.range' first count).flatMap tasksOf)
      (Procedure.mapRange visit first count) := by
  have go : ∀ values : Array β,
      Settles holds done expected ((List.range' first count).flatMap tasksOf)
        (mapRange.go visit values first count) := by
    induction count generalizing first with
    | zero => exact fun values => Settles.pure values
    | succ count ih =>
        intro values
        rw [List.range'_succ, List.flatMap_cons]
        exact (visits first (by omega)).bind giveUp fun value =>
          ih (fun other below => visits other (by omega)) (values.push value)
  exact go #[]

end Procedure

open Procedure (Ends GivesUp Settles)

section Grid

variable {ε σ τ β κ : Type} {done : κ → Prop}

/-- The share after one that has stopped goes on, but its own end does not matter any more. -/
theorem Share.runPart_settles {holds : List κ → σ → Prop} {expected : ε → Prop} (units : Nat)
    {work : Nat → Nat → Procedure ε σ (Array β)} {tasksOf : Nat → List κ} {total : Nat}
    (works : ∀ first count, first + count ≤ total →
      Settles holds done expected ((List.range' first count).flatMap tasksOf) (work first count))
    (takenOver : Bool) (share : Share) (within : share.first + share.count ≤ total) :
    Settles holds done expected (share.groups.flatMap tasksOf)
      (share.runPart units work takenOver) := by
  induction size : share.count using Nat.strongRecOn generalizing share takenOver with
  | ind size ih =>
      subst size
      intro rest state pending
      simp only [Procedure.run, Settles] at *
      rw [runPart]
      split
      · exact works share.first share.count within rest state pending
      · rename_i left right halved
        rcases count_lt_of_halves? halved with ⟨leftFewer, rightFewer⟩
        have groups := groups_append_of_halves? halved
        rcases first_count_of_halves? halved with ⟨leftFirst, rightFirst, rightEnd⟩
        rw [← groups] at pending ⊢
        rw [List.flatMap_append, List.append_assoc] at pending
        have leftWithin : left.first + left.count ≤ total := by omega
        have rightWithin : right.first + right.count ≤ total := by omega
        rcases ih left.count leftFewer false left leftWithin rfl _ state pending with
          ⟨between, ended⟩
        rcases leftRan : left.runPart units work false state with ⟨reason | values, after⟩
        · rw [leftRan] at between ended
          exact ⟨(ih right.count rightFewer true right rightWithin rfl rest after between).1,
            ended⟩
        · rw [leftRan] at between ended
          rcases ih right.count rightFewer false right rightWithin rfl rest after between with
            ⟨final, endedToo⟩
          rw [List.flatMap_append]
          rcases rightRan : right.runPart units work false after with ⟨reason | more, last⟩
          · simp only [rightRan] at final endedToo ⊢
            exact ⟨final, endedToo⟩
          · simp only [rightRan] at final endedToo ⊢
            exact ⟨final, Ends.append ended endedToo⟩

/-- If every worker deals with its tasks, the grid does, on any number of units. -/
theorem Device.runGrid_settles {holds : List κ → τ → Prop} {expected : Fault → Prop}
    (giveUp : GivesUp holds expected) {geometry : Geometry}
    {kernel : Worker → Procedure Fault τ Unit} {tasksOf : Worker → List κ}
    (works : ∀ worker ∈ geometry.workers,
      Settles holds done expected (tasksOf worker) (kernel worker)) (units : Nat) :
    Settles holds done expected (geometry.workers.flatMap tasksOf)
      (runGrid units geometry kernel) := by
  have group : ∀ groupId < geometry.grid,
      Settles holds done expected ((geometry.groupWorkers groupId).flatMap tasksOf)
        (runGroup geometry kernel groupId) := by
    intro groupId below
    rw [Geometry.groupWorkers, List.flatMap_map, runGroup_eq_forEach]
    refine Settles.forEach giveUp ?_
    intro localId localMem
    exact works _ (Geometry.mem_workers_iff.mpr ⟨⟨below, List.mem_range.mp localMem⟩, rfl⟩)
  have shares := Share.runPart_settles units
    (fun first count within => Settles.mapRange giveUp fun groupId below =>
      group groupId (Nat.lt_of_lt_of_le below within))
    false (Share.whole units geometry.grid) (by simp [Share.whole])
  have workers : (Share.whole units geometry.grid).groups.flatMap
      (fun groupId => (geometry.groupWorkers groupId).flatMap tasksOf) =
        geometry.workers.flatMap tasksOf := by
    rw [Geometry.workers, Geometry.workersFrom, List.flatMap_assoc]
    rfl
  rw [workers] at shares
  have ended := shares.bind giveUp fun _ => Settles.pure ()
  rwa [List.append_nil] at ended

end Grid

end Bandwidth
