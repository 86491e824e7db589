import Bandwidth.Proofs.Benchmark.Replay
import Bandwidth.Proofs.Benchmark.World
import Bandwidth.Proofs.Stream.Reachable

/-!
# Iterations

The timed kernels of an iteration do to the arrays what they do on lists, and hand on the last dot
product. Uniform arrays therefore go through the iterations of a run as three numbers go through
their replay.
-/

namespace Bandwidth

namespace Benchmark

variable {κ α δ : Type} [Measure δ] [Scalar α δ] {stream : Stream α} (tell : Event → StateM κ Unit)
  (clock : StateM κ δ)

/-- The timed kernels of an iteration. -/
def kernelsInWorld (kernels : List Kernel) (last : Option α) :
    Procedure Abort (Logged (Stream α) × κ) (List δ × Option α) :=
  Session.inWorld
    (runKernels Stream.interface (Session.performTelling tell) (monadLift clock) kernels last)

theorem kernelsInWorld_cons_run {kernel : Kernel} {result : Option α} {between : Logged (Stream α)}
    (ran : (Stream.interface.runKernel kernel).run ⟨stream, #[]⟩ = (.ok result, between))
    (kernels : List Kernel) (last : Option α) (log : Array Event) (world : κ) :
    ∃ time later,
      (kernelsInWorld tell clock (kernel :: kernels) last).run (⟨stream, log⟩, world) =
        (do
          let (times, last) ← kernelsInWorld tell clock kernels (result <|> last)
          return (time :: times, last)).run (between, later) := by
  rcases Session.performTelling_bind_run log (clock.run world).2 tell ran with ⟨later, performed⟩
  refine ⟨(clock.run later).1 - (clock.run world).1, (clock.run later).2, ?_⟩
  rw [kernelsInWorld, runKernels, Session.monadLift_bind_run, performed,
    Session.monadLift_bind_run, Session.inWorld_bind]
  rfl

theorem kernelsInWorld_cons_run_of_error {kernel : Kernel} {reason : Abort}
    {between : Logged (Stream α)}
    (ran : (Stream.interface.runKernel kernel).run ⟨stream, #[]⟩ = (.error reason, between))
    (kernels : List Kernel) (last : Option α) (log : Array Event) (world : κ) :
    ∃ later,
      (kernelsInWorld tell clock (kernel :: kernels) last).run (⟨stream, log⟩, world) =
        (.error reason, (between, later)) := by
  rcases Session.performTelling_bind_run_of_error log (clock.run world).2 tell ran with
    ⟨later, performed⟩
  refine ⟨later, ?_⟩
  rw [kernelsInWorld, runKernels, Session.monadLift_bind_run, performed]

/-- Kernels that are timed do what they do on lists, and the last dot product is handed on. -/
theorem kernelsInWorld_run (sound : stream.Sound) {kernels : List Kernel}
    (fits : .dot ∈ kernels → stream.blocks * standardGroup < Word.bound) (last : Option α)
    (log : Array Event) (world : κ) :
    ∃ times after told later,
      (kernelsInWorld tell clock kernels last).run (⟨stream, log⟩, world) =
        (.ok (times, Kernel.lastResult stream.blocks kernels stream.lists last),
          (⟨after, told⟩, later)) ∧
      stream.Follows after ∧ after.lists = Kernel.listsAfter kernels stream.lists := by
  induction kernels generalizing stream last log world with
  | nil => exact ⟨[], stream, log, world, rfl, sound.follows_self, rfl⟩
  | cons kernel kernels ih =>
      have fitsHere : kernel = .dot → stream.blocks * standardGroup < Word.bound :=
        fun isDot => fits (isDot ▸ List.mem_cons_self)
      rcases Stream.runKernel_refines sound fitsHere #[] with
        ⟨between, told, ran, follows, betweenLists⟩
      rcases kernelsInWorld_cons_run tell clock ran kernels last log world with ⟨time, later, timed⟩
      have fitsLater : .dot ∈ kernels → between.blocks * standardGroup < Word.bound :=
        fun dotMem => follows.blocks_eq ▸ fits (List.mem_cons_of_mem _ dotMem)
      rcases ih follows.sound fitsLater (kernel.resultOn stream.blocks stream.lists <|> last) told
        later with ⟨times, after, toldLater, ended, rest, laterFollows, afterLists⟩
      refine ⟨time :: times, after, toldLater, ended, ?_, follows.trans laterFollows, ?_⟩
      · rw [timed, Procedure.bind_run_of_ok rest, follows.blocks_eq, betweenLists]
        rfl
      · rw [afterLists, betweenLists]
        rfl

theorem kernelsInWorld_run_of_unfit (sound : stream.Sound) {kernels : List Kernel}
    (dotMem : .dot ∈ kernels) (unfit : ¬ stream.blocks * standardGroup < Word.bound)
    (last : Option α) (log : Array Event) (world : κ) :
    ∃ reason after,
      (kernelsInWorld tell clock kernels last).run (⟨stream, log⟩, world) =
        (.error reason, after) := by
  induction kernels generalizing stream last log world with
  | nil => exact nomatch dotMem
  | cons kernel kernels ih =>
      by_cases isDot : kernel = .dot
      · subst isDot
        rcases Stream.runKernel_run_of_unfit unfit #[] with ⟨reason, told, ran⟩
        rcases kernelsInWorld_cons_run_of_error tell clock ran kernels last log world with
          ⟨later, ended⟩
        exact ⟨reason, _, ended⟩
      · rcases Stream.runKernel_refines sound (fun equal => absurd equal isDot) #[] with
          ⟨between, told, ran, follows, _⟩
        rcases kernelsInWorld_cons_run tell clock ran kernels last log world with
          ⟨time, later, timed⟩
        have laterMem : .dot ∈ kernels := (List.mem_cons.mp dotMem).resolve_left (Ne.symm isDot)
        rcases ih follows.sound laterMem (follows.blocks_eq ▸ unfit)
          (kernel.resultOn stream.blocks stream.lists <|> last) told later with
          ⟨reason, after, rest⟩
        exact ⟨reason, after, timed.trans (Procedure.bind_run_of_error rest _)⟩

variable (observer : Observer (StateM κ) δ) (selection : Selection)

/-- The iterations of a run, the first of which is counted as `iteration`. -/
def iterationsInWorld (iterations iteration : Nat) (rows : Array (List δ)) (last : Option α) :
    Procedure Abort (Logged (Stream α) × κ) (Array (List δ) × Option α) :=
  Session.inWorld
    (runIterations Stream.interface (Session.performTelling tell) (monadLift clock) observer.lift
      selection.kernels iterations iteration rows last)

/-- Iterations on uniform arrays replay them, and end with the dot product of the arrays that are
left. -/
theorem iterationsInWorld_run (sound : stream.Sound)
    (fits : selection = .all → stream.blocks * standardGroup < Word.bound) {values : Triple α}
    (uniform : stream.lists = values.uniform stream.arraySize) {last : Option α}
    (before : selection ≠ .all → last = none) (iterations iteration : Nat) (rows : Array (List δ))
    (log : Array Event) (world : κ) :
    ∃ timed after told later,
      (iterationsInWorld tell clock observer selection iterations iteration rows last).run
          (⟨stream, log⟩, world) =
        (.ok (timed, if iterations = 0 then last else selection.result stream.blocks after.lists),
          (⟨after, told⟩, later)) ∧
      stream.Follows after ∧
      after.lists = (replay selection.kernels iterations values).uniform stream.arraySize := by
  induction iterations generalizing stream values last iteration rows log world with
  | zero => exact ⟨rows, stream, log, world, rfl, sound.follows_self, uniform⟩
  | succ iterations ih =>
      have fitsHere : .dot ∈ selection.kernels → stream.blocks * standardGroup < Word.bound :=
        fun dotMem => fits (Selection.dot_mem_kernels.mp dotMem)
      rcases kernelsInWorld_run tell clock sound fitsHere last log world with
        ⟨times, between, told, watched, ran, follows, betweenLists⟩
      rw [Selection.lastResult_kernels selection _ _ before, ← betweenLists] at ran
      have betweenUniform :
          between.lists = (replayIteration selection.kernels values).uniform between.arraySize := by
        rw [betweenLists, uniform, Kernel.listsAfter_uniform, follows.arraySize_eq]
      have betweenLast : selection ≠ .all → selection.result stream.blocks between.lists = none :=
        fun other => Selection.result_eq_none other _ _
      rcases ih follows.sound (fun all => follows.blocks_eq ▸ fits all) betweenUniform betweenLast
          (iteration + 1) (rows.push times) told ((observer.iterated iteration).run watched).2 with
        ⟨timed, after, toldLater, later, rest, laterFollows, afterLists⟩
      rw [follows.blocks_eq] at rest
      rw [follows.arraySize_eq] at afterLists
      refine ⟨timed, after, toldLater, later, ?_, follows.trans laterFollows, afterLists⟩
      have ended : (if iterations = 0 then selection.result stream.blocks between.lists
          else selection.result stream.blocks after.lists) =
            selection.result stream.blocks after.lists := by
        split
        · rename_i last
          rw [afterLists, last, betweenUniform, follows.arraySize_eq]
          rfl
        · rfl
      rw [ended] at rest
      rw [kernelsInWorld] at ran
      rw [iterationsInWorld, runIterations, Session.inWorld_bind, Procedure.bind_run_of_ok ran]
      dsimp only
      rw [Observer.lift, Session.monadLift_bind_run]
      exact rest

theorem iterationsInWorld_run_of_unfit (sound : stream.Sound) (isAll : selection = .all)
    (unfit : ¬ stream.blocks * standardGroup < Word.bound) (last : Option α) {iterations : Nat}
    (some : iterations ≠ 0) (iteration : Nat) (rows : Array (List δ)) (log : Array Event)
    (world : κ) :
    ∃ reason after,
      (iterationsInWorld tell clock observer selection iterations iteration rows last).run
        (⟨stream, log⟩, world) = (.error reason, after) := by
  rcases iterations with _ | iterations
  · exact absurd rfl some
  · rcases kernelsInWorld_run_of_unfit tell clock sound (Selection.dot_mem_kernels.mpr isAll) unfit
      last log world with ⟨reason, after, ran⟩
    refine ⟨reason, after, ?_⟩
    rw [iterationsInWorld, runIterations, Session.inWorld_bind]
    exact Procedure.bind_run_of_error ran _

end Benchmark

end Bandwidth
