import Bandwidth.Proofs.Benchmark.Finiteness
import Bandwidth.Proofs.Benchmark.Script
import Bandwidth.Proofs.Benchmark.Simulation

/-!
# The course of a run

A run makes the calls of its script in order, and ends with the first that fails. Between the calls
it only reads the clock, and after the last kernel of an iteration it announces it. So the course of
a run is that of its script, whatever the stream does in its calls, and what it reports is put
together from their answers and from the times between two readings of the clock.

A plan may ask for so many iterations that there are no rows for their times. Its run ends when the
arrays have been filled, with a fault of its own and not of the stream.
-/

namespace Bandwidth

/-- An observer that watches a run from the world, and leaves a mark on the state of the stream for
each iteration. -/
def Observer.marking {κ σ δ : Type} (observer : Observer (StateM κ) δ) (mark : Nat → σ → σ) :
    Observer (Session (StateM κ) σ) δ where
  started kernels iterations elements := monadLift (observer.started kernels iterations elements)
  iterated iteration := do
    (monadLift (observer.iterated iteration) : Session (StateM κ) σ Unit)
    Session.perform (Procedure.modify (mark iteration))
  summarised summary := monadLift (observer.summarised summary)

/-- An observer that watches a run from the world, while the stream notes the iterations. -/
def Observer.noting {κ σ α δ : Type} (observer : Observer (StateM κ) δ) :
    Observer (Session (StateM κ) (Benchmark.Noted σ α)) δ :=
  observer.marking fun iteration => Benchmark.Noted.note (.iterated iteration)

namespace Benchmark

variable {κ σ α δ : Type} [Measure δ]

section Times

variable (clock : StateM κ δ)

/-- The time between two readings of the clock. -/
def lap : StateM κ δ := do
  let before ← clock
  let after ← clock
  return after - before

/-- The times of the kernels in some iterations, each of which is announced. -/
def timetable (observer : Observer (StateM κ) δ) (kernels : List Kernel) (iterations : List Nat) :
    StateM κ (List (List δ)) :=
  iterations.mapM fun iteration => do
    let times ← kernels.mapM fun _ => lap clock
    observer.iterated iteration
    return times

theorem timetable_cons_run (observer : Observer (StateM κ) δ) (kernels : List Kernel)
    (iteration : Nat) (iterations : List Nat) (world : κ) :
    (timetable clock observer kernels (iteration :: iterations)).run world =
      let timed := (kernels.mapM fun _ => lap clock).run world
      let rest := (timetable clock observer kernels iterations).run
        ((observer.iterated iteration).run timed.2).2
      (timed.1 :: rest.1, rest.2) := by
  rw [timetable, List.mapM_cons]
  rfl

end Times

variable {stream : Interface σ α} {mark : Nat → σ → σ} {state after : σ} {kernels : List Kernel}
  {answers : List (Answer α)} {taken : List (Step α)} {reason : Abort}

theorem of_answering_run_ok {β γ : Type} {procedure : Procedure Abort σ β} {answer : β → γ}
    {given : γ}
    (ran : (do let value ← procedure; return answer value).run state = (.ok given, after)) :
    ∃ value, procedure.run state = (.ok value, after) ∧ given = answer value := by
  rcases Procedure.of_bind_run_ok ran with ⟨value, between, first, done⟩
  simp only [Procedure.pure_run, Prod.mk.injEq, Except.ok.injEq] at done
  rcases done with ⟨rfl, rfl⟩
  exact ⟨value, first, rfl⟩

theorem of_answering_run_error {β γ : Type} {procedure : Procedure Abort σ β} {answer : β → γ}
    (ran : (do let value ← procedure; return answer value).run state = (.error reason, after)) :
    procedure.run state = (.error reason, after) := by
  rw [Procedure.bind_run] at ran
  rcases first : procedure.run state with ⟨other | value, between⟩
  · simpa [first] using ran
  · simp [first] at ran

variable (clock : StateM κ δ)

/-- Kernels that pass are timed, and the last result is handed on. -/
theorem runKernels_run (passes : Passes stream mark state (kernelSteps kernels) answers after)
    (last : Option α) (world : κ) :
    (Session.inWorld (runKernels stream Session.perform (monadLift clock) kernels last)).run
        (state, world) =
      (.ok (((kernels.mapM fun _ => lap clock).run world).1, Answer.lastResult answers last),
        (after, ((kernels.mapM fun _ => lap clock).run world).2)) := by
  induction kernels generalizing state answers last world with
  | nil =>
      cases passes with
      | nil => rfl
  | cons kernel kernels ih =>
      cases passes with
      | call performed rest =>
          rcases of_answering_run_ok performed with ⟨result, ran, rfl⟩
          have timed := ih rest (result <|> last) (clock.run (clock.run world).2).2
          rw [runKernels, Session.monadLift_bind_run, Session.perform_bind_run ran,
            Session.monadLift_bind_run, Session.inWorld_bind, Procedure.bind_run_of_ok timed,
            List.mapM_cons]
          rfl

theorem runKernels_run_of_stops
    (stops : Stops stream mark state (kernelSteps kernels) taken reason after) (last : Option α)
    (world : κ) :
    ∃ later, (Session.inWorld (runKernels stream Session.perform (monadLift clock) kernels
      last)).run (state, world) = (.error reason, (after, later)) := by
  induction kernels generalizing state taken last world with
  | nil => cases stops
  | cons kernel kernels ih =>
      cases stops with
      | here failed =>
          refine ⟨(clock.run world).2, ?_⟩
          rw [runKernels, Session.monadLift_bind_run,
            Session.perform_bind_run_of_error (of_answering_run_error failed)]
      | call performed rest =>
          rcases of_answering_run_ok performed with ⟨result, ran, rfl⟩
          rcases ih rest (result <|> last) (clock.run (clock.run world).2).2 with ⟨later, stopped⟩
          refine ⟨later, ?_⟩
          rw [runKernels, Session.monadLift_bind_run, Session.perform_bind_run ran,
            Session.monadLift_bind_run, Session.inWorld_bind, Procedure.bind_run_of_error stopped]

variable (observer : Observer (StateM κ) δ)

omit [Measure δ] in
theorem iterated_bind_run {β : Type} (iteration : Nat) (state : σ) (world : κ)
    (next : Unit → Session (StateM κ) σ β) :
    (Session.inWorld ((observer.marking mark).iterated iteration >>= next)).run (state, world) =
      (Session.inWorld (next ())).run
        (mark iteration state, ((observer.iterated iteration).run world).2) := by
  rw [Observer.marking, bind_assoc, Session.monadLift_bind_run]
  exact Session.perform_bind_run (Procedure.modify_run (mark iteration) state) next _

theorem runIterations_run {remaining iteration : Nat}
    (passes : Passes stream mark state
      ((List.range' iteration remaining).flatMap (iterationSteps kernels)) answers after)
    (rows : Array (List δ)) (last : Option α) (world : κ) :
    (Session.inWorld (runIterations stream Session.perform (monadLift clock)
        (observer.marking mark) kernels remaining iteration rows last)).run (state, world) =
      (.ok (rows ++ ((timetable clock observer kernels
          (List.range' iteration remaining)).run world).1.toArray,
          Answer.lastResult answers last),
        (after, ((timetable clock observer kernels
          (List.range' iteration remaining)).run world).2)) := by
  induction remaining generalizing iteration state answers rows last world with
  | zero =>
      cases passes with
      | nil =>
          have none : rows ++ ([] : List (List δ)).toArray = rows := Array.append_empty
          rw [runIterations, List.range'_zero, timetable, List.mapM_nil]
          change (Except.ok (rows, last), (after, world)) =
            (Except.ok (rows ++ ([] : List (List δ)).toArray, last), (after, world))
          rw [none]
  | succ remaining ih =>
      -- The steps of the first iteration come off the script: its kernels, then its mark.
      rw [List.range'_succ, List.flatMap_cons, iterationSteps, List.append_assoc] at passes
      rcases passes.of_append with ⟨some, more, between, rfl, here, rest⟩
      cases rest with
      | iterated rest =>
          have timed := runKernels_run clock here last world
          have later := ih rest
            (rows.push ((kernels.mapM fun _ => lap clock).run world).1)
            (Answer.lastResult some last)
            ((observer.iterated iteration).run ((kernels.mapM fun _ => lap clock).run world).2).2
          rw [runIterations, Session.inWorld_bind, Procedure.bind_run_of_ok timed]
          dsimp only
          rw [iterated_bind_run, later, List.range'_succ, timetable_cons_run, Answer.lastResult,
            Answer.lastResult, Answer.lastResult, List.foldl_append]
          simp

theorem runIterations_run_of_stops {remaining iteration : Nat}
    (stops : Stops stream mark state
      ((List.range' iteration remaining).flatMap (iterationSteps kernels)) taken reason after)
    (rows : Array (List δ)) (last : Option α) (world : κ) :
    ∃ later, (Session.inWorld (runIterations stream Session.perform (monadLift clock)
        (observer.marking mark) kernels remaining iteration rows last)).run (state, world) =
      (.error reason, (after, later)) := by
  induction remaining generalizing iteration state taken rows last world with
  | zero => cases stops
  | succ remaining ih =>
      rw [List.range'_succ, List.flatMap_cons, iterationSteps, List.append_assoc] at stops
      rcases stops.of_append with here | ⟨answers, between, _, passed, rest, _⟩
      · rcases runKernels_run_of_stops clock here last world with ⟨later, stopped⟩
        refine ⟨later, ?_⟩
        rw [runIterations, Session.inWorld_bind, Procedure.bind_run_of_error stopped]
      · cases rest with
        | iterated rest =>
            have timed := runKernels_run clock passed last world
            rcases ih rest (rows.push ((kernels.mapM fun _ => lap clock).run world).1)
              (Answer.lastResult answers last)
              ((observer.iterated iteration).run
                ((kernels.mapM fun _ => lap clock).run world).2).2 with ⟨later, stopped⟩
            refine ⟨later, ?_⟩
            rw [runIterations, Session.inWorld_bind, Procedure.bind_run_of_ok timed]
            dsimp only
            rw [iterated_bind_run]
            exact stopped

section Conclusion

variable [Scalar α δ]

/-- A summary for each kernel, in order, of the times that it took in all iterations. -/
def summariesBy (α : Type) [Element α] (kernels : List Kernel) (arraySize : Nat)
    (times : List (List δ)) : List (Summary δ) :=
  kernels.zipIdx.map fun (kernel, place) =>
    .ofTimings kernel (kernel.arraysTouched * arraySize * Element.bytes α)
      (kernel.flopsPerElement * arraySize) (times.map fun row => row.getD place Measure.zero)

/-- What a run reports of the answers of its stream, and of the times that were taken. -/
def reportOf (stream : Interface σ α) (plan : Plan δ) (arraySize : Nat) (times : List (List δ))
    (answers : List (Answer α)) (lists : Triple (List α)) (after : σ) : Report α δ where
  device := stream.device after
  precision := Element.precision α
  arraySize := arraySize
  residency := stream.residency after
  iterations := plan.iterations
  selection := plan.selection
  summaries := summariesBy α plan.selection.kernels arraySize times
  arrays := lists.map List.toArray
  dot := Answer.lastResult answers none

variable {plan}

omit [Measure δ] [Scalar α δ] in
/-- What a kernel moves and computes are words if four arrays are smaller than any object. -/
theorem traffic_eq_ok [Element α] {arraySize : Nat}
    (small : 4 * arraySize * Element.bytes α < 2 ^ 63) (kernel : Kernel) :
    kernel.bytesMoved arraySize (Element.bytes α) =
        .ok (kernel.arraysTouched * arraySize * Element.bytes α) ∧
      kernel.flops arraySize = .ok (kernel.flopsPerElement * arraySize) := by
  have touched : kernel.arraysTouched ≤ 4 := by cases kernel <;> decide
  have operations : kernel.flopsPerElement ≤ 4 := by cases kernel <;> decide
  have four : 4 * arraySize ≤ 4 * arraySize * Element.bytes α :=
    Nat.le_mul_of_pos_right _ (Element.bytes_pos α)
  have elements : kernel.arraysTouched * arraySize ≤ 4 * arraySize :=
    Nat.mul_le_mul_right _ touched
  have bytes : kernel.arraysTouched * arraySize * Element.bytes α ≤
      4 * arraySize * Element.bytes α :=
    Nat.mul_le_mul_right _ elements
  have flops : kernel.flopsPerElement * arraySize ≤ 4 * arraySize :=
    Nat.mul_le_mul_right _ operations
  constructor
  · rw [Kernel.bytesMoved, Word.mul_eq_ok (by simp only [Word.bound]; omega)]
    exact Word.mul_eq_ok (by simp only [Word.bound]; omega)
  · exact Word.mul_eq_ok (by simp only [Word.bound]; omega)

theorem summariesOf_eq {arraySize : Nat} (small : 4 * arraySize * Element.bytes α < 2 ^ 63)
    (plan : Plan δ) (times : List (List δ)) :
    summariesOf (α := α) plan arraySize times.toArray =
      .ok (summariesBy α plan.selection.kernels arraySize times) := by
  have counted : ∀ kernel place, summarise (α := α) arraySize times.toArray kernel place =
      .ok (.ofTimings kernel (kernel.arraysTouched * arraySize * Element.bytes α)
        (kernel.flopsPerElement * arraySize) (times.map fun row => row.getD place Measure.zero)) := by
    intro kernel place
    rcases traffic_eq_ok small kernel with ⟨bytes, flops⟩
    simp only [summarise, bytes, flops]
    rfl
  simp only [summariesOf, counted]
  exact List.mapM_pure

variable {plan : Plan δ} (mark)

theorem prepare_run (valid : plan.validateFor α (stream.arraySize state) = .ok ())
    (made : makeRows plan = .ok ())
    (filled : (stream.fill plan.start).run state = (.ok (), after)) (world : κ) :
    (Session.inWorld (prepare stream Session.perform (observer.marking mark) plan)).run
        (state, world) =
      (.ok (stream.arraySize state), (after, ((observer.started plan.selection.kernels.length
        plan.iterations (stream.arraySize state)).run world).2)) := by
  rw [prepare, Session.perform_bind_run (Procedure.get_run state),
    Session.perform_bind_run (validation_run valid state), Session.perform_bind_run filled,
    Session.perform_bind_run (makeRows_run made after)]
  exact Session.monadLift_bind_run _ _ _ _

theorem prepare_run_of_unmade {fault : Fault}
    (valid : plan.validateFor α (stream.arraySize state) = .ok ())
    (unmade : makeRows plan = .error fault)
    (filled : (stream.fill plan.start).run state = (.ok (), after)) (world : κ) :
    (Session.inWorld (prepare stream Session.perform (observer.marking mark) plan)).run
        (state, world) = (.error (.fault fault), (after, world)) := by
  rw [prepare, Session.perform_bind_run (Procedure.get_run state),
    Session.perform_bind_run (validation_run valid state), Session.perform_bind_run filled,
    Session.perform_bind_run_of_error (makeRows_run_of_error unmade after)]

theorem prepare_run_of_invalid {failure : Failure}
    (invalid : plan.validateFor α (stream.arraySize state) = .error failure) (world : κ) :
    (Session.inWorld (prepare stream Session.perform (observer.marking mark) plan)).run
        (state, world) = (.error (.failure failure), (state, world)) := by
  rw [prepare, Session.perform_bind_run (Procedure.get_run state),
    Session.perform_bind_run_of_error (validation_run_of_error invalid state)]

theorem prepare_run_of_error (valid : plan.validateFor α (stream.arraySize state) = .ok ())
    (failed : (stream.fill plan.start).run state = (.error reason, after)) (world : κ) :
    (Session.inWorld (prepare stream Session.perform (observer.marking mark) plan)).run
        (state, world) = (.error reason, (after, world)) := by
  rw [prepare, Session.perform_bind_run (Procedure.get_run state),
    Session.perform_bind_run (validation_run valid state), Session.perform_bind_run_of_error failed]

def blanks (arraySize : Nat) : Triple (Array α) :=
  ⟨.replicate arraySize Element.zero, .replicate arraySize Element.zero,
    .replicate arraySize Element.zero⟩

theorem conclude_run {arraySize : Nat} (small : 4 * arraySize * Element.bytes α < 2 ^ 63)
    {arrays : Triple (Array α)}
    (read : (stream.readInto (blanks arraySize)).run state = (.ok arrays, after))
    (times : List (List δ)) (answers : List (Answer α)) (world : κ) :
    ∃ later, (Session.inWorld (conclude stream Session.perform (observer.marking mark) plan
        arraySize times.toArray (Answer.lastResult answers none))).run (state, world) =
      (.ok (reportOf stream plan arraySize times answers (arrays.map Array.toList) after),
        (after, later)) := by
  let summaries := summariesBy α plan.selection.kernels arraySize times
  have counted : (Procedure.ofExcept ((summariesOf (α := α) plan arraySize times.toArray).mapError
      .fault) : Procedure Abort σ (List (Summary δ))).run after = (.ok summaries, after) := by
    rw [summariesOf_eq small plan times]
    rfl
  rcases Session.inWorld_forM_run observer.summarised summaries after world with ⟨later, watched⟩
  refine ⟨later, ?_⟩
  rw [conclude]
  apply (Session.perform_bind_run read _ _).trans
  apply (Session.perform_bind_run counted _ _).trans
  rw [Session.inWorld_bind]
  apply (Procedure.bind_run_of_ok watched _).trans
  exact Session.perform_bind_run (Procedure.get_run after) _ _

theorem conclude_run_of_error {arraySize : Nat}
    (failed : (stream.readInto (blanks arraySize)).run state = (.error reason, after))
    (rows : Array (List δ)) (dot : Option α) (world : κ) :
    (Session.inWorld (conclude stream Session.perform (observer.marking mark) plan arraySize rows
        dot)).run (state, world) = (.error reason, (after, world)) := by
  rw [conclude]
  exact Session.perform_bind_run_of_error failed _ _

variable (stream plan) in
/-- A run on a stream whose state is marked for each iteration. -/
def course : Procedure Abort (σ × κ) (Report α δ) :=
  Session.inWorld (run stream Session.perform (monadLift clock) (observer.marking mark) plan)

theorem course_eq :
    course stream mark clock observer plan = (do
      let arraySize ← Session.inWorld
        (prepare stream Session.perform (observer.marking mark) plan)
      let (rows, dot) ← Session.inWorld (runIterations stream Session.perform (monadLift clock)
        (observer.marking mark) plan.selection.kernels plan.iterations 0 #[] none)
      Session.inWorld (conclude stream Session.perform (observer.marking mark) plan arraySize rows
        dot)) := by
  rw [course, run_eq, Session.inWorld_bind]
  apply congrArg (_ >>= ·)
  funext arraySize
  exact Session.inWorld_bind _ _

theorem course_run_of_invalid {failure : Failure}
    (invalid : plan.validateFor α (stream.arraySize state) = .error failure) (world : κ) :
    (course stream mark clock observer plan).run (state, world) =
      (.error (.failure failure), (state, world)) := by
  rw [course_eq]
  exact Procedure.bind_run_of_error (prepare_run_of_invalid mark observer invalid world) _

theorem course_run_of_unfilled (valid : plan.validateFor α (stream.arraySize state) = .ok ())
    (failed : ((Operation.fill plan.start).perform stream).run state = (.error reason, after))
    (world : κ) :
    (course stream mark clock observer plan).run (state, world) =
      (.error reason, (after, world)) := by
  rw [course_eq]
  have stopped := prepare_run_of_error mark observer valid (of_answering_run_error failed) world
  exact Procedure.bind_run_of_error stopped _

/-- A valid plan for whose times there are no rows makes a run fill the arrays and fault. -/
theorem course_run_of_unmade {fault : Fault} {answer : Answer α}
    (valid : plan.validateFor α (stream.arraySize state) = .ok ())
    (unmade : makeRows plan = .error fault)
    (performed : ((Operation.fill plan.start).perform stream).run state = (.ok answer, after))
    (world : κ) :
    (course stream mark clock observer plan).run (state, world) =
      (.error (.fault fault), (after, world)) := by
  rw [course_eq]
  rcases of_answering_run_ok performed with ⟨_, filled, rfl⟩
  have stopped := prepare_run_of_unmade mark observer valid unmade filled world
  exact Procedure.bind_run_of_error stopped _

theorem course_run_of_stops (valid : plan.validateFor α (stream.arraySize state) = .ok ())
    (made : makeRows plan = .ok ())
    (stops : Stops stream mark state (script plan (stream.arraySize state)) taken reason after)
    (world : κ) :
    ∃ later, (course stream mark clock observer plan).run (state, world) =
      (.error reason, (after, later)) := by
  cases stops with
  | here failed =>
      exact ⟨world, course_run_of_unfilled mark clock observer valid failed world⟩
  | call performed rest =>
      rw [course_eq]
      rcases of_answering_run_ok performed with ⟨_, filled, rfl⟩
      have prepared := prepare_run mark observer valid made filled world
      rw [List.range_eq_range'] at rest
      rcases rest.of_append with iterations | ⟨answers, between, _, passed, reading, _⟩
      · rcases runIterations_run_of_stops clock observer iterations #[] none _ with
          ⟨later, stopped⟩
        refine ⟨later, (Procedure.bind_run_of_ok prepared _).trans ?_⟩
        exact Procedure.bind_run_of_error stopped _
      · have timed := runIterations_run clock observer passed #[] none
          ((observer.started plan.selection.kernels.length plan.iterations
            (stream.arraySize state)).run world).2
        cases reading with
        | here failed =>
            exact ⟨_, (Procedure.bind_run_of_ok prepared _).trans
              ((Procedure.bind_run_of_ok timed _).trans
                (conclude_run_of_error mark observer (of_answering_run_error failed) _ _ _))⟩
        | call _ rest => cases rest

/-- A valid plan makes a run whose script passes report the answers and the times. -/
theorem course_run (valid : plan.validateFor α (stream.arraySize state) = .ok ())
    (made : makeRows plan = .ok ())
    (small : 4 * stream.arraySize state * Element.bytes α < 2 ^ 63)
    (passes : Passes stream mark state (script plan (stream.arraySize state)) answers after)
    (world : κ) :
    let arraySize := stream.arraySize state
    let kernels := plan.selection.kernels
    let started := ((observer.started kernels.length plan.iterations arraySize).run world).2
    let times := ((timetable clock observer kernels (List.range plan.iterations)).run started).1
    ∃ earlier lists later, answers = earlier ++ [.contents lists] ∧
      (course stream mark clock observer plan).run (state, world) =
        (.ok (reportOf stream plan arraySize times earlier lists after), (after, later)) := by
  intro arraySize kernels started times
  rw [course_eq]
  cases passes with
  | call performed rest =>
      rcases of_answering_run_ok performed with ⟨_, filled, rfl⟩
      have prepared := prepare_run mark observer valid made filled world
      rcases rest.of_append with ⟨some, _, between, rfl, passed, reading⟩
      rw [List.range_eq_range'] at passed
      have timed := runIterations_run clock observer passed #[] none started
      rw [Array.empty_append, ← List.range_eq_range'] at timed
      cases reading with
      | call performed rest =>
          cases rest with
          | nil =>
              rcases of_answering_run_ok performed with ⟨arrays, read, rfl⟩
              rcases conclude_run mark observer small read times (.nothing :: some)
                ((timetable clock observer kernels (List.range plan.iterations)).run started).2 with
                ⟨later, concluded⟩
              refine ⟨.nothing :: some, arrays.map Array.toList, later, rfl, ?_⟩
              apply (Procedure.bind_run_of_ok prepared _).trans
              apply (Procedure.bind_run_of_ok timed _).trans
              exact concluded

omit mark in
theorem of_validateFor_error {failure : Failure} {arraySize : Nat}
    (invalid : plan.validateFor α arraySize = .error failure) :
    ∃ cause, failure = .invalidConfig cause := by
  rw [Plan.validateFor_eq] at invalid
  split at invalid
  · exact ⟨_, (Except.error.inj invalid).symm⟩
  · split at invalid
    · exact ⟨_, (Except.error.inj invalid).symm⟩
    · cases invalid

omit [Measure δ] [Scalar α δ] mark in
theorem length_measured {timings : List δ} (positive : 0 < timings.length) :
    (Summary.measured timings).length = max 1 (timings.length - 1) := by
  unfold Summary.measured
  split
  · rw [List.length_tail]
    omega
  · omega

omit [Scalar α δ] in
theorem length_timetable (kernels : List Kernel) (iterations : List Nat) (world : κ) :
    ((timetable clock observer kernels iterations).run world).1.length = iterations.length := by
  induction iterations generalizing world with
  | nil => rfl
  | cons iteration iterations ih =>
      rw [timetable_cons_run]
      exact congrArg (· + 1) (ih _)

omit mark in
/-- Each kernel has one summary, of all its calls but the first, if there are several. -/
theorem samples_summariesBy {times : List (List δ)} (positive : 0 < times.length)
    (kernels : List Kernel) (arraySize : Nat) :
    (summariesBy α kernels arraySize times).map (fun summary => (summary.kernel, summary.samples)) =
      kernels.map fun kernel => (kernel, max 1 (times.length - 1)) := by
  have samples : ∀ place, (Summary.measured
      (times.map fun row => row.getD place Measure.zero)).length = max 1 (times.length - 1) := by
    intro place
    rw [length_measured, List.length_map]
    rwa [List.length_map]
  rw [summariesBy, List.map_map]
  simp only [Function.comp_def, Summary.ofTimings, samples]
  rw [← Function.comp_def (fun kernel => (kernel, max 1 (times.length - 1))) Prod.fst,
    ← List.map_map, List.zipIdx_map_fst]

/-- The times of a run that starts in some world. -/
def timesFrom (clock : StateM κ δ) (observer : Observer (StateM κ) δ) (plan : Plan δ)
    (arraySize : Nat) (world : κ) : List (List δ) :=
  let kernels := plan.selection.kernels
  let started := ((observer.started kernels.length plan.iterations arraySize).run world).2
  ((timetable clock observer kernels (List.range plan.iterations)).run started).1

omit mark in
theorem samples_reportOf (valid : plan.validateFor α (stream.arraySize state) = .ok ())
    {lists : Triple (List α)} {world : κ} :
    let report := reportOf stream plan (stream.arraySize state)
      (timesFrom clock observer plan (stream.arraySize state) world) answers lists after
    (report.summaries.map fun summary => (summary.kernel, summary.samples)) =
      plan.selection.kernels.map fun kernel => (kernel, max 1 (plan.iterations - 1)) := by
  intro report
  have all : (timesFrom clock observer plan (stream.arraySize state) world).length =
      plan.iterations :=
    (length_timetable clock observer _ _ _).trans List.length_range
  have positive := (plan.validateFor_eq_ok_iff.mp valid).1
  have samples := samples_summariesBy (α := α) (all.symm ▸ positive) plan.selection.kernels
    (stream.arraySize state)
  rwa [all] at samples

/-- How a run can end: with which outcome, after which steps, and in which state and world. -/
inductive Conclusion (stream : Interface σ α) (clock : StateM κ δ) (observer : Observer (StateM κ) δ)
    (plan : Plan δ) (state : σ) (world : κ) :
    Except Abort (Report α δ) → List (Step α) → σ → κ → Prop
  /-- The plan is not valid for the arrays, and nothing has been done. -/
  | refused {cause : ConfigCause}
      (invalid : plan.validateFor α (stream.arraySize state) = .error (.invalidConfig cause)) :
      Conclusion stream clock observer plan state world (.error (.failure (.invalidConfig cause)))
        [] state world
  /-- The arrays are filled, but there are no rows for the times of so many iterations. -/
  | overfull {after : σ} (valid : plan.validateFor α (stream.arraySize state) = .ok ())
      (large : 2 ^ 63 ≤ 8 * plan.iterations)
      (passes : Passes stream unmarked state [.call (.fill plan.start)] [.nothing] after) :
      Conclusion stream clock observer plan state world (.error (.fault .capacityOverflow))
        [.call (.fill plan.start)] after world
  /-- A call has failed, after everything that the script has before it. -/
  | stopped {passed rest : List (Step α)} {operation : Operation α} {answers : List (Answer α)}
      {between after : σ} {reason : Abort} {later : κ}
      (valid : plan.validateFor α (stream.arraySize state) = .ok ())
      (small : passed ≠ [] → 8 * plan.iterations < 2 ^ 63)
      (prescribed : script plan (stream.arraySize state) = passed ++ .call operation :: rest)
      (passes : Passes stream unmarked state passed answers between)
      (failed : (operation.perform stream).run between = (.error reason, after)) :
      Conclusion stream clock observer plan state world (.error reason)
        (passed ++ [.call operation]) after later
  /-- The whole script was followed, and the answers are reported. -/
  | completed {answers : List (Answer α)} {lists : Triple (List α)} {after : σ} {later : κ}
      {report : Report α δ} (valid : plan.validateFor α (stream.arraySize state) = .ok ())
      (small : 8 * plan.iterations < 2 ^ 63)
      (passes : Passes stream unmarked state (script plan (stream.arraySize state))
        (answers ++ [.contents lists]) after)
      (reported : report = reportOf stream plan (stream.arraySize state)
        (timesFrom clock observer plan (stream.arraySize state) world) answers lists after)
      (samples : (report.summaries.map fun summary => (summary.kernel, summary.samples)) =
        plan.selection.kernels.map fun kernel => (kernel, max 1 (plan.iterations - 1))) :
      Conclusion stream clock observer plan state world (.ok report)
        (script plan (stream.arraySize state)) after later

section

variable (stream : Interface σ α) (clock : StateM κ δ) (observer : Observer (StateM κ) δ)
  (plan : Plan δ) (state : σ) (world : κ)

/-- A run and its noted twin end alike, and in one of the ways in which a run can end. -/
def Concludes : Prop :=
  ∃ outcome steps after later seen,
    (Session.inWorld (run stream Session.perform (monadLift clock) observer.lift plan)).run
        (state, world) = (outcome, (after, later)) ∧
    (Session.inWorld
        (run stream.noting Session.perform (monadLift clock) observer.noting plan)).run
        (⟨state, []⟩, world) = (outcome, (⟨after, steps⟩, seen)) ∧
    Conclusion stream clock observer plan state world outcome steps after later

variable {stream plan state}

theorem concludes_of_unmade (valid : plan.validateFor α (stream.arraySize state) = .ok ())
    (unmade : makeRows plan = .error .capacityOverflow) (large : 2 ^ 63 ≤ 8 * plan.iterations) :
    Concludes stream clock observer plan state world := by
  let notes : Nat → Noted σ α → Noted σ α := fun iteration => Noted.note (.iterated iteration)
  have notedValid : plan.validateFor α (stream.noting.arraySize ⟨state, []⟩) = .ok () := valid
  have noted := notes_perform stream (.fill plan.start) state []
  rcases performed : ((Operation.fill plan.start).perform stream).run state with
    ⟨reason | answer, after⟩
  · rw [performed] at noted
    exact ⟨_, _, after, world, world,
      course_run_of_unfilled unmarked clock observer valid performed world,
      course_run_of_unfilled notes clock observer notedValid noted world,
      .stopped valid (absurd rfl) rfl (.nil state) performed⟩
  · rw [performed] at noted
    rcases of_answering_run_ok performed with ⟨_, -, rfl⟩
    exact ⟨_, _, after, world, world,
      course_run_of_unmade unmarked clock observer valid unmade performed world,
      course_run_of_unmade notes clock observer notedValid unmade noted world,
      .overfull valid large (.call performed (.nil after))⟩

theorem concludes_of_made (valid : plan.validateFor α (stream.arraySize state) = .ok ())
    (made : makeRows plan = .ok ()) (few : 8 * plan.iterations < 2 ^ 63)
    (small : 4 * stream.arraySize state * Element.bytes α < 2 ^ 63) :
    Concludes stream clock observer plan state world := by
  let notes : Nat → Noted σ α → Noted σ α := fun iteration => Noted.note (.iterated iteration)
  have notedValid : plan.validateFor α (stream.noting.arraySize ⟨state, []⟩) = .ok () := valid
  have notedSmall : 4 * stream.noting.arraySize ⟨state, []⟩ * Element.bytes α < 2 ^ 63 := small
  rcases passes_or_stops stream unmarked state (script plan (stream.arraySize state)) with
    ⟨answers, after, passes⟩ | ⟨taken, reason, after, stops⟩
  · rcases course_run unmarked clock observer valid made small passes world with
      ⟨earlier, lists, later, rfl, ran⟩
    rcases course_run notes clock observer notedValid made notedSmall (passes.noting []) world with
      ⟨others, otherLists, seen, same, noted⟩
    rcases List.append_inj' same rfl with ⟨rfl, sameLists⟩
    simp only [List.cons.injEq, Answer.contents.injEq, and_true] at sameLists
    subst sameLists
    exact ⟨_, _, after, later, seen, ran, noted,
      .completed valid few passes rfl (samples_reportOf clock observer valid)⟩
  · rcases course_run_of_stops unmarked clock observer valid made stops world with ⟨later, ran⟩
    rcases course_run_of_stops notes clock observer notedValid made (stops.noting []) world with
      ⟨seen, noted⟩
    rcases stops.split with
      ⟨passed, operation, rest, answers, between, prescribed, rfl, passes, failed⟩
    exact ⟨_, _, after, later, seen, ran, noted,
      .stopped valid (fun _ => few) prescribed passes failed⟩

end

/--
A run follows the script of its plan. It takes the steps of the script in order until a call fails,
whose reason it hands on, and then no more; or it takes them all, and reports their answers. By an
invalid plan it takes none, and by a plan of 2^60 iterations or more none after the first. Noting
the steps shows them and changes nothing.
-/
theorem run_follows_script (stream : Interface σ α) (clock : StateM κ δ)
    (observer : Observer (StateM κ) δ) (plan : Plan δ) (state : σ) (world : κ)
    (small : 4 * stream.arraySize state * Element.bytes α < 2 ^ 63) :
    ∃ outcome steps after later seen,
      (Session.inWorld (run stream Session.perform (monadLift clock) observer.lift plan)).run
          (state, world) = (outcome, (after, later)) ∧
      (Session.inWorld
          (run stream.noting Session.perform (monadLift clock) observer.noting plan)).run
          (⟨state, []⟩, world) = (outcome, (⟨after, steps⟩, seen)) ∧
      Conclusion stream clock observer plan state world outcome steps after later := by
  -- The plain run is, by definition, a course whose marks leave the state alone.
  let notes : Nat → Noted σ α → Noted σ α := fun iteration => Noted.note (.iterated iteration)
  cases validity : plan.validateFor α (stream.arraySize state) with
  | error failure =>
      rcases of_validateFor_error validity with ⟨cause, rfl⟩
      have notedInvalid : plan.validateFor α (stream.noting.arraySize ⟨state, []⟩) =
        .error (.invalidConfig cause) := validity
      exact ⟨_, [], state, world, world,
        course_run_of_invalid unmarked clock observer validity world,
        course_run_of_invalid notes clock observer notedInvalid world, .refused validity⟩
  | ok _ =>
      rcases makeRows_cases plan with ⟨made, few⟩ | ⟨unmade, large⟩
      · exact concludes_of_made clock observer world validity made few small
      · exact concludes_of_unmade clock observer world validity unmade large

end Conclusion

/-- Answers as many calls as the state says, and breaks at the next. -/
def wear {β : Type} (answer : β) : Procedure Abort Nat β
  | 0 => (.error (.failure (.deviceOperation (.other "worn out"))), 0)
  | left + 1 => (.ok answer, left)

/-- A stream of two elements that wears out. -/
def wearing : Interface Nat Rat where
  arraySize _ := 2
  residency _ := .standard
  blocks _ := 1
  device _ := ⟨0, "device", 1, 48⟩
  fill _ := wear ()
  read := Procedure.within Prod.fst (fun state left => (left, state.2)) (wear ())
  write _ := wear ()
  copy := wear ()
  mul := wear ()
  add := wear ()
  triad := wear ()
  nstream := wear ()
  dot := wear 0

/-- A stream that answers three calls lets two of three iterations complete. -/
theorem worn_out_in_third_iteration :
    let clock : StateM Nat Rat := fun now => (now, now + 1)
    let observer : Observer (StateM Nat) Rat := ⟨fun _ _ _ => pure (), fun _ => pure (),
      fun _ => pure ()⟩
    let plan : Plan Rat := ⟨3, .triadOnly, ⟨1, 2, 0⟩⟩
    4 * wearing.arraySize 3 * Element.bytes Rat < 2 ^ 63 ∧
      ∃ after later, Conclusion wearing clock observer plan 3 0
        (.error (.failure (.deviceOperation (.other "worn out"))))
        [.call (.fill ⟨1, 2, 0⟩), .call (.kernel .triad), .iterated 0, .call (.kernel .triad),
          .iterated 1, .call (.kernel .triad)] after later := by
  intro clock observer plan
  have small : 4 * wearing.arraySize 3 * Element.bytes Rat < 2 ^ 63 := by decide
  rcases run_follows_script wearing clock observer plan 3 0 small with
    ⟨outcome, steps, after, later, seen, -, noted, concluded⟩
  have valid : plan.validateFor Rat (wearing.noting.arraySize ⟨3, []⟩) = .ok () := by
    decide +kernel
  have stops : Stops wearing unmarked 3 (script plan (wearing.arraySize 3))
      [.call (.fill ⟨1, 2, 0⟩), .call (.kernel .triad), .iterated 0, .call (.kernel .triad),
        .iterated 1, .call (.kernel .triad)]
      (.failure (.deviceOperation (.other "worn out"))) 0 :=
    .call rfl (.call rfl (.iterated (.call rfl (.iterated (.here rfl)))))
  rcases course_run_of_stops (fun iteration => Noted.note (.iterated iteration)) clock observer
    valid rfl (stops.noting []) 0 with ⟨_, ran⟩
  have same := noted.symm.trans ran
  simp only [Prod.mk.injEq, Noted.mk.injEq, List.nil_append] at same
  rcases same with ⟨rfl, ⟨-, rfl⟩, -⟩
  exact ⟨small, after, later, concluded⟩

/-- A stream of two elements that answers every call. -/
def steady : Interface Unit Rat where
  arraySize _ := 2
  residency _ := .standard
  blocks _ := 1
  device _ := ⟨0, "device", 1, 48⟩
  fill _ := pure ()
  read := pure ()
  write _ := pure ()
  copy := pure ()
  mul := pure ()
  add := pure ()
  triad := pure ()
  nstream := pure ()
  dot := pure 0

theorem passes_steady (steps : List (Step Rat)) :
    ∃ answers, Passes steady unmarked () steps answers () := by
  induction steps with
  | nil => exact ⟨[], .nil ()⟩
  | cons step steps ih =>
      rcases ih with ⟨answers, rest⟩
      cases step with
      | iterated iteration => exact ⟨answers, .iterated rest⟩
      | call operation =>
          have performed : ∃ answer, (operation.perform steady).run () = (.ok answer, ()) := by
            cases operation with
            | kernel kernel => cases kernel <;> exact ⟨_, rfl⟩
            | _ => exact ⟨_, rfl⟩
          rcases performed with ⟨answer, performed⟩
          exact ⟨answer :: answers, .call performed rest⟩

/-- A plan whose iterations leave the values as they are is valid however many there are. -/
theorem validateFor_of_fixed {α δ : Type} [Measure δ] [Scalar α δ] {plan : Plan δ} {arraySize : Nat}
    (positive : 1 ≤ plan.iterations)
    (fixed : replayIteration plan.selection.kernels (plan.start : Triple α) = plan.start)
    (finite : Plan.isFinite plan.selection.kernels arraySize (plan.start : Triple α) = true) :
    plan.validateFor α arraySize = .ok () := by
  have stays : ∀ iterations, replay plan.selection.kernels iterations (plan.start : Triple α) =
      plan.start := by
    intro iterations
    induction iterations with
    | zero => rfl
    | succ iterations ih => rw [replay, fixed, ih]
  rw [Plan.validateFor_eq_ok_iff]
  refine ⟨positive, fun some _ _ => ?_⟩
  rw [← Plan.isFinite_replay_iff, stays]
  exact finite

/-- Of 2^60 iterations on zeros the stream would answer every call, and the run makes the first. -/
theorem steady_run_ends_after_fill :
    let clock : StateM Nat Rat := fun now => (now, now + 1)
    let observer : Observer (StateM Nat) Rat := ⟨fun _ _ _ => pure (), fun _ => pure (),
      fun _ => pure ()⟩
    let plan : Plan Rat := ⟨1152921504606846976, .triadOnly, ⟨0, 0, 0⟩⟩
    4 * steady.arraySize () * Element.bytes Rat < 2 ^ 63 ∧
      plan.validateFor Rat (steady.arraySize ()) = .ok () ∧
      (∃ answers, Passes steady unmarked () (script plan (steady.arraySize ())) answers ()) ∧
      ∃ later, (Session.inWorld
          (run steady.noting Session.perform (monadLift clock) observer.noting plan)).run
          (⟨(), []⟩, 0) =
        (.error (.fault .capacityOverflow), (⟨(), [.call (.fill ⟨0, 0, 0⟩)]⟩, later)) := by
  intro clock observer plan
  have valid : plan.validateFor Rat (steady.arraySize ()) = .ok () := by
    apply validateFor_of_fixed
    · decide
    · decide +kernel
    · decide +kernel
  have large : 2 ^ 63 ≤ 8 * 1152921504606846976 := by omega
  have unmade : makeRows plan = .error .capacityOverflow := by
    rcases makeRows_cases plan with ⟨-, few⟩ | ⟨unmade, -⟩
    · exact absurd few (Nat.not_lt.mpr large)
    · exact unmade
  have notedValid : plan.validateFor Rat (steady.noting.arraySize ⟨(), []⟩) = .ok () := valid
  have filled : ((Operation.fill plan.start).perform steady.noting).run ⟨(), []⟩ =
      (.ok .nothing, ⟨(), [.call (.fill ⟨0, 0, 0⟩)]⟩) :=
    notes_perform steady (.fill plan.start) () []
  have ran := course_run_of_unmade (fun iteration => Noted.note (.iterated iteration)) clock
    observer notedValid unmade filled 0
  exact ⟨by decide, valid, passes_steady _, 0, ran⟩

end Benchmark

end Bandwidth
