import Bandwidth.Proofs.Benchmark.Exact
import Bandwidth.Proofs.Benchmark.Iterations

/-!
# Runs and replays

A run on a stream does what the replay of its plan says. Its kernels succeed, its arrays stay
uniform, and what the run reports is what the plan expects; only the times are not known beforehand,
and the dot product is added up in the order of the stream. So a run that ends with a report passes
the check of its arrays, whatever was done with the stream before and whatever the clock says.
-/

namespace Bandwidth

namespace Benchmark

variable {κ α δ : Type} [Measure δ] [Scalar α δ] {stream : Stream α} (tell : Event → StateM κ Unit)

section

variable {m : Type → Type} [Monad m] {σ : Type} (interface : Interface σ α)
  (perform : {β : Type} → Procedure Abort σ β → m β) (observer : Observer m δ) (plan : Plan δ)

/-- What a run does before its kernels; the answer is the length of the arrays. -/
def prepare : m Nat := do
  let state ← perform Procedure.get
  perform (Procedure.ofExcept ((plan.validateFor α (interface.arraySize state)).mapError .failure))
  perform (interface.fill plan.start)
  perform (Procedure.ofExcept ((makeRows plan).mapError .fault))
  observer.started plan.selection.kernels.length plan.iterations (interface.arraySize state)
  return interface.arraySize state

def summariesOf (arraySize : Nat) (rows : Array (List δ)) : Checked (List (Summary δ)) :=
  plan.selection.kernels.zipIdx.mapM fun (kernel, place) =>
    summarise (α := α) arraySize rows kernel place

/-- What a run does after its kernels. -/
def conclude (arraySize : Nat) (rows : Array (List δ)) (dot : Option α) : m (Report α δ) := do
  let blank := Array.replicate arraySize Element.zero
  let arrays ← perform (interface.readInto ⟨blank, blank, blank⟩)
  let summaries ← perform
      (Procedure.ofExcept ((summariesOf (α := α) plan arraySize rows).mapError .fault))
  summaries.forM observer.summarised
  let state ← perform Procedure.get
  return ⟨interface.device state, Element.precision α, arraySize, interface.residency state,
    plan.iterations, plan.selection, summaries, arrays, dot⟩

theorem run_eq [LawfulMonad m] (clock : m δ) :
    run interface perform clock observer plan = (do
      let arraySize ← prepare interface perform observer plan
      let (rows, dot) ← runIterations interface perform clock observer plan.selection.kernels
        plan.iterations 0 #[] none
      conclude interface perform observer plan arraySize rows dot) := by
  simp only [run, prepare, conclude, summariesOf, bind_assoc, pure_bind]

end

variable (clock : StateM κ δ) (observer : Observer (StateM κ) δ)

section

variable (plan : Plan δ)

def prepareInWorld : Procedure Abort (Logged (Stream α) × κ) Nat :=
  Session.inWorld (prepare Stream.interface (Session.performTelling tell) observer.lift plan)

def concludeInWorld (arraySize : Nat) (rows : Array (List δ)) (dot : Option α) :
    Procedure Abort (Logged (Stream α) × κ) (Report α δ) :=
  Session.inWorld (conclude Stream.interface (Session.performTelling tell) observer.lift plan
    arraySize rows dot)

theorem runInWorld_eq :
    (runInWorld tell clock observer plan : Procedure Abort (Logged (Stream α) × κ) _) = (do
      let arraySize ← prepareInWorld tell observer plan
      let (rows, dot) ← iterationsInWorld tell clock observer plan.selection plan.iterations 0 #[]
        none
      concludeInWorld tell observer plan arraySize rows dot) := by
  rw [runInWorld, run_eq, Session.inWorld_bind]
  apply congrArg (prepareInWorld tell observer plan >>= ·)
  funext arraySize
  exact Session.inWorld_bind _ _

end

variable {plan : Plan δ}

section

variable {σ : Type} {arraySize : Nat}

theorem validation_run (valid : plan.validateFor α arraySize = .ok ()) (state : σ) :
    (Procedure.ofExcept ((plan.validateFor α arraySize).mapError .failure) :
      Procedure Abort σ Unit).run state = (.ok (), state) := by
  rw [valid]
  rfl

theorem validation_run_of_error {failure : Failure}
    (invalid : plan.validateFor α arraySize = .error failure) (state : σ) :
    (Procedure.ofExcept ((plan.validateFor α arraySize).mapError .failure) :
      Procedure Abort σ Unit).run state = (.error (.failure failure), state) := by
  rw [invalid]
  rfl

omit [Measure δ] in
/-- The rows are made, or they would have 2^63 bytes or more. -/
theorem makeRows_cases (plan : Plan δ) :
    (makeRows plan = .ok () ∧ 8 * plan.iterations < 2 ^ 63) ∨
      (makeRows plan = .error .capacityOverflow ∧ 2 ^ 63 ≤ 8 * plan.iterations) := by
  unfold makeRows Word.checkObject Word.greatestObject timeBytes
  by_cases fits : plan.iterations * 8 ≤ 9223372036854775807
  · exact .inl ⟨if_pos fits, by omega⟩
  · exact .inr ⟨if_neg fits, by omega⟩

omit [Measure δ] in
theorem makeRows_run (made : makeRows plan = .ok ()) (state : σ) :
    (Procedure.ofExcept ((makeRows plan).mapError .fault) : Procedure Abort σ Unit).run state =
      (.ok (), state) := by
  rw [made]
  rfl

omit [Measure δ] in
theorem makeRows_run_of_error {fault : Fault} (unmade : makeRows plan = .error fault) (state : σ) :
    (Procedure.ofExcept ((makeRows plan).mapError .fault) : Procedure Abort σ Unit).run state =
      (.error (.fault fault), state) := by
  rw [unmade]
  rfl

end

/-- A valid plan makes a run fill the arrays, and go on if there are rows for its times. -/
theorem prepareInWorld_run (sound : stream.Sound)
    (valid : plan.validateFor α stream.arraySize = .ok ()) (made : makeRows plan = .ok ())
    (log : Array Event) (world : κ) :
    ∃ filled told later,
      (prepareInWorld tell observer plan).run (⟨stream, log⟩, world) =
          (.ok stream.arraySize, (⟨filled, told⟩, later)) ∧
        stream.Follows filled ∧
          filled.lists = (plan.start : Triple α).uniform stream.arraySize := by
  have got := Procedure.get_run (ε := Abort) (⟨stream, #[]⟩ : Logged (Stream α))
  have accepted := validation_run valid (⟨stream, #[]⟩ : Logged (Stream α))
  rcases Stream.elementwise_refines sound (.fill plan.start) #[] with
    ⟨filled, told, ran, follows, lists⟩
  rw [Elementwise.onLists_fill_uniform stream.arraySize plan.start sound.a_size] at lists
  rcases Session.performTelling_bind_run log world tell got with ⟨looked, look⟩
  rcases Session.performTelling_bind_run #[] looked tell accepted with ⟨checked, check⟩
  rcases Session.performTelling_bind_run #[] checked tell ran with ⟨later, fill⟩
  rcases Session.performTelling_bind_run told later tell
    (makeRows_run made (⟨filled, #[]⟩ : Logged (Stream α))) with ⟨rowed, rows⟩
  refine ⟨filled, #[], ((observer.started plan.selection.kernels.length plan.iterations
    stream.arraySize).run rowed).2, ?_, follows, lists⟩
  rw [prepareInWorld, prepare, look]
  apply Eq.trans (check _)
  rw [Stream.interface_fill, fill]
  apply Eq.trans (rows _)
  rw [Observer.lift]
  exact Session.monadLift_bind_run _ _ _ _

theorem prepareInWorld_run_of_unmade (sound : stream.Sound)
    (valid : plan.validateFor α stream.arraySize = .ok ()) {fault : Fault}
    (unmade : makeRows plan = .error fault) (log : Array Event) (world : κ) :
    ∃ after, (prepareInWorld tell observer plan).run (⟨stream, log⟩, world) =
      (.error (.fault fault), after) := by
  have got := Procedure.get_run (ε := Abort) (⟨stream, #[]⟩ : Logged (Stream α))
  have accepted := validation_run valid (⟨stream, #[]⟩ : Logged (Stream α))
  rcases Stream.elementwise_refines sound (.fill plan.start) #[] with ⟨filled, told, ran, -, -⟩
  rcases Session.performTelling_bind_run log world tell got with ⟨looked, look⟩
  rcases Session.performTelling_bind_run #[] looked tell accepted with ⟨checked, check⟩
  rcases Session.performTelling_bind_run #[] checked tell ran with ⟨later, fill⟩
  rcases Session.performTelling_bind_run_of_error told later tell
    (makeRows_run_of_error unmade (⟨filled, #[]⟩ : Logged (Stream α))) with ⟨last, stopped⟩
  refine ⟨(⟨filled, #[]⟩, last), ?_⟩
  rw [prepareInWorld, prepare, look]
  apply Eq.trans (check _)
  rw [Stream.interface_fill, fill]
  exact stopped _

theorem prepareInWorld_run_of_error {failure : Failure}
    (invalid : plan.validateFor α stream.arraySize = .error failure) (log : Array Event)
    (world : κ) :
    ∃ later,
      (prepareInWorld tell observer plan).run (⟨stream, log⟩, world) =
        (.error (.failure failure), (⟨stream, #[]⟩, later)) := by
  have got := Procedure.get_run (ε := Abort) (⟨stream, #[]⟩ : Logged (Stream α))
  have refused := validation_run_of_error invalid (⟨stream, #[]⟩ : Logged (Stream α))
  rcases Session.performTelling_bind_run log world tell got with ⟨looked, look⟩
  rcases Session.performTelling_bind_run_of_error #[] looked tell refused with ⟨later, check⟩
  refine ⟨later, ?_⟩
  rw [prepareInWorld, prepare, look]
  exact check _

/-- A run ends with what the arrays hold, if its traffic can be counted. -/
theorem concludeInWorld_run (sound : stream.Sound) (rows : Array (List δ)) (dot : Option α)
    (log : Array Event) (world : κ) :
    ∃ after,
      (concludeInWorld tell observer plan stream.arraySize rows dot).run (⟨stream, log⟩, world) =
        (((summariesOf (α := α) plan stream.arraySize rows).mapError .fault).map fun summaries =>
          ⟨stream.device.description, Element.precision α, stream.arraySize, stream.residency,
            plan.iterations, plan.selection, summaries, stream.arrays.map Buffer.contents, dot⟩,
          after) := by
  let blank : Array α := Array.replicate stream.arraySize Element.zero
  have sizes : (⟨blank, blank, blank⟩ : Triple (Array α)).map Array.size =
      ⟨stream.arraySize, stream.arraySize, stream.arraySize⟩ := by
    simp [Triple.map, blank]
  rcases Stream.readInto_run sound sizes #[] with ⟨told, ran⟩
  rcases Session.performTelling_bind_run log world tell ran with ⟨later, read⟩
  generalize leftEq : { stream with device := stream.device.idle } = left at read
  have counted := fun outcome : Except Abort (List (Summary δ)) =>
    Procedure.ofExcept_run outcome (⟨left, #[]⟩ : Logged (Stream α))
  rw [concludeInWorld, conclude, read]
  cases summariesOf (α := α) plan stream.arraySize rows with
  | error fault =>
      rcases Session.performTelling_bind_run_of_error told later tell
        (counted (.error (.fault fault))) with ⟨last, stopped⟩
      exact ⟨_, stopped _⟩
  | ok summaries =>
      have got := Procedure.get_run (ε := Abort) (⟨left, #[]⟩ : Logged (Stream α))
      rcases Session.performTelling_bind_run told later tell (counted (.ok summaries)) with
        ⟨summarised, summarise⟩
      rcases Session.inWorld_forM_run observer.summarised summaries
        (⟨left, #[]⟩ : Logged (Stream α)) summarised with ⟨watched, watch⟩
      rcases Session.performTelling_bind_run #[] watched tell got with ⟨last, look⟩
      refine ⟨(⟨left, #[]⟩, last), ?_⟩
      apply Eq.trans (summarise _)
      rw [Session.inWorld_bind]
      apply Eq.trans (Procedure.bind_run_of_ok watch _)
      rw [look]
      subst leftEq
      rfl

/-- What a run on a stream reports, but for the times of its kernels. -/
def expectedReport (stream : Stream α) (plan : Plan δ) (summaries : List (Summary δ)) :
    Report α δ where
  device := stream.device.description
  precision := Element.precision α
  arraySize := stream.arraySize
  residency := stream.residency
  iterations := plan.iterations
  selection := plan.selection
  summaries := summaries
  arrays :=
    (plan.expected stream.arraySize : Expected α).arrays.map (Array.replicate stream.arraySize)
  dot := plan.selection.result stream.blocks
    ((plan.expected stream.arraySize : Expected α).arrays.uniform stream.arraySize)

omit [Measure δ] [Scalar α δ] in
theorem arrays_of_lists {values : Triple α} {length : Nat}
    (uniform : stream.lists = values.uniform length) :
    stream.arrays.map Buffer.contents = values.map (Array.replicate length) := by
  have contents : stream.arrays.map Buffer.contents = stream.lists.map List.toArray := rfl
  rw [contents, uniform]
  simp [Triple.uniform, Triple.map]

/-- A run by a valid plan reports what is expected, if its traffic can be counted. -/
theorem runInWorld_run (sound : stream.Sound) (valid : plan.validateFor α stream.arraySize = .ok ())
    (made : makeRows plan = .ok ())
    (fits : plan.selection = .all → stream.blocks * standardGroup < Word.bound) (log : Array Event)
    (world : κ) :
    ∃ rows after,
      (runInWorld tell clock observer plan).run (⟨stream, log⟩, world) =
        (((summariesOf (α := α) plan stream.arraySize rows).mapError .fault).map
          (expectedReport stream plan), after) := by
  rcases prepareInWorld_run tell observer sound valid made log world with
    ⟨filled, told, started, prepared, fillFollows, fillLists⟩
  have uniform : filled.lists = (plan.start : Triple α).uniform filled.arraySize := by
    rw [fillLists, fillFollows.arraySize_eq]
  rcases iterationsInWorld_run tell clock observer plan.selection fillFollows.sound
      (fun isAll => fillFollows.blocks_eq ▸ fits isAll) uniform (fun _ => rfl) plan.iterations 0
      #[] told started with
    ⟨rows, left, toldLater, ended, iterated, leftFollows, leftLists⟩
  have follows := fillFollows.trans leftFollows
  have arrays : left.arrays.map Buffer.contents =
      (plan.expected stream.arraySize : Expected α).arrays.map
        (Array.replicate stream.arraySize) := by
    rw [fillFollows.arraySize_eq] at leftLists
    exact arrays_of_lists leftLists
  rcases concludeInWorld_run tell observer follows.sound rows
      (plan.selection.result stream.blocks
        ((plan.expected stream.arraySize : Expected α).arrays.uniform stream.arraySize))
      toldLater ended with ⟨after, concluded⟩
  refine ⟨rows, after, ?_⟩
  rw [runInWorld_eq, Procedure.bind_run_of_ok prepared, Procedure.bind_run_of_ok iterated]
  rw [if_neg (Plan.of_validateFor_eq_ok valid).1, leftLists, fillFollows.arraySize_eq,
    fillFollows.blocks_eq]
  rw [follows.arraySize_eq] at concluded
  apply Eq.trans concluded
  rw [follows.description_eq, follows.residency_eq, arrays]
  rfl

theorem runInWorld_run_of_unfit (sound : stream.Sound)
    (valid : plan.validateFor α stream.arraySize = .ok ()) (made : makeRows plan = .ok ())
    (isAll : plan.selection = .all)
    (unfit : ¬ stream.blocks * standardGroup < Word.bound) (log : Array Event) (world : κ) :
    ∃ reason after,
      (runInWorld tell clock observer plan : Procedure Abort (Logged (Stream α) × κ) _).run
        (⟨stream, log⟩, world) = (.error reason, after) := by
  rcases prepareInWorld_run tell observer sound valid made log world with
    ⟨filled, told, started, prepared, follows, _⟩
  rcases iterationsInWorld_run_of_unfit tell clock observer plan.selection follows.sound isAll
      (follows.blocks_eq ▸ unfit) none (Plan.of_validateFor_eq_ok valid).1 0 #[] told started with
    ⟨reason, after, stopped⟩
  refine ⟨reason, after, ?_⟩
  rw [runInWorld_eq, Procedure.bind_run_of_ok prepared, Procedure.bind_run_of_error stopped]

/-- A run that reports anything was by a valid plan, and reports what is expected. -/
theorem of_runInWorld_run_ok (sound : stream.Sound) {log : Array Event} {world : κ}
    {report : Report α δ} {after : Logged (Stream α) × κ}
    (ran : (runInWorld tell clock observer plan).run (⟨stream, log⟩, world) = (.ok report, after)) :
    plan.validateFor α stream.arraySize = .ok () ∧
      ∃ summaries, report = expectedReport stream plan summaries := by
  cases valid : plan.validateFor α stream.arraySize with
  | error failure =>
      rcases prepareInWorld_run_of_error tell observer valid log world with ⟨later, refused⟩
      rw [runInWorld_eq, Procedure.bind_run_of_error refused] at ran
      simp at ran
  | ok accepted =>
      refine ⟨rfl, ?_⟩
      rcases makeRows_cases plan with ⟨made, -⟩ | ⟨unmade, -⟩
      swap
      · rcases prepareInWorld_run_of_unmade tell observer sound valid unmade log world with
          ⟨left, stopped⟩
        rw [runInWorld_eq, Procedure.bind_run_of_error stopped] at ran
        simp at ran
      by_cases fits : plan.selection = .all → stream.blocks * standardGroup < Word.bound
      · rcases runInWorld_run tell clock observer sound valid made fits log world with
          ⟨rows, left, equal⟩
        rw [ran] at equal
        cases counted : summariesOf (α := α) plan stream.arraySize rows with
        | error fault => simp [counted, Except.mapError, Except.map] at equal
        | ok summaries =>
            refine ⟨summaries, ?_⟩
            simpa [counted, Except.mapError, Except.map] using (Prod.mk.inj equal).1
      · rcases Classical.not_imp.mp fits with ⟨isAll, unfit⟩
        rcases runInWorld_run_of_unfit tell clock observer sound valid made isAll unfit log world with
          ⟨reason, left, stopped⟩
        rw [ran] at stopped
        simp at stopped

section

variable (summaries : List (Summary δ))

theorem arrayErrors_expectedReport (sound : stream.Sound)
    (valid : plan.validateFor α stream.arraySize = .ok ()) (rules : Measure.Rules δ) :
    (Verdict.ofReport (expectedReport stream plan summaries) plan).arrayErrors =
      ⟨Measure.zero, Measure.zero, Measure.zero⟩ := by
  have finite := (Plan.of_validateFor_eq_ok valid).2
  simp only [Plan.isFinite, Bool.and_eq_true] at finite
  exact Verdict.arrayErrors_eq_zero rules sound.size_pos sound.isWord finite.1 rfl

theorem dot_expectedReport {N : Type} [CommSemiring N] {value : α → N} {measured : δ → N}
    (exact : Scalar.Exact value measured) (sound : stream.Sound) (isAll : plan.selection = .all) :
    (expectedReport stream plan summaries).dot =
      some (plan.expected stream.arraySize : Expected α).dot := by
  simp only [expectedReport, isAll, Selection.result]
  exact congrArg some (Plan.uniformDot_eq_listSum exact sound.blocks_pos sound.isWord _)

/-- In exact arithmetic an expected report passes every check. -/
theorem passed_expectedReport {N : Type} [CommSemiring N] {value : α → N} {measured : δ → N}
    (exact : Scalar.Exact value measured) (rules : Scalar.Rules α δ) (sound : stream.Sound)
    (valid : plan.validateFor α stream.arraySize = .ok ()) :
    (Verdict.ofReport (expectedReport stream plan summaries) plan).passed = true := by
  apply Verdict.passed_of_exact rules
      (arrayErrors_expectedReport summaries sound valid rules.toRules)
  intro error found
  by_cases isAll : plan.selection = .all
  · have finite := (Plan.of_validateFor_eq_ok valid).2
    have dotMem : plan.selection.kernels.contains .dot = true := by
      rw [isAll]
      rfl
    simp only [Plan.isFinite, dotMem, Bool.not_true, Bool.false_or, Bool.and_eq_true] at finite
    have dot := dot_expectedReport summaries exact sound isAll
    simp only [Verdict.ofReport, dot, Option.map_some, Option.some.injEq] at found
    rw [← found]
    exact Verdict.dotErrorOf_self rules.toRules finite.2
  · have none : (expectedReport stream plan summaries).dot = none :=
      Selection.result_eq_none isAll _ _
    simp [Verdict.ofReport, none] at found

end

/--
The replay of a plan simulates its run, on a stream that was used in whatever way before. Kernels
keep filled arrays uniform, with the values of the replay. So if a run reports anything, its arrays
hold what the plan expects and have no errors; and in exact arithmetic the dot product is the
expected one and every check succeeds.
-/
theorem reports_match_replay {platform : Platform} {config : StreamConfig}
    (reachable : stream.Reachable platform config) :
    (stream.device.description.units < 2 ^ 52 →
      ∀ (values : Triple α) (kernels : List Kernel) (log : Array Event),
      ∃ answers after told,
        (Operation.performAll Stream.interface (.fill values :: kernels.map .kernel)).run
            ⟨stream, log⟩ = (.ok answers, ⟨after, told⟩) ∧
          after.lists = (replayIteration kernels values).uniform config.arraySize) ∧
    ∀ (plan : Plan δ) (log : Array Event) (world : κ) (report : Report α δ)
      (after : Logged (Stream α) × κ),
      (runInWorld tell clock observer plan).run (⟨stream, log⟩, world) = (.ok report, after) →
        let expected : Expected α := plan.expected config.arraySize
        let verdict := Verdict.ofReport report plan
        report.arrays = expected.arrays.map (Array.replicate config.arraySize) ∧
        (Scalar.Rules α δ → verdict.arrayErrors = ⟨Measure.zero, Measure.zero, Measure.zero⟩ ∧
          ∀ role error, .array role error ∉ verdict.shortfalls) ∧
        ∀ {N : Type} [CommSemiring N] (value : α → N) (measured : δ → N),
          Scalar.Exact value measured →
          (plan.selection = .all → report.dot = some expected.dot) ∧
            (Scalar.Rules α δ → verdict.passed = true) := by
  rcases reachable.sound with ⟨sound, size_eq, units_pos⟩
  refine ⟨?_, ?_⟩
  · intro few values kernels log
    have fits : 4 * stream.device.description.units * 1024 < Word.bound := by
      simp only [Word.bound]
      omega
    have sized : ∀ operation ∈ Operation.fill values :: kernels.map .kernel,
        operation.Sized stream.arraySize := by
      intro operation operationMem
      rcases List.mem_cons.mp operationMem with rfl | later
      · trivial
      · rcases List.mem_map.mp later with ⟨kernel, _, rfl⟩
        trivial
    rcases Stream.performs_refine sound (sound.blocks_fit units_pos fits) sized log with
      ⟨after, told, ran, _, lists⟩
    refine ⟨_, after, told, ran, ?_⟩
    rw [lists, ← size_eq]
    exact Operation.listsAfter_fill_kernels stream.arraySize values sound.a_size kernels
  · intro plan log world report after ran expected verdict
    rcases of_runInWorld_run_ok tell clock observer sound ran with ⟨valid, summaries, rfl⟩
    have expectedEq : expected = plan.expected stream.arraySize := by rw [size_eq]
    refine ⟨?_, ?_, ?_⟩
    · rw [expectedEq, ← size_eq]
      rfl
    · intro rules
      have exact := arrayErrors_expectedReport summaries sound valid rules.toRules
      exact ⟨exact, Verdict.array_not_mem_shortfalls rules exact⟩
    · intro N _ value measured exact
      refine ⟨?_, fun rules => passed_expectedReport summaries exact rules sound valid⟩
      intro isAll
      rw [expectedEq]
      exact dot_expectedReport summaries exact sound isAll

/-- A clock that ticks once each time it is read. -/
def tickingClock : StateM Rat Rat := fun time => (time, time + 1)

def quietObserver : Observer (StateM Rat) Rat where
  started _ _ _ := pure ()
  iterated _ := pure ()
  summarised _ := pure ()

/-- One iteration of the classic kernels on three rational numbers each. -/
theorem reports_match_replay_on_three_rationals :
    let plan : Plan Rat := ⟨1, .all, ⟨1, 2, 0⟩⟩
    ∃ (stream : Stream Rat) (created : Logged Unit),
      (Stream.create .sequential ⟨3, 0, .managed⟩).run ⟨(), #[]⟩ = (.ok stream, created) ∧
      (∃ answers after told,
        (Operation.performAll Stream.interface [.fill ⟨1, 2, 0⟩, .kernel .nstream]).run
            ⟨stream, #[]⟩ = (.ok answers, ⟨after, told⟩) ∧
          after.lists = ⟨[3, 3, 3], [2, 2, 2], [0, 0, 0]⟩) ∧
      ∃ (report : Report Rat Rat) (after : Logged (Stream Rat) × Rat),
        (runInWorld (fun _ => pure ()) tickingClock quietObserver plan).run (⟨stream, #[]⟩, 0) =
            (.ok report, after) ∧
          report.arrays = ⟨#[15, 15, 15], #[3, 3, 3], #[4, 4, 4]⟩ ∧ report.dot = some 135 ∧
          (Verdict.ofReport report plan).passed = true := by
  intro plan
  have made : ∃ (stream : Stream Rat) (created : Logged Unit),
      (Stream.create .sequential ⟨3, 0, .managed⟩).run ⟨(), #[]⟩ = (.ok stream, created) ∧
        stream.device.description.units = 1 ∧ stream.arraySize = 3 ∧ stream.blocks = 4 :=
    ⟨_, _, rfl, rfl, rfl, rfl⟩
  rcases made with ⟨stream, created, made, units, size, blocks⟩
  have reachable : stream.Reachable .sequential ⟨3, 0, .managed⟩ := .created made
  have few : plan.finiteIterations Rat 3 = 1 := by decide +kernel
  have valid : plan.validateFor Rat stream.arraySize = .ok () := by
    simp [Plan.validateFor, Plan.validate, size, few, plan]
  have fits : plan.selection = .all → stream.blocks * standardGroup < Word.bound := by
    intro _
    rw [blocks]
    decide
  rcases runInWorld_run (fun _ => pure ()) tickingClock quietObserver reachable.sound.1 valid rfl
    fits #[] 0 with ⟨rows, after, ran⟩
  have counted : ∃ summaries,
      summariesOf (α := Rat) plan stream.arraySize rows = .ok summaries := by
    rw [size]
    exact ⟨_, rfl⟩
  rcases counted with ⟨summaries, counted⟩
  rw [counted] at ran
  rcases reports_match_replay (fun _ => pure ()) tickingClock quietObserver reachable with
    ⟨kernels, reports⟩
  rcases reports plan #[] 0 _ after ran with ⟨arrays, _, exact⟩
  rcases exact id id Scalar.exact_rat with ⟨dot, passed⟩
  have arraysEq : (plan.expected 3 : Expected Rat).arrays = ⟨15, 3, 4⟩ := by decide +kernel
  have dotEq : (plan.expected 3 : Expected Rat).dot = 135 := by decide +kernel
  refine ⟨stream, created, made, ?_, _, after, ran, ?_, ?_, passed Scalar.rules_rat⟩
  · rcases kernels (by omega) ⟨1, 2, 0⟩ [.nstream] #[] with ⟨answers, after, told, performed, lists⟩
    refine ⟨answers, after, told, performed, ?_⟩
    have values : replayIteration [.nstream] (⟨1, 2, 0⟩ : Triple Rat) =
        ⟨3, 2, 0⟩ := by decide +kernel
    rw [lists, values]
    rfl
  · rw [arrays, arraysEq]
    rfl
  · rw [dot rfl, dotEq]

end Benchmark

end Bandwidth
