import Bandwidth.Benchmark.Plan
import Bandwidth.Proofs.Procedure
import Bandwidth.Proofs.Stream.Lists

/-!
# Scripts

A plan prescribes what a run does to a stream, call by call, and when it announces that an iteration
is complete. A stream follows such a script until one of the calls fails, and whether it does is a
matter of the stream alone. To see which calls a run makes, the stream is wrapped in one that notes
each call before it answers, and is told of the iterations.
-/

namespace Bandwidth

/-- The result of a kernel, if the answer is that of the dot product. -/
def Answer.result? {α : Type} : Answer α → Option α
  | .result value => value
  | _ => none

/-- The last result among some answers, or else one from before. -/
def Answer.lastResult {α : Type} (answers : List (Answer α)) (before : Option α) : Option α :=
  answers.foldl (fun last answer => answer.result? <|> last) before

namespace Benchmark

/-- What can be seen of a run: a call that can change the stream, or that an iteration is
complete. -/
inductive Step (α : Type) where
  | call (operation : Operation α)
  | iterated (iteration : Nat)

section

variable {α : Type}

def kernelSteps (kernels : List Kernel) : List (Step α) :=
  kernels.map fun kernel => .call (.kernel kernel)

def iterationSteps (kernels : List Kernel) (iteration : Nat) : List (Step α) :=
  kernelSteps kernels ++ [.iterated iteration]

/-- The arrays are filled, the kernels are run in order in each iteration, and the arrays are read
into arrays of their length. -/
def script {δ : Type} [Measure δ] [Scalar α δ] (plan : Plan δ) (arraySize : Nat) :
    List (Step α) :=
  let blank := List.replicate arraySize Element.zero
  .call (.fill plan.start) ::
    ((List.range plan.iterations).flatMap (iterationSteps plan.selection.kernels) ++
      [.call (.read ⟨blank, blank, blank⟩)])

end

variable {σ α : Type} (stream : Interface σ α) (mark : Nat → σ → σ)

/-- A stream takes some steps without failing. What it does when an iteration is announced is up to
the mark that this leaves on its state. -/
inductive Passes : σ → List (Step α) → List (Answer α) → σ → Prop
  | nil (state : σ) : Passes state [] [] state
  | call {state between after : σ} {operation : Operation α} {answer : Answer α}
      {steps : List (Step α)} {answers : List (Answer α)}
      (performed : (operation.perform stream).run state = (.ok answer, between))
      (rest : Passes between steps answers after) :
      Passes state (.call operation :: steps) (answer :: answers) after
  | iterated {state after : σ} {iteration : Nat} {steps : List (Step α)}
      {answers : List (Answer α)} (rest : Passes (mark iteration state) steps answers after) :
      Passes state (.iterated iteration :: steps) answers after

/-- A stream takes some steps until a call fails, which is the last that it takes. -/
inductive Stops : σ → List (Step α) → List (Step α) → Abort → σ → Prop
  | here {state after : σ} {operation : Operation α} {steps : List (Step α)} {reason : Abort}
      (failed : (operation.perform stream).run state = (.error reason, after)) :
      Stops state (.call operation :: steps) [.call operation] reason after
  | call {state between after : σ} {operation : Operation α} {answer : Answer α}
      {steps taken : List (Step α)} {reason : Abort}
      (performed : (operation.perform stream).run state = (.ok answer, between))
      (rest : Stops between steps taken reason after) :
      Stops state (.call operation :: steps) (.call operation :: taken) reason after
  | iterated {state after : σ} {iteration : Nat} {steps taken : List (Step α)} {reason : Abort}
      (rest : Stops (mark iteration state) steps taken reason after) :
      Stops state (.iterated iteration :: steps) (.iterated iteration :: taken) reason after

variable {stream mark} {state after : σ} {first second taken : List (Step α)}
  {answers : List (Answer α)} {reason : Abort}

theorem passes_or_stops (stream : Interface σ α) (mark : Nat → σ → σ) (state : σ)
    (steps : List (Step α)) :
    (∃ answers after, Passes stream mark state steps answers after) ∨
      ∃ taken reason after, Stops stream mark state steps taken reason after := by
  induction steps generalizing state with
  | nil => exact .inl ⟨[], state, .nil state⟩
  | cons step steps ih =>
      cases step with
      | call operation =>
          rcases performed : (operation.perform stream).run state with ⟨reason | answer, between⟩
          · exact .inr ⟨_, reason, between, .here performed⟩
          · rcases ih between with ⟨answers, after, rest⟩ | ⟨taken, reason, after, rest⟩
            · exact .inl ⟨_, after, .call performed rest⟩
            · exact .inr ⟨_, reason, after, .call performed rest⟩
      | iterated iteration =>
          rcases ih (mark iteration state) with ⟨answers, after, rest⟩ | ⟨taken, reason, after, rest⟩
          · exact .inl ⟨answers, after, .iterated rest⟩
          · exact .inr ⟨_, reason, after, .iterated rest⟩

theorem Passes.of_append (passes : Passes stream mark state (first ++ second) answers after) :
    ∃ some more between, answers = some ++ more ∧ Passes stream mark state first some between ∧
      Passes stream mark between second more after := by
  induction first generalizing state answers with
  | nil => exact ⟨[], answers, state, rfl, .nil state, passes⟩
  | cons step first ih =>
      cases passes with
      | call performed rest =>
          rcases ih rest with ⟨some, more, between, rfl, passed, later⟩
          exact ⟨_ :: some, more, between, rfl, .call performed passed, later⟩
      | iterated rest =>
          rcases ih rest with ⟨some, more, between, rfl, passed, later⟩
          exact ⟨some, more, between, rfl, .iterated passed, later⟩

theorem Stops.of_append (stops : Stops stream mark state (first ++ second) taken reason after) :
    Stops stream mark state first taken reason after ∨
      ∃ answers between later, Passes stream mark state first answers between ∧
        Stops stream mark between second later reason after ∧ taken = first ++ later := by
  induction first generalizing state taken with
  | nil => exact .inr ⟨[], state, taken, .nil state, stops, rfl⟩
  | cons step first ih =>
      cases stops with
      | here failed => exact .inl (.here failed)
      | call performed rest =>
          rcases ih rest with stopped | ⟨answers, between, later, passed, stopped, rfl⟩
          · exact .inl (.call performed stopped)
          · exact .inr ⟨_, between, later, .call performed passed, stopped, rfl⟩
      | iterated rest =>
          rcases ih rest with stopped | ⟨answers, between, later, passed, stopped, rfl⟩
          · exact .inl (.iterated stopped)
          · exact .inr ⟨answers, between, later, .iterated passed, stopped, rfl⟩

/-- Where a stream stops, all steps before have passed. -/
theorem Stops.split {steps : List (Step α)}
    (stops : Stops stream mark state steps taken reason after) :
    ∃ passed operation rest answers between,
      steps = passed ++ .call operation :: rest ∧ taken = passed ++ [.call operation] ∧
        Passes stream mark state passed answers between ∧
        (operation.perform stream).run between = (.error reason, after) := by
  induction stops with
  | here failed => exact ⟨[], _, _, [], _, rfl, rfl, .nil _, failed⟩
  | call performed _ ih =>
      rcases ih with ⟨passed, operation, rest, answers, between, rfl, rfl, passes, failed⟩
      exact ⟨_ :: passed, operation, rest, _, between, rfl, rfl, .call performed passes, failed⟩
  | iterated _ ih =>
      rcases ih with ⟨passed, operation, rest, answers, between, rfl, rfl, passes, failed⟩
      exact ⟨_ :: passed, operation, rest, answers, between, rfl, rfl, .iterated passes, failed⟩

/-- A state with the steps that led to it. -/
structure Noted (σ α : Type) where
  state : σ
  steps : List (Step α)

namespace Noted

def note (step : Step α) (noted : Noted σ α) : Noted σ α :=
  { noted with steps := noted.steps ++ [step] }

/-- Passes a call on and notes it, whether or not it fails. -/
def passing {β : Type} (operation : Operation α) (procedure : Procedure Abort σ β) :
    Procedure Abort (Noted σ α) β := fun noted =>
  match procedure.run noted.state with
  | (outcome, after) => (outcome, note (.call operation) { noted with state := after })

end Noted

end Benchmark

open Benchmark in
/-- A stream that notes every call that can change it. -/
def Interface.noting {σ α : Type} (stream : Interface σ α) : Interface (Noted σ α) α where
  arraySize := fun noted => stream.arraySize noted.state
  residency := fun noted => stream.residency noted.state
  blocks := fun noted => stream.blocks noted.state
  device := fun noted => stream.device noted.state
  fill := fun values => Noted.passing (.fill values) (stream.fill values)
  read := fun (noted, host) =>
    match stream.read.run (noted.state, host) with
    | (outcome, (after, filled)) =>
        (outcome,
          (Noted.note (.call (.read (host.map Array.toList))) { noted with state := after }, filled))
  write := fun source => Noted.passing (.write (source.map Array.toList)) (stream.write source)
  copy := Noted.passing (.kernel .copy) stream.copy
  mul := Noted.passing (.kernel .mul) stream.mul
  add := Noted.passing (.kernel .add) stream.add
  triad := Noted.passing (.kernel .triad) stream.triad
  nstream := Noted.passing (.kernel .nstream) stream.nstream
  dot := Noted.passing (.kernel .dot) stream.dot

namespace Benchmark

variable {σ α : Type} {stream : Interface σ α} {steps taken : List (Step α)}
  {answers : List (Answer α)} {reason : Abort}

/-- A procedure that does what another does, and notes one call. -/
def Notes {β : Type} (operation : Operation α) (procedure : Procedure Abort σ β)
    (noting : Procedure Abort (Noted σ α) β) : Prop :=
  ∀ state before, noting.run ⟨state, before⟩ =
    ((procedure.run state).1, ⟨(procedure.run state).2, before ++ [.call operation]⟩)

theorem notes_passing {β : Type} (operation : Operation α) (procedure : Procedure Abort σ β) :
    Notes operation procedure (Noted.passing operation procedure) :=
  fun _ _ => rfl

theorem Notes.answering {β γ : Type} {operation : Operation α} {procedure : Procedure Abort σ β}
    {noting : Procedure Abort (Noted σ α) β} (notes : Notes operation procedure noting)
    (answer : β → γ) :
    Notes operation (do let value ← procedure; return answer value)
      (do let value ← noting; return answer value) := by
  intro state before
  rw [Procedure.bind_run, Procedure.bind_run, notes state before]
  rcases procedure.run state with ⟨reason | value, after⟩ <;> rfl

theorem notes_runKernel (kernel : Kernel) :
    Notes (.kernel kernel) (stream.runKernel kernel) (stream.noting.runKernel kernel) := by
  cases kernel with
  | copy => exact (notes_passing (.kernel .copy) stream.copy).answering _
  | mul => exact (notes_passing (.kernel .mul) stream.mul).answering _
  | add => exact (notes_passing (.kernel .add) stream.add).answering _
  | triad => exact (notes_passing (.kernel .triad) stream.triad).answering _
  | nstream => exact (notes_passing (.kernel .nstream) stream.nstream).answering _
  | dot => exact (notes_passing (.kernel .dot) stream.dot).answering _

theorem map_toList_toArray (lists : Triple (List α)) :
    (lists.map List.toArray).map Array.toList = lists := rfl

theorem notes_readInto (host : Triple (List α)) :
    Notes (.read host) (stream.readInto (host.map List.toArray))
      (stream.noting.readInto (host.map List.toArray)) := by
  intro state before
  simp only [Procedure.run, Interface.readInto, Interface.noting, Noted.note, map_toList_toArray]
  rcases stream.read (state, host.map List.toArray) with ⟨reason | _, after, filled⟩ <;> rfl

/-- Noting changes neither what a call answers nor what it does. -/
theorem notes_perform (stream : Interface σ α) (operation : Operation α) :
    Notes operation (operation.perform stream) (operation.perform stream.noting) := by
  cases operation with
  | fill values => exact (notes_passing (.fill values) (stream.fill values)).answering _
  | write source =>
      exact (notes_passing (.write source) (stream.write (source.map List.toArray))).answering _
  | kernel kernel => exact (notes_runKernel kernel).answering _
  | read host => exact (notes_readInto host).answering _

/-- The announcement of an iteration leaves the state of a stream alone. -/
def unmarked (_iteration : Nat) (state : σ) : σ := state

theorem Passes.noting {state after : σ} (passes : Passes stream unmarked state steps answers after)
    (before : List (Step α)) :
    Passes stream.noting (fun iteration => Noted.note (.iterated iteration)) ⟨state, before⟩ steps
      answers ⟨after, before ++ steps⟩ := by
  induction passes generalizing before with
  | nil state =>
      rw [List.append_nil]
      exact .nil _
  | @call state between _ operation answer _ _ performed _ ih =>
      have noted := notes_perform stream operation state before
      rw [performed] at noted
      have later := ih (before ++ [.call operation])
      rw [← List.append_cons] at later
      exact .call noted later
  | iterated _ ih =>
      apply Passes.iterated
      rw [List.append_cons]
      exact ih _

theorem Stops.noting {state after : σ} (stops : Stops stream unmarked state steps taken reason after)
    (before : List (Step α)) :
    Stops stream.noting (fun iteration => Noted.note (.iterated iteration)) ⟨state, before⟩ steps
      taken reason ⟨after, before ++ taken⟩ := by
  induction stops generalizing before with
  | @here state _ operation _ _ failed =>
      have noted := notes_perform stream operation state before
      rw [failed] at noted
      exact .here noted
  | @call state _ _ operation _ _ _ _ performed _ ih =>
      have noted := notes_perform stream operation state before
      rw [performed] at noted
      have later := ih (before ++ [.call operation])
      rw [← List.append_cons] at later
      exact .call noted later
  | iterated _ ih =>
      apply Stops.iterated
      rw [List.append_cons]
      exact ih _

end Benchmark

end Bandwidth
