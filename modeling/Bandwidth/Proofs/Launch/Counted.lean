import Bandwidth.Kernel.Dot
import Bandwidth.Kernel.Elementwise
import Bandwidth.Proofs.Elementwise.Column
import Bandwidth.Proofs.Launch.Dispatch

/-!
# Launches that are counted

A launch counts and is in flight as soon as its geometry is valid, whether its workers end, fault or
issue different numbers of barriers; with an invalid geometry nothing happens at all. What every
worker keeps of the memory is kept by the launch, also if it ends badly. Kernels write elements, and
so keep the lengths of all buffers.
-/

namespace Bandwidth

namespace Procedure

variable {ε σ τ β γ : Type} {invariant : σ → Prop}

/-- A procedure that leaves an invariant in force, also if it stops early. -/
def Keeps (invariant : σ → Prop) (procedure : Procedure ε σ β) : Prop :=
  ∀ state, invariant state → invariant (procedure.run state).2

theorem Keeps.pure (value : β) : Keeps invariant (Pure.pure value : Procedure ε σ β) :=
  fun _ holds => holds

theorem Keeps.ofExcept (outcome : Except ε β) :
    Keeps invariant (Procedure.ofExcept outcome : Procedure ε σ β) :=
  fun _ holds => holds

theorem Keeps.get : Keeps invariant (Procedure.get : Procedure ε σ σ) :=
  fun _ holds => holds

theorem Keeps.modify {change : σ → σ} (keeps : ∀ state, invariant state → invariant (change state)) :
    Keeps invariant (Procedure.modify change : Procedure ε σ Unit) :=
  keeps

theorem Keeps.bind {procedure : Procedure ε σ β} {next : β → Procedure ε σ γ}
    (first : Keeps invariant procedure) (rest : ∀ value, Keeps invariant (next value)) :
    Keeps invariant (procedure >>= next) := by
  intro state holds
  have between := first state holds
  rcases ran : procedure.run state with ⟨reason | value, after⟩
  · rw [bind_run_of_error ran]
    rwa [ran] at between
  · rw [bind_run_of_ok ran]
    rw [ran] at between
    exact rest value after between

/-- What only answers, after a procedure, does not matter for its state. -/
theorem bind_run_snd_of_stays {next : β → Procedure ε σ γ}
    (stays : ∀ value state, ((next value).run state).2 = state) (procedure : Procedure ε σ β)
    (state : σ) : ((procedure >>= next).run state).2 = (procedure.run state).2 := by
  rw [bind_run]
  rcases procedure.run state with ⟨reason | value, after⟩
  · rfl
  · exact stays value after

theorem Keeps.forEach {ι : Type} {visit : ι → Procedure ε σ Unit}
    (keeps : ∀ item, Keeps invariant (visit item)) (items : List ι) :
    Keeps invariant (Procedure.forEach visit items) := by
  induction items with
  | nil => exact fun _ holds => holds
  | cons item items ih =>
      intro state holds
      have between := keeps item state holds
      rw [forEach_cons]
      rcases ran : (visit item).run state with ⟨reason | value, after⟩
      · rwa [ran] at between
      · rw [ran] at between
        exact ih after between

theorem Keeps.mapRange {visit : Nat → Procedure ε σ β}
    (keeps : ∀ number, Keeps invariant (visit number)) (first count : Nat) :
    Keeps invariant (Procedure.mapRange visit first count) := by
  have go : ∀ values : Array β, Keeps invariant (mapRange.go visit values first count) := by
    induction count generalizing first with
    | zero => exact fun _ _ holds => holds
    | succ count ih =>
        intro values state holds
        have between := keeps first state holds
        simp only [run, mapRange.go] at between ⊢
        rcases ran : visit first state with ⟨reason | value, after⟩
        · simpa [ran] using between
        · rw [ran] at between
          exact ih (first + 1) (values.push value) after between
  exact go #[]

end Procedure

open Procedure (Keeps)

namespace Share

variable {ε σ β : Type} {invariant : σ → Prop} 
  {work : Nat → Nat → Procedure ε σ (Array β)}

theorem runPart_keeps (units : Nat) (keeps : ∀ first count, Keeps invariant (work first count))
    (takenOver : Bool) (share : Share) :
    Keeps invariant (share.runPart units work takenOver) := by
  induction size : share.count using Nat.strongRecOn generalizing share takenOver with
  | ind size ih =>
      subst size
      intro state holds
      simp only [Procedure.run, Keeps] at *
      rw [runPart]
      split
      · exact keeps share.first share.count state holds
      · rename_i left right halved
        rcases count_lt_of_halves? halved with ⟨leftFewer, rightFewer⟩
        have between := ih left.count leftFewer false left rfl state holds
        rcases leftRan : left.runPart units work false state with ⟨reason | values, after⟩
        · rw [leftRan] at between
          exact ih right.count rightFewer true right rfl after between
        · rw [leftRan] at between
          have last := ih right.count rightFewer false right rfl after between
          rcases rightRan : right.runPart units work false after with ⟨reason | more, final⟩
          all_goals simpa only [rightRan] using last

end Share

namespace Device

variable {σ τ : Type} {geometry : Geometry} {device : Device} {memory : τ} {log : Array Event}

theorem runGrid_keeps {kernel : Worker → Procedure Fault τ Unit} {invariant : τ → Prop}
    (keeps : ∀ worker, Keeps invariant (kernel worker)) (units : Nat) (geometry : Geometry) :
    Keeps invariant (runGrid units geometry kernel) := by
  refine Keeps.bind (Share.runPart_keeps units ?_ false _) fun _ => Keeps.pure _
  apply Keeps.mapRange
  intro groupId
  rw [runGroup_eq_forEach]
  exact Keeps.forEach (fun localId => keeps _) _

theorem runGroups_keeps (slot : Slot σ) {program : GroupProgram σ τ} {invariant : τ → Prop}
    (keeps : ∀ group, Keeps (fun state : GroupState σ τ => invariant state.outside) (program group))
    (units : Nat) (geometry : Geometry) :
    Keeps invariant (runGroups units geometry slot program) := by
  have inGroup : ∀ groupId,
      Keeps (fun state : Array σ × τ => invariant state.2) (Group.runIn geometry program groupId) :=
    fun groupId state holds => keeps ⟨groupId, geometry⟩ ⟨state.1, 0, state.2⟩ holds
  refine Share.runPart_keeps units ?_ false _
  intro first count outside holds
  simp only [Procedure.run, runInTurn]
  split
  · exact holds
  · exact Keeps.mapRange inGroup first count (_, outside) holds

theorem onMemory_run_snd {β : Type} (procedure : Procedure Fault τ β) :
    ((onMemory procedure).run ⟨(device, memory), log⟩).2 =
      ⟨(device, (procedure.run memory).2), log⟩ := by
  simp only [Procedure.run, onMemory, Action.within, Procedure.within, Action.silent]

/-- However its workers end, a launch with a valid geometry is counted, told and in flight. -/
theorem launch_run_counted (kernel : Worker → Procedure Fault τ Unit)
    (valid : geometry.validate = .ok ()) (device : Device) (memory : τ) (log : Array Event) :
    ∃ after, ((launch geometry kernel).run ⟨(device, memory), log⟩).2 =
        ⟨(device.beginLaunch, after), log.push (.launched device.description.index geometry)⟩ ∧
      ∀ invariant : τ → Prop,
        (∀ worker, Keeps invariant (kernel worker)) → invariant memory → invariant after := by
  have counted : ∀ (_ : Unit) (logged : Logged (Device × τ)),
      ((do
        let workers ← Action.checked geometry.totalWorkers
        return (⟨geometry.grid, workers, 0⟩ : LaunchStats)).run logged).2 = logged := by
    intro _ logged
    cases geometry.totalWorkers <;> rfl
  simp only [launch, valid]
  refine ⟨((runGrid device.description.units geometry kernel).run memory).2,
    (Procedure.bind_run_snd_of_stays counted _ _).trans (onMemory_run_snd _), ?_⟩
  intro invariant keeps holds
  exact runGrid_keeps keeps device.description.units geometry memory holds

theorem launch_run_of_invalid (kernel : Worker → Procedure Fault τ Unit) {failure : Failure}
    (invalid : geometry.validate = .error failure) :
    (launch geometry kernel).run ⟨(device, memory), log⟩ =
      (.error (.failure failure), ⟨(device, memory), log⟩) := by
  simp only [launch, invalid]
  rfl

/-- However its groups end, a cooperative launch with a valid geometry is counted, told and in
flight. -/
theorem launchGroups_run_counted (slot : Slot σ) (program : GroupProgram σ τ)
    (valid : geometry.validateCooperative = .ok ()) (device : Device) (memory : τ)
    (log : Array Event) :
    ∃ after, ((launchGroups geometry slot program).run ⟨(device, memory), log⟩).2 =
        ⟨(device.beginLaunch, after),
          log.push (.groupsLaunched device.description.index geometry)⟩ ∧
      ∀ invariant : τ → Prop,
        (∀ group,
          Keeps (fun state : GroupState σ τ => invariant state.outside) (program group)) →
          invariant memory → invariant after := by
  simp only [launchGroups, valid]
  cases capacity : checkCapacity geometry slot with
  | error fault => exact ⟨memory, rfl, fun _ _ holds => holds⟩
  | ok _ =>
      have answers : ∀ barriers (logged : Logged (Device × τ)),
          ((do
            let common ← Action.check (commonBarriers barriers)
            let workers ← Action.checked geometry.totalWorkers
            return (⟨geometry.grid, workers, common⟩ : LaunchStats)).run logged).2 = logged := by
        intro barriers logged
        cases commonBarriers barriers <;> cases geometry.totalWorkers <;> rfl
      refine ⟨((runGroups device.description.units geometry slot program).run memory).2,
        (Procedure.bind_run_snd_of_stays answers _ _).trans (onMemory_run_snd _), ?_⟩
      intro invariant keeps holds
      exact runGroups_keeps slot keeps device.description.units geometry memory holds

theorem launchGroups_run_of_invalid (slot : Slot σ) (program : GroupProgram σ τ)
    {failure : Failure} (invalid : geometry.validateCooperative = .error failure) :
    (launchGroups geometry slot program).run ⟨(device, memory), log⟩ =
      (.error (.failure failure), ⟨(device, memory), log⟩) := by
  simp only [launchGroups, invalid]
  rfl

end Device

section Lengths

variable {α : Type} [Element α] {lengths : Nat → Nat}

/-- The buffers of a memory have certain lengths. -/
def Memory.HasLengths {α : Type} (lengths : Nat → Nat) (memory : Memory α) : Prop :=
  ∀ buffer, (memory.contents buffer).size = lengths buffer

omit [Element α] in
theorem GridWalk.visitAll_keeps {σ : Type} {invariant : σ → Prop} (walk : GridWalk)
    {visit : Nat → Procedure Fault σ Unit} (keeps : ∀ index, Keeps invariant (visit index)) :
    Keeps invariant (walk.visitAll visit) := by
  rw [GridWalk.visitAll_eq_forEach_indices]
  exact Keeps.forEach keeps _

theorem Elementwise.perWorker_keeps_lengths (kernel : Elementwise α) (buffers : Triple Nat)
    (arraySize : Nat) (worker : Worker) :
    Keeps (Memory.HasLengths lengths) (kernel.perWorker buffers arraySize worker) := by
  refine Keeps.bind (Keeps.ofExcept _) fun first => Keeps.bind (Keeps.ofExcept _) fun stride =>
    Keeps.bind (Keeps.ofExcept _) fun walk => walk.visitAll_keeps ?_
  intro index memory holds buffer
  exact (kernel.body.size_contents_run memory buffer).trans (holds buffer)

namespace GroupState

/-- The buffers that a group works on have certain lengths, whatever is in its slots. -/
def HasLengths {α : Type} (lengths : Nat → Nat) (state : GroupState α (Memory α)) : Prop :=
  state.outside.HasLengths lengths

omit [Element α] in
theorem load_keeps_lengths (buffer index : Nat) :
    Keeps (HasLengths (α := α) lengths) (onOutside (Memory.load buffer index)) := by
  intro state holds
  simp only [Procedure.run, onOutside, Procedure.within, Memory.load]
  split <;> exact holds

omit [Element α] in
theorem store_keeps_lengths (buffer index : Nat) (value : α) :
    Keeps (HasLengths lengths) (onOutside (Memory.store buffer index value)) := by
  intro state holds
  simp only [Procedure.run, onOutside, Procedure.within, Memory.store]
  split
  · exact fun other => (Memory.size_contents_set _ _ _ _ other).trans (holds other)
  · exact holds

omit [Element α] in
theorem modifySlots_keeps_lengths (change : Array α → Array α) :
    Keeps (HasLengths lengths) (modifySlots change) :=
  Keeps.modify fun _ holds => holds

end GroupState

open GroupState

omit [Element α] in
theorem Group.forEachWorker_keeps {σ τ : Type} {invariant : GroupState σ τ → Prop} (group : Group)
    {body : Worker → Procedure Fault (GroupState σ τ) Unit}
    (keeps : ∀ worker, Keeps invariant (body worker)) :
    Keeps invariant (group.forEachWorker body) := by
  rw [forEachWorker_eq_forEach]
  exact Keeps.forEach (fun localId => keeps _) _

theorem Dot.foldStep_keeps_lengths (offset : Nat) (worker : Worker) :
    Keeps (HasLengths lengths) (Dot.foldStep (α := α) offset worker) := by
  unfold Dot.foldStep
  split
  · exact modifySlots_keeps_lengths _
  · exact Keeps.pure ()

theorem Dot.tree_keeps_lengths (group : Group) (offset : Nat) :
    Keeps (HasLengths lengths) (Dot.tree (α := α) group offset) := by
  fun_induction Dot.tree (α := α) group offset with
  | case1 => exact Keeps.pure ()
  | case2 offset _ ih =>
      refine Keeps.bind (Keeps.modify fun _ holds => holds) fun _ => Keeps.bind ?_ fun _ => ih
      exact group.forEachWorker_keeps (Dot.foldStep_keeps_lengths offset)

theorem Dot.accumulate_keeps_lengths (a b arraySize : Nat) (worker : Worker) :
    Keeps (HasLengths lengths) (Dot.accumulate (α := α) a b arraySize worker) := by
  refine Keeps.bind (modifySlots_keeps_lengths _) fun _ => Keeps.bind (Keeps.ofExcept _) fun _ =>
    Keeps.bind (Keeps.ofExcept _) fun _ => Keeps.bind (Keeps.ofExcept _) fun walk =>
      walk.visitAll_keeps fun index => ?_
  exact Keeps.bind (load_keeps_lengths a index) fun _ =>
    Keeps.bind (load_keeps_lengths b index) fun _ => modifySlots_keeps_lengths _

theorem Dot.publish_keeps_lengths (sums : Nat) (worker : Worker) :
    Keeps (HasLengths lengths) (Dot.publish (α := α) sums worker) := by
  unfold Dot.publish
  split
  · exact Keeps.bind Keeps.get fun _ => store_keeps_lengths sums _ _
  · exact Keeps.pure ()

theorem Dot.program_keeps_lengths (a b sums arraySize : Nat) (group : Group) :
    Keeps (HasLengths lengths) (Dot.program (α := α) a b sums arraySize group) := by
  refine Keeps.bind (group.forEachWorker_keeps (Dot.accumulate_keeps_lengths a b arraySize)) ?_
  intro _
  refine Keeps.bind (Dot.tree_keeps_lengths (α := α) group _) ?_
  intro _
  exact group.forEachWorker_keeps (Dot.publish_keeps_lengths sums)

end Lengths

end Bandwidth
