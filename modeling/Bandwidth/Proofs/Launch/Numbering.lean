import Bandwidth.Proofs.Dot.Region
import Bandwidth.Proofs.Elementwise.Pointwise
import Bandwidth.Proofs.Launch.Counted

/-!
# Geometries whose workers can be numbered

Each worker computes its place in the grid and the number of all workers, and after the last of them
the launch computes that number once more for its stats. All of these are words if the size of the
grid is one, and then no arithmetic of the geometry can fault any more.

A geometry is accepted for its group size alone, though. The product of the two sizes is not looked
at, so a grid that is too large is accepted and counted, and the launch faults in the first worker of
each share, at its place or at its stride.
-/

namespace Bandwidth

namespace Geometry

variable {geometry : Geometry}

/-- The workers of a grid can be numbered with words. -/
structure Numbered (geometry : Geometry) : Prop where
  totalWorkers : geometry.totalWorkers = .ok geometry.size
  globalId : ∀ worker : Worker, worker.geometry = geometry → worker.InGrid →
    worker.globalId = .ok worker.place
  stride : ∀ worker : Worker, worker.geometry = geometry → worker.totalWorkers = .ok geometry.size

theorem numbered_of_fits {geometry : Geometry} (fits : geometry.size < Word.bound) :
    geometry.Numbered where
  totalWorkers := totalWorkers_eq fits
  globalId := by
    rintro worker rfl inGrid
    exact worker.globalId_eq inGrid fits
  stride := by
    rintro worker rfl
    exact worker.totalWorkers_eq fits

theorem totalWorkers_of_large (large : Word.bound ≤ geometry.size) :
    geometry.totalWorkers = .error .multiplyOverflow :=
  if_neg (Nat.not_lt.mpr large)

theorem numbered_iff : geometry.Numbered ↔ geometry.size < Word.bound := by
  refine ⟨?_, numbered_of_fits⟩
  intro numbered
  by_contra large
  have total := numbered.totalWorkers
  rw [totalWorkers_of_large (Nat.not_lt.mp large)] at total
  simp at total

theorem pos_of_large (large : Word.bound ≤ geometry.size) :
    0 < geometry.grid ∧ 0 < geometry.group := by
  have positive : 0 < geometry.grid * geometry.group := Nat.lt_of_lt_of_le (by decide) large
  exact ⟨Nat.pos_of_mul_pos_right positive, Nat.pos_of_mul_pos_left positive⟩

theorem validate_of_error {failure : Failure} (refused : geometry.validate = .error failure) :
    failure = .invalidConfig .emptyGroup := by
  unfold validate at refused
  split at refused
  · exact (Except.error.inj refused).symm
  · simp at refused

theorem validateCooperative_of_error {failure : Failure}
    (refused : geometry.validateCooperative = .error failure) :
    failure = .invalidConfig .emptyGroup ∨ failure = .invalidConfig (.unevenGroup geometry.group) := by
  unfold validateCooperative at refused
  split at refused
  · exact .inl (Except.error.inj refused).symm
  · split at refused
    · simp at refused
    · exact .inr (Except.error.inj refused).symm

end Geometry

section Grid

variable {σ τ β : Type} {fault : Fault}

/-- If the work on any groups faults at once, so does a share that has groups. -/
theorem Share.runPart_run_of_fault {state : σ} {units : Nat}
    {work : Nat → Nat → Procedure Fault σ (Array β)}
    (faults : ∀ first count, 0 < count → (work first count).run state = (.error fault, state))
    (takenOver : Bool) (share : Share) (positive : 0 < share.count) :
    (share.runPart units work takenOver).run state = (.error fault, state) := by
  induction size : share.count using Nat.strongRecOn generalizing share takenOver with
  | ind size ih =>
      subst size
      simp only [Procedure.run] at faults ih ⊢
      rw [runPart]
      split
      · exact faults share.first share.count positive
      · rename_i left right halved
        rcases count_lt_of_halves? halved with ⟨leftFewer, rightFewer⟩
        rcases first_count_of_halves? halved with ⟨leftFirst, rightFirst, rightEnd⟩
        rw [ih left.count leftFewer false left (by omega) rfl]
        simp only
        rw [ih right.count rightFewer true right (by omega) rfl]

/-- If the first visit faults, so do all of them together. -/
theorem Procedure.forRange_run_of_fault {visit : Nat → Procedure Fault σ Unit} {first count : Nat}
    {state after : σ} (faults : (visit first).run state = (.error fault, after))
    (positive : 0 < count) : (forRange visit first count).run state = (.error fault, after) := by
  rcases Nat.exists_eq_succ_of_ne_zero (Nat.ne_of_gt positive) with ⟨others, rfl⟩
  simp only [run] at faults ⊢
  simp only [forRange, faults]

theorem Procedure.mapRange_run_of_fault {visit : Nat → Procedure Fault σ β} {first count : Nat}
    {state after : σ} (faults : (visit first).run state = (.error fault, after))
    (positive : 0 < count) : (mapRange visit first count).run state = (.error fault, after) := by
  rcases Nat.exists_eq_succ_of_ne_zero (Nat.ne_of_gt positive) with ⟨others, rfl⟩
  simp only [run] at faults ⊢
  simp only [mapRange, mapRange.go, faults]

/-- If the first worker of any group faults at once, so does the grid. -/
theorem Device.runGrid_run_of_fault {memory : τ} {geometry : Geometry}
    {kernel : Worker → Procedure Fault τ Unit} (grid_pos : 0 < geometry.grid)
    (group_pos : 0 < geometry.group)
    (faults : ∀ groupId, (kernel ⟨0, groupId, geometry⟩).run memory = (.error fault, memory))
    (units : Nat) :
    (runGrid units geometry kernel).run memory = (.error fault, memory) := by
  have share : ∀ first count, 0 < count →
      (Procedure.mapRange (runGroup geometry kernel) first count).run memory =
        (.error fault, memory) := by
    intro first count positive
    apply Procedure.mapRange_run_of_fault _ positive
    exact Procedure.forRange_run_of_fault (faults first) group_pos
  exact Procedure.bind_run_of_error (Share.runPart_run_of_fault share false _ grid_pos) _

/-- If the first worker of any group faults without a change to the memory outside, so do the
groups of a cooperative launch. -/
theorem Device.runGroups_run_of_fault {memory : τ} {geometry : Geometry} {slot : Slot σ}
    {program : GroupProgram σ τ} (grid_pos : 0 < geometry.grid)
    (faults : ∀ groupId slots, ∃ left,
      (program ⟨groupId, geometry⟩).run ⟨slots, 0, memory⟩ = (.error fault, ⟨left, 0, memory⟩))
    (units : Nat) :
    (runGroups units geometry slot program).run memory = (.error fault, memory) := by
  refine Share.runPart_run_of_fault ?_ false _ grid_pos
  intro first count positive
  rcases faults first (Array.replicate geometry.group slot.blank) with ⟨left, faulted⟩
  have inGroup : (Group.runIn geometry program first).run
      (Array.replicate geometry.group slot.blank, memory) = (.error fault, (left, memory)) := by
    simp only [Procedure.run] at faulted ⊢
    simp only [Group.runIn, faulted]
    rfl
  have turns := Procedure.mapRange_run_of_fault inGroup positive
  simp only [Procedure.run] at turns ⊢
  simp only [runInTurn, if_neg (Nat.ne_of_gt positive), turns]

end Grid

section Kernels

variable {α : Type} [Element α] {geometry : Geometry} {device : Device} {memory : Memory α}
  {log : Array Event}

open Device

/-- No worker of a grid that is too large gets past its place and its stride. -/
theorem Worker.start_eq_error {σ : Type} (large : Word.bound ≤ geometry.size) (groupId : Nat)
    (next : Nat → Nat → Procedure Fault σ Unit) :
    (do
      let first ← Procedure.ofExcept (⟨0, groupId, geometry⟩ : Worker).globalId
      let stride ← Procedure.ofExcept (⟨0, groupId, geometry⟩ : Worker).totalWorkers
      next first stride) = Procedure.stop .multiplyOverflow := by
  have stride : (⟨0, groupId, geometry⟩ : Worker).totalWorkers = .error .multiplyOverflow :=
    Geometry.totalWorkers_of_large large
  by_cases fits : groupId * geometry.group < Word.bound
  · have first : (⟨0, groupId, geometry⟩ : Worker).globalId = .ok (groupId * geometry.group) := by
      simp only [globalId, Word.mul_eq_ok fits]
      exact Word.add_eq_ok fits
    simp only [first, stride, Procedure.ofExcept_ok, pure_bind]
    rfl
  · have first : (⟨0, groupId, geometry⟩ : Worker).globalId = .error .multiplyOverflow := by
      simp only [globalId, Word.mul, if_neg fits]
      rfl
    simp only [first]
    rfl

/-- A launch with too large a grid counts and runs no worker to its first element. -/
theorem Elementwise.launch_run_of_large (kernel : Elementwise α) (buffers : Triple Nat)
    (arraySize : Nat) (large : Word.bound ≤ geometry.size) :
    (kernel.launch geometry buffers arraySize).run ⟨(device, memory), log⟩ =
      (.error (.fault .multiplyOverflow), ⟨(device.beginLaunch, memory),
        log.push (.launched device.description.index geometry)⟩) := by
  rcases Geometry.pos_of_large large with ⟨grid_pos, group_pos⟩
  have worker : ∀ groupId, (kernel.perWorker buffers arraySize ⟨0, groupId, geometry⟩).run memory =
      (.error .multiplyOverflow, memory) := by
    intro groupId
    rw [perWorker, Worker.start_eq_error large]
    rfl
  simp only [launch, Device.launch, Geometry.validate_eq_ok group_pos]
  exact Procedure.bind_run_of_error
    (onMemory_run_of_fault (runGrid_run_of_fault grid_pos group_pos worker _)) _

theorem Device.of_checkCapacity_eq_error {σ : Type} {slot : Slot σ} {fault : Fault}
    (refused : checkCapacity geometry slot = .error fault) : fault = .capacityOverflow := by
  by_cases answers : geometry.grid * Word.bytes ≤ Word.greatestObject
  · by_cases shared : geometry.group * slot.bytes ≤ Word.greatestObject
    · simp only [checkCapacity, Word.checkObject, if_pos answers, if_pos shared] at refused
      exact absurd refused (by rintro ⟨⟩)
    · simp only [checkCapacity, Word.checkObject, if_pos answers, if_neg shared] at refused
      exact (Except.error.inj refused).symm
  · simp only [checkCapacity, Word.checkObject, if_neg answers] at refused
    exact (Except.error.inj refused).symm

/-- The first worker of a group clears its slot before it is numbered. -/
theorem Dot.program_run_of_large {a b sums arraySize : Nat} (large : Word.bound ≤ geometry.size)
    (groupId : Nat) (slots : Array α) :
    ∃ left, (program a b sums arraySize ⟨groupId, geometry⟩).run ⟨slots, 0, memory⟩ =
      (.error .multiplyOverflow, ⟨left, 0, memory⟩) := by
  refine ⟨slots.setIfInBounds 0 Element.zero, Procedure.bind_run_of_error ?_ _⟩
  refine Procedure.forRange_run_of_fault ?_ (Geometry.pos_of_large large).2
  rw [accumulate, Worker.start_eq_error large]
  rfl

/-- A dot product with too large a grid counts and runs no group to its first barrier. -/
theorem Dot.launch_run_of_large {a b sums arraySize : Nat} (large : Word.bound ≤ geometry.size)
    (accepted : geometry.validateCooperative = .ok ()) :
    ∃ fault, (fault = .multiplyOverflow ∨ fault = .capacityOverflow) ∧
      (Dot.launch geometry a b sums arraySize).run ⟨(device, memory), log⟩ =
        (.error (.fault fault), ⟨(device.beginLaunch, memory),
          log.push (.groupsLaunched device.description.index geometry)⟩) := by
  simp only [Dot.launch, launchGroups, accepted]
  rcases capacity : checkCapacity geometry (Slot.ofElement α) with fault | ⟨⟩
  · exact ⟨fault, .inr (of_checkCapacity_eq_error capacity), rfl⟩
  · refine ⟨.multiplyOverflow, .inl rfl, ?_⟩
    exact Procedure.bind_run_of_error (onMemory_run_of_fault (runGroups_run_of_fault
      (Geometry.pos_of_large large).1 (Dot.program_run_of_large large) _)) _

/--
A launch refuses an empty group, a cooperative one also a group that cannot be folded, and then the
device is as it was. If the size of the grid is a word, no arithmetic of an accepted geometry faults
afterwards: its workers are numbered with words, at places below the size, and go straight on to
their indices. If it is not, they cannot be numbered. Such a geometry is accepted all the same; the
launch is counted and in flight, and faults.
-/
theorem numbering_decided_by_size (geometry : Geometry) (kernel : Elementwise α)
    (buffers : Triple Nat) (a b sums : Nat) {arraySize : Nat} (isWord : arraySize < Word.bound)
    (device : Device) (memory : Memory α) (log : Array Event) :
    (∀ failure, geometry.validate = .error failure → failure = .invalidConfig .emptyGroup ∧
      (kernel.launch geometry buffers arraySize).run ⟨(device, memory), log⟩ =
        (.error (.failure failure), ⟨(device, memory), log⟩)) ∧
    (∀ failure, geometry.validateCooperative = .error failure →
      (failure = .invalidConfig .emptyGroup ∨
        failure = .invalidConfig (.unevenGroup geometry.group)) ∧
      (Dot.launch geometry a b sums arraySize).run ⟨(device, memory), log⟩ =
        (.error (.failure failure), ⟨(device, memory), log⟩)) ∧
    (geometry.size < Word.bound → geometry.Numbered ∧
      ∀ worker : Worker, worker.geometry = geometry → worker.InGrid →
        worker.place < geometry.size ∧
        kernel.perWorker buffers arraySize worker =
          Procedure.forEach (kernel.body.run buffers) (worker.indices arraySize) ∧
        Dot.accumulate a b arraySize worker = (do
          GroupState.modifySlots (·.setIfInBounds worker.localId Element.zero)
          Procedure.forEach (Dot.addProduct a b worker.localId) (worker.indices arraySize) :
            Procedure Fault (GroupState α (Memory α)) Unit)) ∧
    (Word.bound ≤ geometry.size → ¬geometry.Numbered ∧ geometry.validate = .ok () ∧
      (kernel.launch geometry buffers arraySize).run ⟨(device, memory), log⟩ =
        (.error (.fault .multiplyOverflow), ⟨(device.beginLaunch, memory),
          log.push (.launched device.description.index geometry)⟩) ∧
      (geometry.validateCooperative = .ok () →
        ∃ fault, (fault = .multiplyOverflow ∨ fault = .capacityOverflow) ∧
          (Dot.launch geometry a b sums arraySize).run ⟨(device, memory), log⟩ =
            (.error (.fault fault), ⟨(device.beginLaunch, memory),
              log.push (.groupsLaunched device.description.index geometry)⟩))) := by
  refine ⟨?_, ?_, ?_, ?_⟩
  · intro failure refused
    exact ⟨Geometry.validate_of_error refused, Device.launch_run_of_invalid _ refused⟩
  · intro failure refused
    exact ⟨Geometry.validateCooperative_of_error refused,
      Device.launchGroups_run_of_invalid _ _ refused⟩
  · intro fits
    refine ⟨Geometry.numbered_of_fits fits, ?_⟩
    rintro worker rfl inGrid
    exact ⟨inGrid.place_lt, kernel.perWorker_eq inGrid fits isWord,
      Dot.accumulate_eq inGrid fits isWord⟩
  · intro large
    refine ⟨fun numbered => Nat.not_lt.mpr large (Geometry.numbered_iff.mp numbered),
      Geometry.validate_eq_ok (Geometry.pos_of_large large).2,
      kernel.launch_run_of_large buffers arraySize large, Dot.launch_run_of_large large⟩

/-- The last of 2⁶⁴ - 2³² workers has a word for its place. With one group more the number of all
workers is no word. -/
theorem last_group_that_can_be_numbered :
    let fitting : Geometry := ⟨2 ^ 32 - 1, 2 ^ 32⟩
    let large : Geometry := ⟨2 ^ 32, 2 ^ 32⟩
    let device := Device.fresh ⟨0, "device", 2, 1048576⟩ .standard
    let memory : Memory Float := ⟨#[#[1.0, 2.0, 3.0, 4.0]]⟩
    4 < Word.bound ∧
      (⟨2 ^ 32 - 1, 2 ^ 32 - 2, fitting⟩ : Worker).globalId = .ok 18446744069414584319 ∧
      fitting.totalWorkers = .ok 18446744069414584320 ∧
      ((Elementwise.nstream : Elementwise Float).launch large ⟨0, 0, 0⟩ 4).run
          ⟨(device, memory), #[]⟩ =
        (.error (.fault .multiplyOverflow), ⟨(device.beginLaunch, memory), #[.launched 0 large]⟩) := by
  intro fitting large device memory
  have isWord : 4 < Word.bound := by decide
  rcases numbering_decided_by_size fitting (.nstream : Elementwise Float) ⟨0, 0, 0⟩ 0 0 0 isWord
    device memory #[] with ⟨-, -, numbers, -⟩
  rcases numbering_decided_by_size large (.nstream : Elementwise Float) ⟨0, 0, 0⟩ 0 0 0 isWord
    device memory #[] with ⟨-, -, -, faults⟩
  rcases numbers (by decide) with ⟨numbered, -⟩
  have globalId := numbered.globalId ⟨2 ^ 32 - 1, 2 ^ 32 - 2, fitting⟩ rfl ⟨by decide, by decide⟩
  have place : (⟨2 ^ 32 - 1, 2 ^ 32 - 2, fitting⟩ : Worker).place = 18446744069414584319 := by decide
  have size : fitting.size = 18446744069414584320 := by decide
  rw [place] at globalId
  exact ⟨isWord, globalId, size ▸ numbered.totalWorkers, (faults (by decide)).2.2.1⟩

/-- Two groups of 2⁶³ workers are accepted, also for a cooperative launch. Their launch is counted
and in flight, and then the number of workers is no word. -/
theorem too_large_grid_is_launched :
    let geometry : Geometry := ⟨2, 2 ^ 63⟩
    let device := Device.fresh ⟨0, "device", 2, 1048576⟩ .standard
    let memory : Memory Float := ⟨#[#[1.0, 2.0, 3.0, 4.0]]⟩
    geometry.validate = .ok () ∧ geometry.validateCooperative = .ok () ∧
      geometry.totalWorkers = .error .multiplyOverflow ∧
      ((Elementwise.copy : Elementwise Float).launch geometry ⟨0, 0, 0⟩ 4).run
          ⟨(device, memory), #[]⟩ =
        (.error (.fault .multiplyOverflow),
          ⟨(device.beginLaunch, memory), #[.launched 0 geometry]⟩) := by
  intro geometry device memory
  have large : Word.bound ≤ geometry.size := by decide
  have powerOfTwo : geometry.group = 2 ^ 63 := rfl
  exact ⟨Geometry.validate_eq_ok (Geometry.pos_of_large large).2,
    Geometry.validateCooperative_eq_ok powerOfTwo, Geometry.totalWorkers_of_large large,
    Elementwise.launch_run_of_large _ _ 4 large⟩

end Kernels

end Bandwidth
