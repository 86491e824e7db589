import Bandwidth.Launch.Group
import Bandwidth.Proofs.Launch.Sequence
import Bandwidth.Proofs.Launch.Stride
import Mathlib.Algebra.Group.Nat.Defs

/-!
# Launches that succeed

A launch with a valid geometry, whose workers can be numbered with words, is counted, is told, and
then does what its workers do to the memory. So for everything that is said about launches below it
is enough to know how the grid ends.
-/

namespace Bandwidth

namespace Geometry

variable {geometry : Geometry}

theorem validate_eq_ok (group_pos : 0 < geometry.group) : geometry.validate = .ok () :=
  if_neg (Nat.ne_of_gt group_pos)

theorem isPowerOfTwo_two_pow (levels : Nat) : isPowerOfTwo (2 ^ levels) = true := by
  have positive : 2 ^ levels ≠ 0 := Nat.ne_of_gt (Nat.two_pow_pos levels)
  simp [isPowerOfTwo, Nat.log2_two_pow]

theorem validateCooperative_eq_ok {levels : Nat} (powerOfTwo : geometry.group = 2 ^ levels) :
    geometry.validateCooperative = .ok () := by
  have positive : geometry.group ≠ 0 := by
    rw [powerOfTwo]
    exact Nat.ne_of_gt (Nat.two_pow_pos levels)
  rw [validateCooperative, if_neg positive, if_pos]
  rw [powerOfTwo]
  exact isPowerOfTwo_two_pow levels

theorem two_pow_log2_eq_of_accepted (accepted : geometry.validateCooperative = .ok ()) :
    2 ^ Nat.log2 geometry.group = geometry.group := by
  unfold validateCooperative at accepted
  split at accepted
  · simp at accepted
  · split at accepted
    · rename_i power
      simp only [isPowerOfTwo, Bool.and_eq_true, beq_iff_eq] at power
      exact power.2
    · simp at accepted

theorem two_pow_log2_lt_of_refused {failure : Failure} (positive : 0 < geometry.group)
    (refused : geometry.validateCooperative = .error failure) :
    2 ^ Nat.log2 geometry.group < geometry.group := by
  have nonzero : geometry.group ≠ 0 := Nat.ne_of_gt positive
  refine Nat.lt_of_le_of_ne (Nat.log2_self_le nonzero) ?_
  intro power
  rw [validateCooperative_eq_ok power.symm] at refused
  simp at refused

/-- A power of two is divided by two as often as its exponent says. -/
theorem twoAdicOrder_go_two_pow {levels fuel : Nat} (enough : levels ≤ fuel) :
    twoAdicOrder.go (2 ^ levels) fuel = levels := by
  induction levels generalizing fuel with
  | zero => cases fuel <;> simp [twoAdicOrder.go]
  | succ levels ih =>
      cases fuel with
      | zero => omega
      | succ fuel =>
          have half : 2 ^ (levels + 1) / 2 = 2 ^ levels := by
            rw [Nat.pow_succ, Nat.mul_div_cancel _ (by decide)]
          rw [twoAdicOrder.go, half, ih (by omega), if_pos (by rw [Nat.pow_succ]; omega)]

/-- A group that can be folded is folded in as many steps as its size has binary places after the
first. -/
theorem reductionSteps_eq (accepted : geometry.validateCooperative = .ok ())
    (isWord : geometry.group < Word.bound) : geometry.reductionSteps = Nat.log2 geometry.group := by
  have power := two_pow_log2_eq_of_accepted accepted
  have small : Nat.log2 geometry.group < 64 := by
    rw [← Nat.pow_lt_pow_iff_right (a := 2) (by decide), power]
    exact isWord
  have nonzero : geometry.group ≠ 0 := by
    rw [← power]
    exact Nat.ne_of_gt (Nat.two_pow_pos _)
  rw [reductionSteps, twoAdicOrder, if_neg nonzero]
  nth_rewrite 1 [← power]
  exact twoAdicOrder_go_two_pow (Nat.le_of_lt small)

end Geometry

namespace Device

variable {τ β : Type} {geometry : Geometry} {device : Device} {memory after : τ} {log : Array Event}

/-- A launch whose workers are run in another way; `work` is told the number of units. -/
def launchWith (geometry : Geometry) (work : Nat → Procedure Fault τ β) :
    Action (Device × τ) (LaunchStats × β) := do
  Action.check geometry.validate
  let (device, _) ← Action.get
  onQueue (Action.modify beginLaunch)
  Action.emit (.launched device.description.index geometry)
  let answer ← onMemory (work device.description.units)
  let workers ← Action.checked geometry.totalWorkers
  return (⟨geometry.grid, workers, 0⟩, answer)

theorem launch_eq_launchWith (geometry : Geometry) (kernel : Worker → Procedure Fault τ Unit) :
    launch geometry kernel = Prod.fst <$> launchWith geometry fun units =>
      runGrid units geometry kernel := by
  simp [launch, launchWith]

theorem onMemory_run {procedure : Procedure Fault τ β} {answer : β}
    (ran : procedure.run memory = (.ok answer, after)) :
    (onMemory procedure).run ⟨(device, memory), log⟩ = (.ok answer, ⟨(device, after), log⟩) := by
  simp only [Procedure.run] at ran ⊢
  simp only [onMemory, Action.within, Procedure.within, Action.silent, ran]
  rfl

theorem onMemory_run_of_fault {procedure : Procedure Fault τ β} {fault : Fault}
    (ran : procedure.run memory = (.error fault, after)) :
    (onMemory procedure).run ⟨(device, memory), log⟩ =
      (.error (.fault fault), ⟨(device, after), log⟩) := by
  simp only [Procedure.run] at ran ⊢
  simp only [onMemory, Action.within, Procedure.within, Action.silent, ran]
  rfl

/-- A launch is counted, told and in flight, however its workers end. If they end well it has the
stats of its geometry. -/
theorem launchWith_run_eq (work : Nat → Procedure Fault τ β) (group_pos : 0 < geometry.group)
    (fits : geometry.size < Word.bound) :
    (launchWith geometry work).run ⟨(device, memory), log⟩ =
      ((((work device.description.units).run memory).1.mapError .fault).map fun answer =>
          (⟨geometry.grid, geometry.size, 0⟩, answer),
        ⟨(device.beginLaunch, ((work device.description.units).run memory).2),
          log.push (.launched device.description.index geometry)⟩) := by
  simp only [launchWith, Geometry.validate_eq_ok group_pos, Geometry.totalWorkers_eq fits]
  rcases ran : (work device.description.units).run memory with ⟨fault | answer, after⟩
  · exact Procedure.bind_run_of_error (onMemory_run_of_fault ran) _
  · exact Procedure.bind_run_of_ok (onMemory_run ran) _

theorem launch_run_eq (kernel : Worker → Procedure Fault τ Unit) (group_pos : 0 < geometry.group)
    (fits : geometry.size < Word.bound) :
    (launch geometry kernel).run ⟨(device, memory), log⟩ =
      ((((runGrid device.description.units geometry kernel).run memory).1.mapError .fault).map
          fun _ => ⟨geometry.grid, geometry.size, 0⟩,
        ⟨(device.beginLaunch, ((runGrid device.description.units geometry kernel).run memory).2),
          log.push (.launched device.description.index geometry)⟩) := by
  rw [launch_eq_launchWith, map_eq_pure_bind, Procedure.bind_run,
    launchWith_run_eq _ group_pos fits]
  rcases (runGrid device.description.units geometry kernel).run memory with ⟨fault | ⟨⟩, after⟩ <;>
    rfl

theorem launchWith_run (work : Nat → Procedure Fault τ β) {answer : β}
    (group_pos : 0 < geometry.group) (fits : geometry.size < Word.bound)
    (ran : (work device.description.units).run memory = (.ok answer, after)) :
    (launchWith geometry work).run ⟨(device, memory), log⟩ =
      (.ok (⟨geometry.grid, geometry.size, 0⟩, answer),
        ⟨(device.beginLaunch, after), log.push (.launched device.description.index geometry)⟩) := by
  rw [launchWith_run_eq work group_pos fits, ran]
  rfl

theorem launch_run {kernel : Worker → Procedure Fault τ Unit} (group_pos : 0 < geometry.group)
    (fits : geometry.size < Word.bound)
    (ran : (runGrid device.description.units geometry kernel).run memory = (.ok (), after)) :
    (launch geometry kernel).run ⟨(device, memory), log⟩ =
      (.ok ⟨geometry.grid, geometry.size, 0⟩,
        ⟨(device.beginLaunch, after), log.push (.launched device.description.index geometry)⟩) := by
  rw [launch_run_eq kernel group_pos fits, ran]
  rfl

theorem commonBarriers_replicate (groups barriers : Nat) :
    commonBarriers (Array.replicate groups barriers) =
      .ok (if groups = 0 then 0 else barriers) := by
  have expected : (Array.replicate groups barriers).getD 0 0 =
      if groups = 0 then 0 else barriers := by
    cases groups <;> simp
  have agreed : (Array.replicate groups barriers).findIdx?
      (· != if groups = 0 then 0 else barriers) = none := by
    rw [Array.findIdx?_eq_none_iff]
    intro other otherMem
    rcases Array.mem_replicate.mp otherMem with ⟨some, rfl⟩
    simp [some]
  rw [commonBarriers, expected, agreed]

/-- A cooperative launch whose groups are run in another way. -/
def launchGroupsWith {σ : Type} (geometry : Geometry) (slot : Slot σ)
    (work : Nat → Procedure Fault τ (Array Nat)) : Action (Device × τ) LaunchStats := do
  Action.check geometry.validateCooperative
  let (device, _) ← Action.get
  onQueue (Action.modify beginLaunch)
  Action.emit (.groupsLaunched device.description.index geometry)
  Action.checked (checkCapacity geometry slot)
  let barriers ← onMemory (work device.description.units)
  let common ← Action.check (commonBarriers barriers)
  let workers ← Action.checked geometry.totalWorkers
  return ⟨geometry.grid, workers, common⟩

theorem launchGroups_eq_launchGroupsWith {σ : Type} (geometry : Geometry) (slot : Slot σ)
    (program : GroupProgram σ τ) :
    launchGroups geometry slot program = launchGroupsWith geometry slot fun units =>
      runGroups units geometry slot program := rfl

/-- A cooperative launch whose groups all end is counted, told and in flight. It ends as the list of
their barriers says. -/
theorem launchGroupsWith_run_of_ran {σ : Type} {slot : Slot σ}
    {work : Nat → Procedure Fault τ (Array Nat)}
    (accepted : geometry.validateCooperative = .ok ()) (fits : geometry.size < Word.bound)
    (answers : geometry.grid * Word.bytes ≤ Word.greatestObject)
    (shared : geometry.group * slot.bytes ≤ Word.greatestObject) {barriers : Array Nat}
    (ran : (work device.description.units).run memory = (.ok barriers, after)) :
    (launchGroupsWith geometry slot work).run ⟨(device, memory), log⟩ =
      (((commonBarriers barriers).mapError .failure).map fun common =>
          ⟨geometry.grid, geometry.size, common⟩,
        ⟨(device.beginLaunch, after),
          log.push (.groupsLaunched device.description.index geometry)⟩) := by
  have capacity : checkCapacity geometry slot = .ok () := by
    simp only [checkCapacity, Word.checkObject, if_pos answers, if_pos shared]
    rfl
  simp only [launchGroupsWith, accepted, Geometry.totalWorkers_eq fits, capacity]
  apply (Procedure.bind_run_of_ok (onMemory_run ran) _).trans
  cases commonBarriers barriers <;> rfl

/-- A cooperative launch whose groups all issue the same barriers has these. -/
theorem launchGroups_run {σ : Type} {slot : Slot σ} {program : GroupProgram σ τ} {levels : Nat}
    (powerOfTwo : geometry.group = 2 ^ levels) (fits : geometry.size < Word.bound)
    (answers : geometry.grid * Word.bytes ≤ Word.greatestObject)
    (shared : geometry.group * slot.bytes ≤ Word.greatestObject) {barriers : Nat}
    (ran : (runGroups device.description.units geometry slot program).run memory =
      (.ok (Array.replicate geometry.grid barriers), after)) :
    (launchGroups geometry slot program).run ⟨(device, memory), log⟩ =
      (.ok ⟨geometry.grid, geometry.size, if geometry.grid = 0 then 0 else barriers⟩,
        ⟨(device.beginLaunch, after),
          log.push (.groupsLaunched device.description.index geometry)⟩) := by
  have accepted := Geometry.validateCooperative_eq_ok powerOfTwo
  rw [launchGroups_eq_launchGroupsWith, launchGroupsWith_run_of_ran accepted fits answers shared ran,
    commonBarriers_replicate]
  rfl

/-- A cooperative launch that would need too large an object is counted and told, and runs no
group. -/
theorem launchGroups_run_of_overflow {σ : Type} {slot : Slot σ} {program : GroupProgram σ τ}
    {levels : Nat} (powerOfTwo : geometry.group = 2 ^ levels)
    (tooLarge : ¬(geometry.grid * Word.bytes ≤ Word.greatestObject ∧
      geometry.group * slot.bytes ≤ Word.greatestObject)) :
    (launchGroups geometry slot program).run ⟨(device, memory), log⟩ =
      (.error (.fault .capacityOverflow),
        ⟨(device.beginLaunch, memory),
          log.push (.groupsLaunched device.description.index geometry)⟩) := by
  have overflow : checkCapacity geometry slot = .error .capacityOverflow := by
    by_cases answers : geometry.grid * Word.bytes ≤ Word.greatestObject
    · have shared : ¬geometry.group * slot.bytes ≤ Word.greatestObject :=
        fun shared => tooLarge ⟨answers, shared⟩
      simp only [checkCapacity, Word.checkObject, if_pos answers, if_neg shared]
      rfl
    · simp only [checkCapacity, Word.checkObject, if_neg answers]
      rfl
  simp only [launchGroups, Geometry.validateCooperative_eq_ok powerOfTwo, overflow]
  rfl

end Device

end Bandwidth
