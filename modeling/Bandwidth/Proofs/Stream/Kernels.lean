import Bandwidth.Proofs.Device
import Bandwidth.Proofs.Dot.Launch
import Bandwidth.Proofs.Elementwise.Pointwise
import Bandwidth.Proofs.Stream.Lists
import Bandwidth.Proofs.Stream.Sound

/-!
# The kernels of a stream

A sound stream can run every kernel: its arrays are long enough for the grid, its grids can be
numbered with words, and the queue is idle when the host looks at the partial sums. An elementwise
kernel makes of the arrays what it makes of lists, and the dot product is that of two lists.
-/

namespace Bandwidth

namespace Stream

variable {α : Type} [Element α] {stream : Stream α} {log : Array Event}

omit [Element α] in
theorem onDevice_run {β : Type} {action : Action Device β} {device : Device}
    {outcome : Except Abort β} {after : Array Event}
    (ran : action.run ⟨stream.device, log⟩ = (outcome, ⟨device, after⟩)) :
    (onDevice action).run ⟨stream, log⟩ = (outcome, ⟨{ stream with device := device }, after⟩) :=
  Action.within_run Stream.device _ ran

omit [Element α] in
theorem launching_run {β : Type} {launch : Action (Device × Memory α) β} {device : Device}
    {memory : Memory α} {outcome : Except Abort β} {after : Array Event}
    (ran : launch.run ⟨(stream.device, stream.memory), log⟩ =
      (outcome, ⟨(device, memory), after⟩)) :
    (launching launch).run ⟨stream, log⟩ =
      (outcome, ⟨{ stream.setMemory memory with device := device }, after⟩) :=
  Action.within_run (fun stream : Stream α => (stream.device, stream.memory)) _ ran

def lists (stream : Stream α) : Triple (List α) :=
  stream.arrays.map fun buffer => buffer.contents.toList

def launched (stream : Stream α) : Device := stream.device.beginLaunch.idle

theorem Sound.size_le (sound : stream.Sound) : stream.arraySize ≤ Word.greatestObject :=
  Nat.le_trans (Nat.le_mul_of_pos_right _ (Element.bytes_pos α)) sound.bytes_le

theorem Sound.isWord (sound : stream.Sound) : stream.arraySize < Word.bound :=
  Nat.lt_of_le_of_lt sound.size_le (by decide)

/-- Every kernel finds an element in each array, in whatever roles it uses them. -/
theorem Sound.within (sound : stream.Sound) (role : Role) :
    stream.arraySize ≤ (stream.memory.contents (arrayPlaces.at role)).size := by
  cases role with
  | a => exact Nat.le_of_eq sound.a_size.symm
  | b => exact Nat.le_of_eq sound.b_size.symm
  | c => exact Nat.le_of_eq sound.c_size.symm

theorem elementwise_geometry (sound : stream.Sound) :
    ∃ grid, 0 < grid ∧ grid * standardGroup < Word.bound ∧
      Geometry.elementwise stream.arraySize standardGroup = .ok ⟨grid, standardGroup⟩ := by
  have positive := sound.size_pos
  have small := sound.size_le
  simp only [Word.greatestObject] at small
  refine ⟨(stream.arraySize + standardGroup - 1) / standardGroup, ?_, ?_, ?_⟩
  · simp only [standardGroup]
    omega
  · simp only [standardGroup, Word.bound]
    omega
  · have sum : Word.add stream.arraySize standardGroup = .ok (stream.arraySize + standardGroup) :=
      Word.add_eq_ok (by simp only [standardGroup, Word.bound]; omega)
    have numerator : Word.sub (stream.arraySize + standardGroup) 1 =
        .ok (stream.arraySize + standardGroup - 1) :=
      if_pos (by omega)
    simp only [Geometry.elementwise, Word.ceilDiv, sum]
    change (do
      let numerator ← Word.sub (stream.arraySize + standardGroup) 1
      let grid ← Word.div numerator standardGroup
      return (⟨grid, standardGroup⟩ : Geometry)) = _
    rw [numerator]
    rfl

theorem elementwise_run (sound : stream.Sound) (kernel : Elementwise α) (log : Array Event) :
    ∃ after, (elementwise kernel).run ⟨stream, log⟩ =
      (.ok (),
        ⟨{ stream.setMemory (kernel.pointwise arrayPlaces stream.arraySize stream.memory) with
          device := stream.launched }, after⟩) := by
  rcases elementwise_geometry sound with ⟨grid, grid_pos, fits, geometryEq⟩
  have group_pos : 0 < standardGroup := by decide
  have launch := @Elementwise.launch_run α _ kernel arrayPlaces stream.arraySize
    ⟨grid, standardGroup⟩ stream.memory sound.isWord (fun role _ => sound.within role)
    grid_pos group_pos fits stream.device log
  rw [elementwise, Action.get_bind_run]
  dsimp only
  rw [geometryEq, Action.checked_ok, pure_bind, Procedure.bind_run_of_ok (launching_run launch)]
  exact ⟨_, onDevice_run (Device.synchronize_run _ _)⟩

end Stream

def Memory.lists {α : Type} (places : Triple Nat) (memory : Memory α) : Triple (List α) :=
  places.map fun place => (memory.contents place).toList

namespace Elementwise

open Bandwidth.Stream (arrayPlaces)

variable {α : Type} [Element α] {memory : Memory α} {elements : Triple α}
  {lists : Triple (List α)} {index : Nat}

/-- What a kernel makes of lists is, at each index, what it makes of the elements there. -/
theorem getElem?_onLists (kernel : Elementwise α)
    (there : ∀ role, (lists.at role)[index]? = some (elements.at role)) (role : Role) :
    ((kernel.onLists lists).at role)[index]? = some ((kernel.onElements elements).at role) := by
  have a : lists.a[index]? = some elements.a := there .a
  have b : lists.b[index]? = some elements.b := there .b
  have c : lists.c[index]? = some elements.c := there .c
  cases kernel with
  | fill values =>
      have below : index < lists.a.length := (List.getElem?_eq_some_iff.mp a).1
      cases role <;> simp [onLists, onElements, Triple.at, Triple.map, below]
  | _ => cases role <;> simp [onLists, onElements, Triple.at, List.getElem?_zipWith, a, b, c]

theorem length_onLists (kernel : Elementwise α) {length : Nat}
    (lengths : ∀ role, (lists.at role).length = length) (role : Role) :
    ((kernel.onLists lists).at role).length = length := by
  have a : lists.a.length = length := lengths .a
  have b : lists.b.length = length := lengths .b
  have c : lists.c.length = length := lengths .c
  cases kernel <;> cases role <;> simp [onLists, Triple.at, Triple.map, a, b, c]

/-- The body of a kernel leaves in its column what the kernel makes of the elements there. -/
theorem column_run (kernel : Elementwise α)
    (there : ∀ role, memory.column index (arrayPlaces.at role) = some (elements.at role))
    (role : Role) :
    (kernel.body.run arrayPlaces index memory).2.column index (arrayPlaces.at role) =
      some ((kernel.onElements elements).at role) := by
  have inside : ∀ role, index < (memory.contents (arrayPlaces.at role)).size := by
    intro role
    rw [← Memory.isSome_column_iff, there role]
    rfl
  have distinct : ∀ other, arrayPlaces.at other = arrayPlaces.at role → other = role := by
    intro other
    cases other <;> cases role <;> simp [arrayPlaces, Triple.at]
  by_cases written : role ∈ kernel.targets
  · exact kernel.column_run_of_mem_targets (fun role _ => inside role) (fun source _ => there source)
      written fun other _ => distinct other
  · have kept : (kernel.body.run arrayPlaces index memory).2.contents (arrayPlaces.at role) =
        memory.contents (arrayPlaces.at role) := by
      apply kernel.body.contents_run_of_not_writes
      intro other writes same
      exact written (distinct other same ▸ (kernel.keepsRoles.writes_iff other).mp writes)
    rw [onElements_of_not_mem_targets written, ← there role]
    exact congrArg (·[index]?) kept

/-- On arrays that fill their buffers a kernel does what it does to lists. -/
theorem lists_pointwise (kernel : Elementwise α) {arraySize : Nat}
    (sizes : ∀ role, (memory.contents (arrayPlaces.at role)).size = arraySize) :
    (kernel.pointwise arrayPlaces arraySize memory).lists arrayPlaces =
      kernel.onLists (memory.lists arrayPlaces) := by
  have within : ∀ role,
      kernel.body.Touches role → arraySize ≤ (memory.contents (arrayPlaces.at role)).size :=
    fun role _ => Nat.le_of_eq (sizes role).symm
  have lengths : ∀ role, ((memory.lists arrayPlaces).at role).length = arraySize := by
    intro role
    rw [← sizes role]
    cases role <;> rfl
  have equal : ∀ role, ((kernel.pointwise arrayPlaces arraySize memory).contents
      (arrayPlaces.at role)).toList = (kernel.onLists (memory.lists arrayPlaces)).at role := by
    intro role
    apply toList_pointwise within (sizes role) (length_onLists kernel lengths role)
    intro index below
    have inA : index < (memory.contents 0).size := sizes .a ▸ below
    have inB : index < (memory.contents 1).size := sizes .b ▸ below
    have inC : index < (memory.contents 2).size := sizes .c ▸ below
    have there : ∀ role, memory.column index (arrayPlaces.at role) =
        some ((⟨(memory.contents 0)[index], (memory.contents 1)[index],
          (memory.contents 2)[index]⟩ : Triple α).at role) := by
      intro role
      cases role <;> exact Memory.column_of_lt _
    have listed : ∀ role, ((memory.lists arrayPlaces).at role)[index]? =
        memory.column index (arrayPlaces.at role) := by
      intro role
      cases role <;> exact Array.getElem?_toList
    refine (column_run kernel there role).trans (getElem?_onLists kernel (fun role => ?_) role).symm
    rw [listed, there]
  calc (kernel.pointwise arrayPlaces arraySize memory).lists arrayPlaces
      = ⟨(kernel.onLists (memory.lists arrayPlaces)).at .a,
          (kernel.onLists (memory.lists arrayPlaces)).at .b,
          (kernel.onLists (memory.lists arrayPlaces)).at .c⟩ := by
        rw [← equal .a, ← equal .b, ← equal .c]
        rfl
    _ = kernel.onLists (memory.lists arrayPlaces) := rfl

end Elementwise

namespace Stream

variable {α : Type} [Element α] {stream : Stream α}

/-- A sound stream is what a dot product by its groups relies on. -/
theorem Sound.contract (sound : stream.Sound) (fits : stream.blocks * standardGroup < Word.bound) :
    Dot.Contract ⟨stream.blocks, standardGroup⟩ standardLevels arrayPlaces.a arrayPlaces.b sumsPlace
      stream.arraySize stream.memory where
  powerOfTwo := rfl
  fits := fits
  isWord := sound.isWord
  inA := Nat.le_of_eq sound.a_size.symm
  inB := Nat.le_of_eq sound.b_size.symm
  inSums := Nat.le_of_eq sound.sums_size.symm
  sums_ne_a := by decide
  sums_ne_b := by decide

def memoryAfterDot (stream : Stream α) : Memory α :=
  Dot.published sumsPlace
    (Dot.partialSum ⟨stream.blocks, standardGroup⟩ standardLevels arrayPlaces.a arrayPlaces.b
      stream.arraySize stream.memory)
    (List.range stream.blocks) stream.memory

theorem sums_memoryAfterDot (sound : stream.Sound)
    (fits : stream.blocks * standardGroup < Word.bound) :
    (stream.memoryAfterDot.contents sumsPlace).toList =
      (List.range stream.blocks).map (Dot.groupSum standardLevels stream.lists.a stream.lists.b
        stream.lists.a.length ⟨stream.blocks, standardGroup⟩) := by
  apply List.ext_getElem?
  intro index
  rw [Array.getElem?_toList]
  apply (Dot.getElem?_partialSums (sound.contract fits) index).trans
  have length : stream.lists.a.length = stream.arraySize := sound.a_size
  have size : (stream.memory.contents sumsPlace).size = stream.blocks := sound.sums_size
  rcases Nat.lt_or_ge index stream.blocks with below | past
  · rw [if_pos below, length]
    simp [below]
    rfl
  · rw [if_neg (Nat.not_lt.mpr past), Array.getElem?_eq_none (by omega),
      List.getElem?_eq_none (by simpa using past)]

/-- The dot product of a sound stream is that of its lists. -/
theorem dot_run (sound : stream.Sound) (fits : stream.blocks * standardGroup < Word.bound)
    (log : Array Event) :
    ∃ after, (dot : Action (Stream α) α).run ⟨stream, log⟩ =
      (.ok (Dot.listSum stream.blocks stream.lists.a stream.lists.b),
        ⟨{ stream.setMemory stream.memoryAfterDot with device := stream.launched }, after⟩) := by
  have contract := sound.contract fits
  have answers : stream.blocks * Word.bytes ≤ Word.greatestObject := by
    simp only [standardGroup, Word.bound] at fits
    simp only [Word.bytes, Word.greatestObject]
    omega
  have shared : standardGroup * Element.bytes α ≤ Word.greatestObject :=
    Nat.le_trans (Nat.mul_le_mul_left standardGroup (Element.bytes_le α)) (by decide)
  have launched := launching_run (Dot.launch_run contract answers shared stream.device log)
  have viewed : ∀ log,
      (Buffer.view { stream.sums with contents := stream.memoryAfterDot.contents sumsPlace }).run
          ⟨stream.launched, log⟩ =
        (.ok (stream.memoryAfterDot.contents sumsPlace), ⟨stream.launched, log⟩) := by
    intro log
    refine Buffer.view_run ?_ rfl log
    rw [sound.sums_pinned]
    rfl
  rw [Dot.listSum, ← sums_memoryAfterDot sound fits, Array.foldl_toList]
  rw [dot, Action.get_bind_run]
  dsimp only
  rw [Geometry.reduction, Procedure.bind_run_of_ok launched,
    Procedure.bind_run_of_ok (onDevice_run (Device.synchronize_run _ _)), Action.get_bind_run,
    Procedure.bind_run_of_ok (onDevice_run (viewed _))]
  exact ⟨_, rfl⟩

end Stream

end Bandwidth
