import Bandwidth.Element.Native
import Bandwidth.Proofs.Stream.Transfers

/-!
# Streams refine lists

Every operation of a sound stream succeeds, leaves it sound, and does to its arrays what it does to
lists. So the arrays after any sequence of operations, and everything that the sequence hands back,
are known from lists alone.
-/

namespace Bandwidth

namespace Stream

variable {α : Type} [Element α] {stream : Stream α}

/-- A sound stream that other operations may have made of a stream. -/
structure Follows (stream after : Stream α) : Prop where
  sound : after.Sound
  arraySize_eq : after.arraySize = stream.arraySize
  residency_eq : after.residency = stream.residency
  blocks_eq : after.blocks = stream.blocks
  description_eq : after.device.description = stream.device.description

theorem Follows.trans {between after : Stream α} (first : stream.Follows between)
    (second : between.Follows after) : stream.Follows after where
  sound := second.sound
  arraySize_eq := second.arraySize_eq.trans first.arraySize_eq
  residency_eq := second.residency_eq.trans first.residency_eq
  blocks_eq := second.blocks_eq.trans first.blocks_eq
  description_eq := second.description_eq.trans first.description_eq

/-- A launch that changes the contents of buffers, but not their lengths, leaves a stream sound. -/
theorem follows_setMemory (sound : stream.Sound) {memory : Memory α} {device : Device}
    (same : device.description = stream.device.description)
    (sizes : ∀ buffer, (memory.contents buffer).size = (stream.memory.contents buffer).size) :
    stream.Follows { stream.setMemory memory with device := device } where
  sound :=
    { size_pos := sound.size_pos
      bytes_le := sound.bytes_le
      a_size := (sizes 0).trans sound.a_size
      b_size := (sizes 1).trans sound.b_size
      c_size := (sizes 2).trans sound.c_size
      sums_size := (sizes 3).trans sound.sums_size
      a_resident := sound.a_resident
      b_resident := sound.b_resident
      c_resident := sound.c_resident
      sums_pinned := sound.sums_pinned
      blocks_pos := sound.blocks_pos
      blocks_eq := same ▸ sound.blocks_eq }
  arraySize_eq := rfl
  residency_eq := rfl
  blocks_eq := rfl
  description_eq := same

theorem elementwise_refines (sound : stream.Sound) (kernel : Elementwise α) (log : Array Event) :
    ∃ after told, (elementwise kernel).run ⟨stream, log⟩ = (.ok (), ⟨after, told⟩) ∧
      stream.Follows after ∧ after.lists = kernel.onLists stream.lists := by
  rcases elementwise_run sound kernel log with ⟨told, ran⟩
  refine ⟨_, told, ran, follows_setMemory sound rfl fun buffer => ?_, ?_⟩
  · rw [Elementwise.size_contents_pointwise]
  · apply Elementwise.lists_pointwise kernel
    intro role
    cases role with
    | a => exact sound.a_size
    | b => exact sound.b_size
    | c => exact sound.c_size

theorem dot_refines (sound : stream.Sound) (fits : stream.blocks * standardGroup < Word.bound)
    (log : Array Event) :
    ∃ after told, (dot : Action (Stream α) α).run ⟨stream, log⟩ =
        (.ok (Dot.listSum stream.blocks stream.lists.a stream.lists.b), ⟨after, told⟩) ∧
      stream.Follows after ∧ after.lists = stream.lists := by
  rcases dot_run sound fits log with ⟨told, ran⟩
  refine ⟨_, told, ran, follows_setMemory sound rfl fun _ => Dot.size_contents_published _, ?_⟩
  have unchanged : ∀ buffer,
      buffer ≠ sumsPlace → stream.memoryAfterDot.contents buffer = stream.memory.contents buffer :=
    fun buffer different => Dot.contents_published_of_ne different
  have a := unchanged arrayPlaces.a (by decide)
  have b := unchanged arrayPlaces.b (by decide)
  have c := unchanged arrayPlaces.c (by decide)
  simp only [lists, setMemory, Triple.map, a, b, c]
  rfl

theorem write_refines (sound : stream.Sound) {source : Triple (List α)}
    (lengths : source.map List.length = ⟨stream.arraySize, stream.arraySize, stream.arraySize⟩)
    (log : Array Event) :
    ∃ after told, (write (source.map List.toArray)).run ⟨stream, log⟩ = (.ok (), ⟨after, told⟩) ∧
      stream.Follows after ∧ after.lists = source := by
  rcases @write_run _ _ _ sound (source.map List.toArray) lengths log with ⟨told, ran⟩
  refine ⟨_, told, ran, ⟨?_, rfl, rfl, rfl, rfl⟩, rfl⟩
  exact
    { sound with
      a_size := congrArg Triple.a lengths
      b_size := congrArg Triple.b lengths
      c_size := congrArg Triple.c lengths }

theorem read_refines (sound : stream.Sound) {host : Triple (List α)}
    (lengths : host.map List.length = ⟨stream.arraySize, stream.arraySize, stream.arraySize⟩)
    (log : Array Event) :
    ∃ after told, (interface.readInto (host.map List.toArray)).run ⟨stream, log⟩ =
        (.ok (stream.arrays.map Buffer.contents), ⟨after, told⟩) ∧
      stream.Follows after ∧ after.lists = stream.lists := by
  rcases @readInto_run _ _ _ sound (host.map List.toArray) lengths log with ⟨told, ran⟩
  exact ⟨_, told, ran, ⟨{ sound with }, rfl, rfl, rfl, rfl⟩, rfl⟩

theorem interface_fill (values : Triple α) :
    (interface : Interface (Logged (Stream α)) α).fill values = elementwise (.fill values) := by
  simp only [interface, fill]

theorem runKernel_eq_elementwise {kernel : Kernel} {named : Elementwise α}
    (found : kernel.elementwise? = some named) :
    (interface : Interface (Logged (Stream α)) α).runKernel kernel =
      (do elementwise named; return none) := by
  cases kernel with
  | dot => simp [Kernel.elementwise?] at found
  | _ =>
      rw [← Option.some.inj found]
      simp only [Interface.runKernel, interface, copy, mul, add, triad, nstream]

/-- A kernel that is run by its name has the result, and does to the arrays, what it has and does on
lists. -/
theorem runKernel_refines (sound : stream.Sound) {kernel : Kernel}
    (fits : kernel = .dot → stream.blocks * standardGroup < Word.bound) (log : Array Event) :
    ∃ after told, (interface.runKernel kernel).run ⟨stream, log⟩ =
        (.ok (kernel.resultOn stream.blocks stream.lists), ⟨after, told⟩) ∧
      stream.Follows after ∧ after.lists = kernel.onLists stream.lists := by
  rw [Kernel.onLists]
  cases found : (kernel.elementwise? : Option (Elementwise α)) with
  | some named =>
      have noResult : kernel.resultOn stream.blocks stream.lists = none := by
        cases kernel with
        | dot => simp [Kernel.elementwise?] at found
        | _ => rfl
      rcases elementwise_refines sound named log with ⟨after, told, ran, follows, afterLists⟩
      refine ⟨after, told, ?_, follows, afterLists⟩
      rw [runKernel_eq_elementwise found, Procedure.bind_run_of_ok ran, noResult]
      rfl
  | none =>
      have isDot : kernel = .dot := by
        cases kernel with
        | dot => rfl
        | _ => simp [Kernel.elementwise?] at found
      rcases dot_refines sound (fits isDot) log with ⟨after, told, ran, follows⟩
      subst isDot
      exact ⟨after, told, Procedure.bind_run_of_ok ran _, follows⟩

/-- Every operation succeeds and does to the arrays what it does to lists. -/
theorem perform_refines (sound : stream.Sound) (fits : stream.blocks * standardGroup < Word.bound)
    {operation : Operation α} (sized : operation.Sized stream.arraySize) (log : Array Event) :
    ∃ after told, (operation.perform interface).run ⟨stream, log⟩ =
        (.ok (operation.answer stream.blocks stream.lists), ⟨after, told⟩) ∧
      stream.Follows after ∧ after.lists = operation.onLists stream.lists := by
  cases operation with
  | fill values =>
      rcases elementwise_refines sound (.fill values) log with ⟨after, told, ran, follows⟩
      refine ⟨after, told, ?_, follows⟩
      rw [Operation.perform, interface_fill, Procedure.bind_run_of_ok ran]
      rfl
  | write source =>
      rcases write_refines sound sized log with ⟨after, told, ran, follows⟩
      exact ⟨after, told, Procedure.bind_run_of_ok ran _, follows⟩
  | kernel kernel =>
      rcases @runKernel_refines _ _ _ sound kernel (fun _ => fits) log with
        ⟨after, told, ran, follows⟩
      exact ⟨after, told, Procedure.bind_run_of_ok ran _, follows⟩
  | read host =>
      rcases read_refines sound sized log with ⟨after, told, ran, follows⟩
      exact ⟨after, told, Procedure.bind_run_of_ok ran _, follows⟩

theorem performs_refine (sound : stream.Sound) (fits : stream.blocks * standardGroup < Word.bound)
    {operations : List (Operation α)}
    (sized : ∀ operation ∈ operations, operation.Sized stream.arraySize) (log : Array Event) :
    ∃ after told, (Operation.performAll interface operations).run ⟨stream, log⟩ =
        (.ok (Operation.answers stream.blocks operations stream.lists), ⟨after, told⟩) ∧
      stream.Follows after ∧ after.lists = Operation.listsAfter operations stream.lists := by
  induction operations generalizing stream log with
  | nil => exact ⟨stream, log, rfl, ⟨sound, rfl, rfl, rfl, rfl⟩, rfl⟩
  | cons operation operations ih =>
      rcases perform_refines sound fits (sized operation List.mem_cons_self) log with
        ⟨between, log1, first, follows, betweenLists⟩
      have laterSized : ∀ other ∈ operations, other.Sized between.arraySize := by
        intro other otherMem
        rw [follows.arraySize_eq]
        exact sized other (List.mem_cons_of_mem _ otherMem)
      rcases ih follows.sound (follows.blocks_eq ▸ fits) laterSized log1 with
        ⟨after, told, rest, laterFollows, afterLists⟩
      refine ⟨after, told, ?_, follows.trans laterFollows, ?_⟩
      · rw [Operation.performAll] at rest ⊢
        rw [List.mapM_cons, Procedure.bind_run_of_ok first, Procedure.bind_run_of_ok rest,
          follows.blocks_eq, betweenLists]
        rfl
      · rw [afterLists, betweenLists]
        rfl

/-- The groups of a dot product are four for each compute unit. -/
theorem Sound.blocks_fit (sound : stream.Sound) (units_pos : 0 < stream.device.description.units)
    (fits : 4 * stream.device.description.units * 1024 < Word.bound) :
    stream.blocks * standardGroup < Word.bound := by
  have blocksEq := sound.blocks_eq
  simp only [Description.dotBlocks, Bandwidth.dotBlocks, Word.mul,
    Nat.max_eq_left units_pos] at blocksEq
  split at blocksEq
  · have count := Except.ok.inj blocksEq
    simp only [dotGroupsPerUnit] at count
    rwa [← count, Nat.mul_comm stream.device.description.units]
  · simp at blocksEq

/--
On a stream that was created every sequence of operations succeeds. Its arrays are then, and its
reads and dot products were, those of three lists that start with zeros.
-/
theorem operations_refine_lists {σ : Type} {platform : Platform} {config : StreamConfig}
    {start created : Logged σ} {stream : Stream α}
    (made : (create platform config).run start = (.ok stream, created))
    (fits : 4 * stream.device.description.units * 1024 < Word.bound)
    {operations : List (Operation α)}
    (sized : ∀ operation ∈ operations, operation.Sized config.arraySize) (log : Array Event) :
    let zeros := List.replicate config.arraySize (Element.zero : α)
    ∃ after told, (Operation.performAll interface operations).run ⟨stream, log⟩ =
        (.ok (Operation.answers stream.blocks operations ⟨zeros, zeros, zeros⟩), ⟨after, told⟩) ∧
      after.lists = Operation.listsAfter operations ⟨zeros, zeros, zeros⟩ ∧
      (∀ role, (after.lists.at role).length = config.arraySize) ∧ after.blocks = stream.blocks := by
  intro zeros
  rcases of_create_run_ok made with ⟨sound, sizeEq, units_pos, arraysEq⟩
  have listsEq : stream.lists = ⟨zeros, zeros, zeros⟩ := by
    simp [lists, arraysEq, Triple.map, Buffer.zeroed, zeros]
  rcases performs_refine sound (sound.blocks_fit units_pos fits) (sizeEq ▸ sized) log with
    ⟨after, told, ran, follows, afterLists⟩
  rw [listsEq] at ran afterLists
  refine ⟨after, told, ran, afterLists, fun role => ?_, follows.blocks_eq⟩
  rw [← sizeEq, ← follows.arraySize_eq]
  cases role with
  | a => exact follows.sound.a_size
  | b => exact follows.sound.b_size
  | c => exact follows.sound.c_size

/-- On three elements: a triad over filled arrays, a dot product, and a read. -/
theorem triad_dot_read_on_three :
    ∃ (stream : Stream Float) (created : Logged Unit),
      (create .sequential ⟨3, 0, .managed⟩).run ⟨(), #[]⟩ = (.ok stream, created) ∧
        let filled : Triple (List Float) :=
          ⟨List.replicate 3 (2.0 + 3.0 * 0.5), List.replicate 3 2.0, List.replicate 3 0.5⟩
        ∃ after told,
          (Operation.performAll interface [.fill ⟨1.0, 2.0, 0.5⟩, .kernel .triad, .kernel .dot,
            .read filled]).run
              ⟨stream, #[]⟩ =
            (.ok [.nothing, .result none, .result (some (Dot.listSum 4 filled.a filled.b)),
              .contents filled],
              ⟨after, told⟩) := by
  have made : ∃ (stream : Stream Float) (created : Logged Unit),
      (create .sequential ⟨3, 0, .managed⟩).run ⟨(), #[]⟩ = (.ok stream, created) ∧
        stream.device.description.units = 1 ∧ stream.blocks = 4 :=
    ⟨_, _, rfl, rfl, rfl⟩
  rcases made with ⟨stream, created, made, units, blocks⟩
  refine ⟨stream, created, made, ?_⟩
  intro filled
  have fits : 4 * stream.device.description.units * 1024 < Word.bound := by
    rw [units]
    decide
  have sized :
      ∀ operation ∈ [Operation.fill ⟨1.0, 2.0, 0.5⟩, .kernel .triad, .kernel .dot, .read filled],
      operation.Sized 3 := by
    simp [Operation.Sized, Triple.map, filled]
  rcases operations_refine_lists made fits sized #[] with ⟨after, told, ran, _⟩
  rw [blocks] at ran
  exact ⟨after, told, ran⟩

end Stream

end Bandwidth
