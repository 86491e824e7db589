import Bandwidth.Proofs.Launch.Numbering
import Bandwidth.Proofs.Stream.Reachable

/-!
# Streams that never fault

A created stream is safe to use, whatever was done with it before and whatever is in flight on its
device. Its grids can be numbered with words, its workers load and store elements of the arrays only,
and its queue is idle when the host looks. So each call succeeds and leaves the device idle, unless it
brings arrays of another length; such a call is refused and has done nothing.

All of this goes back to two numbers. The memory check at creation bounds the length of the arrays,
and the number of compute units bounds the grid of a dot product.
-/

namespace Bandwidth

namespace Stream

variable {α : Type} [Element α] {stream : Stream α}

/-- An elementwise launch runs its kernel at indices of the arrays, and nowhere else. -/
structure ElementwiseInBounds (stream : Stream α) (geometry : Geometry) : Prop where
  visits : ∀ (kernel : Elementwise α) (worker : Worker), worker.geometry = geometry →
    worker.InGrid → kernel.perWorker arrayPlaces stream.arraySize worker =
      Procedure.forEach (kernel.body.run arrayPlaces) (worker.indices stream.arraySize)
  below : ∀ worker : Worker, ∀ index ∈ worker.indices stream.arraySize, index < stream.arraySize

/-- A dot product adds up products at indices of the arrays, and publishes a partial sum at the
number of each group. -/
structure DotInBounds (stream : Stream α) (geometry : Geometry) : Prop where
  visits : ∀ worker : Worker, worker.geometry = geometry → worker.InGrid →
    Dot.accumulate arrayPlaces.a arrayPlaces.b stream.arraySize worker = (do
      GroupState.modifySlots (·.setIfInBounds worker.localId Element.zero)
      Procedure.forEach (Dot.addProduct arrayPlaces.a arrayPlaces.b worker.localId)
        (worker.indices stream.arraySize) : Procedure Fault (GroupState α (Memory α)) Unit)
  below : ∀ worker : Worker, ∀ index ∈ worker.indices stream.arraySize, index < stream.arraySize
  publishes : ∀ worker : Worker, worker.geometry = geometry → worker.InGrid →
    worker.groupId < stream.blocks

theorem Sound.elementwiseInBounds (sound : stream.Sound) {geometry : Geometry}
    (fits : geometry.size < Word.bound) : stream.ElementwiseInBounds geometry where
  visits := by
    rintro kernel worker rfl inGrid
    exact kernel.perWorker_eq inGrid fits sound.isWord
  below _ _ mem := (Worker.mem_indices_iff.mp mem).1

theorem Sound.dotInBounds (sound : stream.Sound)
    (fits : stream.blocks * standardGroup < Word.bound) :
    stream.DotInBounds (Geometry.reduction stream.blocks standardGroup) where
  visits worker grid inGrid := Dot.accumulate_eq inGrid (by rw [grid]; exact fits) sound.isWord
  below _ _ mem := (Worker.mem_indices_iff.mp mem).1
  publishes worker grid inGrid := by
    have below := inGrid.groupId_lt
    rw [grid] at below
    exact below

omit [Element α] in
/-- Arrays that have not the length of the stream are refused, and the first of them is named. -/
theorem checkHostLengths_mismatch {expected : Nat} {lengths : Triple Nat}
    (different : lengths ≠ ⟨expected, expected, expected⟩) :
    ∃ actual, actual ≠ expected ∧
      checkHostLengths expected lengths = .error (.lengthMismatch expected actual) := by
  unfold checkHostLengths
  split
  · rename_i actual found
    exact ⟨actual, by simpa using List.find?_some found, rfl⟩
  · rename_i none
    refine absurd ?_ different
    rcases lengths with ⟨a, b, c⟩
    simpa [Triple.toList] using none

/-- A call that brings arrays of the right length succeeds, and then nothing is in flight. -/
theorem perform_settles (sound : stream.Sound) (fits : stream.blocks * standardGroup < Word.bound)
    {operation : Operation α} (sized : operation.Sized stream.arraySize) (log : Array Event) :
    ∃ answer after told, (operation.perform interface).run ⟨stream, log⟩ =
        (.ok answer, ⟨after, told⟩) ∧ after.device.inFlight = 0 := by
  cases operation with
  | fill values =>
      rcases elementwise_run sound (.fill values) log with ⟨told, ran⟩
      rw [Operation.perform, interface_fill]
      exact ⟨_, _, told, Procedure.bind_run_of_ok ran _, rfl⟩
  | write source =>
      rcases @write_run _ _ _ sound (source.map List.toArray) sized log with ⟨told, ran⟩
      exact ⟨_, _, told, Procedure.bind_run_of_ok ran _, rfl⟩
  | kernel kernel =>
      rw [Operation.perform]
      cases found : (kernel.elementwise? : Option (Elementwise α)) with
      | some named =>
          rcases elementwise_run sound named log with ⟨told, ran⟩
          rw [runKernel_eq_elementwise found]
          exact ⟨_, _, told, Procedure.bind_run_of_ok (Procedure.bind_run_of_ok ran _) _, rfl⟩
      | none =>
          have isDot : kernel = .dot := by
            cases kernel <;> first | rfl | simp [Kernel.elementwise?] at found
          subst isDot
          rcases dot_run sound fits log with ⟨told, ran⟩
          exact ⟨_, _, told, Procedure.bind_run_of_ok (Procedure.bind_run_of_ok ran _) _, rfl⟩
  | read host =>
      rcases @readInto_run _ _ _ sound (host.map List.toArray) sized log with ⟨told, ran⟩
      exact ⟨_, _, told, Procedure.bind_run_of_ok ran _, rfl⟩

/-- A call that brings arrays of another length is refused, and has no effect. -/
theorem perform_refuses {operation : Operation α} (unsized : ¬operation.Sized stream.arraySize)
    (log : Array Event) :
    ∃ actual, actual ≠ stream.arraySize ∧ (operation.perform interface).run ⟨stream, log⟩ =
      (.error (.failure (.lengthMismatch stream.arraySize actual)), ⟨stream, log⟩) := by
  cases operation with
  | fill values => exact absurd trivial unsized
  | kernel kernel => exact absurd trivial unsized
  | write source =>
      rcases checkHostLengths_mismatch unsized with ⟨actual, different, refused⟩
      have ran := @write_run_of_error _ _ (source.map List.toArray) _ refused log
      exact ⟨actual, different, Procedure.bind_run_of_error ran _⟩
  | read host =>
      rcases checkHostLengths_mismatch unsized with ⟨actual, different, refused⟩
      have ran := @readInto_run_of_error _ _ _ (host.map List.toArray) _ refused log
      exact ⟨actual, different, Procedure.bind_run_of_error ran _⟩

/--
Whatever was done with a created stream, no arithmetic of its launches leaves the words, no worker
leaves the arrays, and every call succeeds and leaves the device idle, except for transfers to or from
arrays of another length, which are refused.
-/
theorem reachable_never_faults {platform : Platform} {config : StreamConfig}
    (reachable : Reachable platform config stream)
    (units : stream.device.description.units < 2 ^ 52) :
    (∃ geometry, Geometry.elementwise stream.arraySize standardGroup = .ok geometry ∧
        geometry.Numbered ∧ stream.ElementwiseInBounds geometry) ∧
      (stream.device.description.dotBlocks = .ok stream.blocks ∧
        (Geometry.reduction stream.blocks standardGroup).Numbered ∧
        stream.DotInBounds (Geometry.reduction stream.blocks standardGroup)) ∧
      (stream.arraySize = config.arraySize ∧ stream.arrays.a.contents.size = stream.arraySize ∧
        stream.arrays.b.contents.size = stream.arraySize ∧
        stream.arrays.c.contents.size = stream.arraySize ∧
        stream.sums.contents.size = stream.blocks) ∧
      ∀ (operation : Operation α) (log : Array Event),
        (operation.Sized stream.arraySize →
          ∃ answer after told, (operation.perform interface).run ⟨stream, log⟩ =
            (.ok answer, ⟨after, told⟩) ∧ after.device.inFlight = 0) ∧
        (¬operation.Sized stream.arraySize →
          ∃ actual, actual ≠ stream.arraySize ∧
            (operation.perform interface).run ⟨stream, log⟩ =
              (.error (.failure (.lengthMismatch stream.arraySize actual)), ⟨stream, log⟩)) := by
  rcases reachable.sound with ⟨sound, size_eq, units_pos⟩
  have fits : stream.blocks * standardGroup < Word.bound := by
    refine sound.blocks_fit units_pos ?_
    simp only [Word.bound]
    omega
  rcases elementwise_geometry sound with ⟨grid, -, gridFits, geometryEq⟩
  exact ⟨⟨_, geometryEq, Geometry.numbered_of_fits gridFits, sound.elementwiseInBounds gridFits⟩,
    ⟨sound.blocks_eq, Geometry.numbered_of_fits fits, sound.dotInBounds fits⟩,
    ⟨size_eq, sound.a_size, sound.b_size, sound.c_size, sound.sums_size⟩,
    fun operation log => ⟨fun sized => perform_settles sound fits sized log,
      fun unsized => perform_refuses unsized log⟩⟩

/-- A dot product of three elements beside a launch that somebody else left in flight. -/
theorem dot_beside_launch_in_flight :
    ∃ (stream : Stream Float) (created : Logged Unit),
      (create .sequential ⟨3, 0, .managed⟩).run ⟨(), #[]⟩ = (.ok stream, created) ∧
        let busy : Stream Float := { stream with device := stream.device.beginLaunch }
        busy.device.inFlight = 1 ∧
          ∃ answer after told, ((Operation.kernel .dot).perform interface).run ⟨busy, #[]⟩ =
            (.ok answer, ⟨after, told⟩) ∧ after.device.inFlight = 0 := by
  have made : ∃ (stream : Stream Float) (created : Logged Unit),
      (create .sequential ⟨3, 0, .managed⟩).run ⟨(), #[]⟩ = (.ok stream, created) ∧
        stream.device.description.units = 1 ∧ stream.device.inFlight = 0 :=
    ⟨_, _, rfl, rfl, rfl⟩
  rcases made with ⟨stream, created, made, units, idle⟩
  refine ⟨stream, created, made, congrArg (Word.addWrapping · 1) idle, ?_⟩
  have reachable : Reachable .sequential ⟨3, 0, .managed⟩
      { stream with device := stream.device.beginLaunch } :=
    .used rfl (.created made)
  have small : stream.device.beginLaunch.description.units < 2 ^ 52 := by
    rw [show stream.device.beginLaunch.description.units = 1 from units]
    decide
  rcases reachable_never_faults reachable small with ⟨-, -, -, operations⟩
  exact (operations (.kernel .dot) #[]).1 trivial

end Stream

end Bandwidth
