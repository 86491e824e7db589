import Bandwidth.Proofs.Device
import Bandwidth.Stream

/-!
# Streams that were created

Creation checks the length of the arrays, the device and its memory, and asks the host for each
block. What a stream keeps of these checks is the invariant `Stream.Sound`. It rests on the parts of
a stream that no operation changes, and on the lengths of its buffers.
-/

namespace Bandwidth

namespace Stream

variable {α : Type} [Element α]

/-- What the operations of a stream rely on. -/
structure Sound (stream : Stream α) : Prop where
  size_pos : 0 < stream.arraySize
  bytes_le : stream.arraySize * Element.bytes α ≤ Word.greatestObject
  a_size : stream.arrays.a.contents.size = stream.arraySize
  b_size : stream.arrays.b.contents.size = stream.arraySize
  c_size : stream.arrays.c.contents.size = stream.arraySize
  sums_size : stream.sums.contents.size = stream.blocks
  a_resident : stream.arrays.a.placement = .resident stream.residency
  b_resident : stream.arrays.b.placement = .resident stream.residency
  c_resident : stream.arrays.c.placement = .resident stream.residency
  sums_pinned : stream.sums.placement = .pinned
  blocks_pos : 0 < stream.blocks
  blocks_eq : stream.device.description.dotBlocks = .ok stream.blocks

end Stream

namespace Stream

variable {α : Type} [Element α]

/-- The buffers of a new stream are zeroed blocks of the lengths that were asked for. -/
theorem of_allocateBuffers_run_ok {platform : Platform} {arraySize index blocks : Nat}
    {residency : Residency} {arrays : Triple (Buffer α)} {sums : Buffer α}
    {logged after : Logged Device}
    (ran : (allocateBuffers platform arraySize index residency).run logged =
      (.ok (blocks, arrays, sums), after)) :
    logged.state.description.dotBlocks = .ok blocks ∧ 0 < blocks ∧ 0 < arraySize ∧
      arraySize * Element.bytes α ≤ Word.greatestObject ∧
      arrays = ⟨.zeroed arraySize (.resident residency), .zeroed arraySize (.resident residency),
        .zeroed arraySize (.resident residency)⟩ ∧
      sums = .zeroed blocks .pinned ∧ after.state.description = logged.state.description := by
  have chosen := Action.of_get_bind_run_ok ran
  have told := Action.of_emit_bind_run_ok chosen
  rcases Action.of_check_bind_run_ok told with ⟨_, _, driven⟩
  have named := Action.of_emit_bind_run_ok driven
  have placed := Action.of_emit_bind_run_ok named
  rcases Procedure.of_ofExcept_bind_run_ok placed with ⟨_, _, fits⟩
  rcases Action.of_checked_bind_run_ok fits with ⟨grid, gridEq, gridded⟩
  rcases Procedure.of_bind_run_ok gridded with ⟨pinned, _, pinnedRan, withSums⟩
  rcases Procedure.of_bind_run_ok withSums with ⟨a, _, aRan, withA⟩
  rcases Procedure.of_bind_run_ok withA with ⟨b, _, bRan, withB⟩
  rcases Procedure.of_bind_run_ok withB with ⟨c, _, cRan, withC⟩
  have done := Action.of_emit_bind_run_ok withC
  rcases Buffer.of_provide_run_ok pinnedRan with ⟨rfl, grid_pos, _, pinnedOn⟩
  rcases Buffer.of_allocate_run_ok aRan with ⟨rfl, size_pos, bytes_le, aOn⟩
  rcases Buffer.of_allocate_run_ok bRan with ⟨rfl, _, _, bOn⟩
  rcases Buffer.of_allocate_run_ok cRan with ⟨rfl, _, _, cOn⟩
  simp only [Procedure.pure_run, Prod.mk.injEq, Except.ok.injEq] at done
  rcases done with ⟨⟨rfl, rfl, rfl⟩, rfl⟩
  exact ⟨gridEq, grid_pos, size_pos, bytes_le, rfl, rfl, cOn.trans (bOn.trans (aOn.trans pinnedOn))⟩

omit [Element α] in
theorem of_closingOnFailure_run_ok {σ β : Type} {device last : Device} {action : Action Device β}
    {value : β} {logged after : Logged σ}
    (ran : (closingOnFailure device action).run logged = (.ok (value, last), after)) :
    ∃ log, action.run ⟨device, logged.log⟩ = (.ok value, ⟨last, log⟩) := by
  simp only [Procedure.run, closingOnFailure] at ran ⊢
  rcases acted : action ⟨device, logged.log⟩ with ⟨reason | found, part⟩
  · simp [acted] at ran
  · simp only [acted, Prod.mk.injEq, Except.ok.injEq] at ran
    rcases ran with ⟨⟨rfl, rfl⟩, rfl⟩
    exact ⟨part.log, rfl⟩

theorem units_pos_of_openDevice {σ : Type} {platform : Platform} {index : Nat} {device : Device}
    {logged after : Logged σ} (ran : (platform.openDevice index).run logged = (.ok device, after)) :
    0 < device.description.units := by
  rcases Action.of_check_bind_run_ok ran with ⟨description, found, opened⟩
  have done := Action.of_emit_bind_run_ok opened
  simp only [Procedure.pure_run, Prod.mk.injEq, Except.ok.injEq] at done
  rw [← done.1]
  unfold Platform.device at found
  split at found
  · rcases Except.ok.inj found with rfl
    exact Nat.le_max_right _ 1
  · simp at found

/-- A stream that was created is sound, and its arrays are zeroed. -/
theorem of_create_run_ok {σ : Type} {platform : Platform} {config : StreamConfig}
    {start created : Logged σ} {stream : Stream α}
    (made : (create platform config).run start = (.ok stream, created)) :
    stream.Sound ∧ stream.arraySize = config.arraySize ∧ 0 < stream.device.description.units ∧
      stream.arrays = ⟨.zeroed config.arraySize (.resident config.residency),
        .zeroed config.arraySize (.resident config.residency),
        .zeroed config.arraySize (.resident config.residency)⟩ := by
  rcases Action.of_check_bind_run_ok made with ⟨_, _, valid⟩
  rcases Procedure.of_bind_run_ok valid with ⟨device, opened, openRan, withDevice⟩
  rcases Procedure.of_bind_run_ok withDevice with
    ⟨⟨⟨blocks, arrays, sums⟩, last⟩, between, closing, done⟩
  rcases of_closingOnFailure_run_ok closing with ⟨log, allocated⟩
  rcases of_allocateBuffers_run_ok allocated with
    ⟨blocks_eq, blocks_pos, size_pos, bytes_le, arraysEq, sumsEq, described⟩
  have units_pos := units_pos_of_openDevice openRan
  simp only [Procedure.pure_run, Prod.mk.injEq, Except.ok.injEq] at done
  rcases done with ⟨rfl, rfl⟩
  simp only at described blocks_eq
  subst arraysEq sumsEq
  refine ⟨⟨size_pos, bytes_le, Array.size_replicate, Array.size_replicate, Array.size_replicate,
    Array.size_replicate, rfl, rfl, rfl, rfl, blocks_pos, ?_⟩, rfl, ?_, rfl⟩
  · rw [← blocks_eq, ← described]
  · rw [← described] at units_pos
    exact units_pos

end Stream

end Bandwidth
