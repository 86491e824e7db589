import Bandwidth.Proofs.Stream.Kernels
import Bandwidth.Stream.Interface

/-!
# Host arrays and streams

The host gets at the arrays of a stream in one of two ways: by transfers, each of which waits for
the queue, or in place, after a barrier. Both end in the same state, whatever is in flight before.
-/

namespace Bandwidth

namespace Stream

variable {α : Type} {residency : Residency} {buffer : Buffer α} {device : Device}
  {log : Array Event}

theorem fetch_run {target : Array α} (placed : buffer.placement = .resident residency)
    (size_eq : target.size = buffer.contents.size)
    (waited : residency.requiresTransfer = false → device.inFlight = 0) :
    ∃ after, (fetch residency buffer target).run ⟨device, log⟩ =
      (.ok buffer.contents, ⟨device.idle, after⟩) := by
  cases transfers : residency.requiresTransfer with
  | true =>
      rw [fetch, if_pos transfers]
      exact ⟨_, Buffer.download_run size_eq log⟩
  | false =>
      rw [fetch, if_neg (by simp [transfers]), Device.idle_of_inFlight (waited transfers)]
      have viewed : buffer.view.run ⟨device, log⟩ = (.ok buffer.contents, ⟨device, log⟩) :=
        Buffer.view_run (by rw [placed]; exact transfers) (waited transfers) log
      refine ⟨log, (Procedure.bind_run_of_ok viewed _).trans ?_⟩
      rw [copyOver, if_pos size_eq.symm]
      rfl

theorem send_run {source : Array α} (placed : buffer.placement = .resident residency)
    (size_eq : source.size = buffer.contents.size)
    (waited : residency.requiresTransfer = false → device.inFlight = 0) :
    ∃ after, (send residency buffer source).run ⟨device, log⟩ =
      (.ok { buffer with contents := source }, ⟨device.idle, after⟩) := by
  cases transfers : residency.requiresTransfer with
  | true =>
      rw [send, if_pos transfers]
      exact ⟨_, Buffer.upload_run size_eq log⟩
  | false =>
      rw [send, if_neg (by simp [transfers]), Device.idle_of_inFlight (waited transfers)]
      refine ⟨log, Buffer.edit_run ?_ (by rw [placed]; exact transfers) (waited transfers) log⟩
      exact if_pos size_eq

theorem checkHostLengths_eq_ok {expected : Nat} {lengths : Triple Nat}
    (equal : lengths = ⟨expected, expected, expected⟩) :
    checkHostLengths expected lengths = .ok () := by
  simp [checkHostLengths, equal, Triple.toList]

/-- Where the host works in place it waits for the queue first, and then finds the device idle. -/
theorem barrier_run (residency : Residency) (device : Device) (log : Array Event) :
    ∃ waited after,
      (unless residency.requiresTransfer do Device.synchronize : Action Device Unit).run
          ⟨device, log⟩ =
        (.ok (), ⟨waited, after⟩) ∧
      waited.idle = device.idle ∧ (residency.requiresTransfer = false → waited.inFlight = 0) := by
  cases transfers : residency.requiresTransfer with
  | true => exact ⟨device, log, rfl, rfl, by simp⟩
  | false => exact ⟨device.idle, _, Device.synchronize_run _ _, rfl, fun _ => rfl⟩

theorem onDevice_barrier {β : Type} (condition : Bool) (action : Action Device Unit)
    (rest : Action (Stream α) β) :
    (if condition then rest else do onDevice action; rest) =
      (do onDevice (unless condition do action); rest) := by
  cases condition <;> rfl

theorem beside_barrier {τ β : Type} (condition : Bool) (action : Action Device Unit)
    (rest : Action (Stream α × τ) β) :
    (if condition then rest else do beside action; rest) =
      (do beside (unless condition do action); rest) := by
  cases condition <;> rfl

theorem beside_run {τ β : Type} {stream : Stream α} {host : τ} {action : Action Device β}
    {outcome : Except Abort β} {after : Array Event}
    (ran : action.run ⟨stream.device, log⟩ = (outcome, ⟨device, after⟩)) :
    (beside action).run ⟨(stream, host), log⟩ =
      (outcome, ⟨({ stream with device := device }, host), after⟩) :=
  Action.within_run (fun state : Stream α × τ => state.1.device) _ ran

section

variable [Element α] {stream : Stream α}

theorem write_run (sound : stream.Sound) {source : Triple (Array α)}
    (sizes : source.map Array.size = ⟨stream.arraySize, stream.arraySize, stream.arraySize⟩)
    (log : Array Event) :
    ∃ after, (write source).run ⟨stream, log⟩ =
      (.ok (), ⟨{ stream with
        device := stream.device.idle
        arrays := ⟨{ stream.arrays.a with contents := source.a },
          { stream.arrays.b with contents := source.b },
          { stream.arrays.c with contents := source.c }⟩ }, after⟩) := by
  have sizeA : source.a.size = stream.arrays.a.contents.size :=
    (congrArg Triple.a sizes).trans sound.a_size.symm
  have sizeB : source.b.size = stream.arrays.b.contents.size :=
    (congrArg Triple.b sizes).trans sound.b_size.symm
  have sizeC : source.c.size = stream.arrays.c.contents.size :=
    (congrArg Triple.c sizes).trans sound.c_size.symm
  rcases barrier_run stream.residency stream.device log with ⟨waited, log1, barrier, idled, ready⟩
  rcases @send_run _ _ _ waited log1 source.a sound.a_resident sizeA ready with ⟨log2, sentA⟩
  rw [idled] at sentA
  rcases @send_run _ _ _ stream.device.idle log2 source.b sound.b_resident sizeB (fun _ => rfl) with
    ⟨log3, sentB⟩
  rcases @send_run _ _ _ stream.device.idle log3 source.c sound.c_resident sizeC (fun _ => rfl) with
    ⟨log4, sentC⟩
  refine ⟨log4, ?_⟩
  rw [write, Action.get_bind_run]
  dsimp only
  rw [checkHostLengths_eq_ok sizes, Action.check_ok, pure_bind, onDevice_barrier,
    Procedure.bind_run_of_ok (onDevice_run barrier), Procedure.bind_run_of_ok (onDevice_run sentA),
    Action.modify_bind_run]
  apply Eq.trans (Procedure.bind_run_of_ok (onDevice_run sentB) _)
  rw [Action.modify_bind_run]
  apply Eq.trans (Procedure.bind_run_of_ok (onDevice_run sentC) _)
  rfl

theorem read_run (sound : stream.Sound) {host : Triple (Array α)}
    (sizes : host.map Array.size = ⟨stream.arraySize, stream.arraySize, stream.arraySize⟩)
    (log : Array Event) :
    ∃ after, read.run ⟨(stream, host), log⟩ =
      (.ok (), ⟨({ stream with device := stream.device.idle }, stream.arrays.map Buffer.contents),
        after⟩) := by
  have sizeA : host.a.size = stream.arrays.a.contents.size :=
    (congrArg Triple.a sizes).trans sound.a_size.symm
  have sizeB : host.b.size = stream.arrays.b.contents.size :=
    (congrArg Triple.b sizes).trans sound.b_size.symm
  have sizeC : host.c.size = stream.arrays.c.contents.size :=
    (congrArg Triple.c sizes).trans sound.c_size.symm
  rcases barrier_run stream.residency stream.device log with ⟨waited, log1, barrier, idled, ready⟩
  rcases @fetch_run _ _ _ waited log1 host.a sound.a_resident sizeA ready with ⟨log2, fetchedA⟩
  rw [idled] at fetchedA
  rcases @fetch_run _ _ _ stream.device.idle log2 host.b sound.b_resident sizeB (fun _ => rfl) with
    ⟨log3, fetchedB⟩
  rcases @fetch_run _ _ _ stream.device.idle log3 host.c sound.c_resident sizeC (fun _ => rfl) with
    ⟨log4, fetchedC⟩
  refine ⟨log4, ?_⟩
  rw [read, Action.get_bind_run]
  dsimp only
  rw [checkHostLengths_eq_ok sizes, Action.check_ok, pure_bind, beside_barrier,
    Procedure.bind_run_of_ok (beside_run barrier), Procedure.bind_run_of_ok (beside_run fetchedA),
    Action.modify_bind_run]
  apply Eq.trans (Procedure.bind_run_of_ok (beside_run fetchedB) _)
  rw [Action.modify_bind_run]
  apply Eq.trans (Procedure.bind_run_of_ok (beside_run fetchedC) _)
  rfl

theorem readInto_run (sound : stream.Sound) {host : Triple (Array α)}
    (sizes : host.map Array.size = ⟨stream.arraySize, stream.arraySize, stream.arraySize⟩)
    (log : Array Event) :
    ∃ after, (interface.readInto host).run ⟨stream, log⟩ =
      (.ok (stream.arrays.map Buffer.contents),
        ⟨{ stream with device := stream.device.idle }, after⟩) := by
  rcases read_run sound sizes log with ⟨after, ran⟩
  refine ⟨after, ?_⟩
  simp only [Procedure.run] at ran ⊢
  simp only [Interface.readInto, interface, Procedure.within, ran]

end

end Stream

end Bandwidth
