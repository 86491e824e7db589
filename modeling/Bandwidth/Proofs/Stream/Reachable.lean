import Bandwidth.Proofs.Launch.Numbering
import Bandwidth.Proofs.Stream.Refinement

/-!
# Streams that were used

What a client has done with a stream before is of no consequence for what it can do next. A call may
have been refused, because host arrays had another length or the grid of a dot product has too many
workers; and the client may have used the device of the stream by itself, and have left launches in
flight on it.
-/

namespace Bandwidth

namespace Stream

variable {α : Type} [Element α] {stream : Stream α}

theorem dot_run_of_unfit (unfit : ¬ stream.blocks * standardGroup < Word.bound)
    (log : Array Event) :
    ∃ reason told, (dot : Action (Stream α) α).run ⟨stream, log⟩ =
      (.error reason,
        ⟨{ stream.setMemory stream.memory with device := stream.device.beginLaunch }, told⟩) := by
  let geometry : Geometry := ⟨stream.blocks, standardGroup⟩
  have powerOfTwo : geometry.group = 2 ^ standardLevels := rfl
  have accepted := Geometry.validateCooperative_eq_ok powerOfTwo
  have large : Word.bound ≤ geometry.size := Nat.not_lt.mp unfit
  rcases @Dot.launch_run_of_large α _ geometry stream.device stream.memory log arrayPlaces.a
      arrayPlaces.b sumsPlace stream.arraySize large accepted with ⟨fault, -, ran⟩
  exact ⟨.fault fault, _, Procedure.bind_run_of_error (launching_run ran) _⟩

theorem runKernel_run_of_unfit (unfit : ¬ stream.blocks * standardGroup < Word.bound)
    (log : Array Event) :
    ∃ reason told,
      ((interface : Interface (Logged (Stream α)) α).runKernel .dot).run ⟨stream, log⟩ =
      (.error reason,
        ⟨{ stream.setMemory stream.memory with device := stream.device.beginLaunch }, told⟩) := by
  rcases dot_run_of_unfit unfit log with ⟨reason, told, ran⟩
  exact ⟨reason, told, Procedure.bind_run_of_error ran _⟩

omit [Element α] in
theorem checkHostLengths_cases (expected : Nat) (lengths : Triple Nat) :
    lengths = ⟨expected, expected, expected⟩ ∨
      ∃ failure, checkHostLengths expected lengths = .error failure := by
  unfold checkHostLengths
  split
  · exact .inr ⟨_, rfl⟩
  · rename_i none
    left
    rcases lengths with ⟨a, b, c⟩
    simpa [Triple.toList] using none

omit [Element α] in
theorem write_run_of_error {source : Triple (Array α)} {failure : Failure}
    (refused : checkHostLengths stream.arraySize (source.map Array.size) = .error failure)
    (log : Array Event) :
    (write source).run ⟨stream, log⟩ = (.error (.failure failure), ⟨stream, log⟩) := by
  rw [write, Action.get_bind_run]
  dsimp only
  rw [refused]
  rfl

omit [Element α] in
theorem read_run_of_error {host : Triple (Array α)} {failure : Failure}
    (refused : checkHostLengths stream.arraySize (host.map Array.size) = .error failure)
    (log : Array Event) :
    read.run ⟨(stream, host), log⟩ = (.error (.failure failure), ⟨(stream, host), log⟩) := by
  rw [read, Action.get_bind_run]
  dsimp only
  rw [refused]
  rfl

theorem readInto_run_of_error {host : Triple (Array α)} {failure : Failure}
    (refused : checkHostLengths stream.arraySize (host.map Array.size) = .error failure)
    (log : Array Event) :
    (interface.readInto host).run ⟨stream, log⟩ = (.error (.failure failure), ⟨stream, log⟩) := by
  have ran := read_run_of_error refused log
  simp only [Procedure.run] at ran ⊢
  simp only [Interface.readInto, interface, Procedure.within, ran]

theorem Sound.follows_self (sound : stream.Sound) :
    stream.Follows stream := ⟨sound, rfl, rfl, rfl, rfl⟩

/-- A call leaves a sound stream, also if it is refused. -/
theorem perform_follows (sound : stream.Sound) (operation : Operation α) (log : Array Event) :
    stream.Follows ((operation.perform interface).run ⟨stream, log⟩).2.state := by
  cases operation with
  | fill values =>
      rcases elementwise_refines sound (.fill values) log with ⟨after, told, ran, follows, _⟩
      rw [Operation.perform, interface_fill, Procedure.bind_pure_run_snd, ran]
      exact follows
  | kernel kernel =>
      rw [Operation.perform, Procedure.bind_pure_run_snd]
      by_cases fits : kernel = .dot → stream.blocks * standardGroup < Word.bound
      · rcases runKernel_refines sound fits log with ⟨after, told, ran, follows, _⟩
        rw [ran]
        exact follows
      · rcases Classical.not_imp.mp fits with ⟨rfl, unfit⟩
        rcases runKernel_run_of_unfit unfit log with ⟨reason, told, ran⟩
        rw [ran]
        exact follows_setMemory sound rfl fun _ => rfl
  | write source =>
      rw [Operation.perform, Procedure.bind_pure_run_snd]
      rcases checkHostLengths_cases stream.arraySize (source.map List.length) with
        equal | ⟨failure, refused⟩
      · rcases write_refines sound equal log with ⟨after, told, ran, follows, _⟩
        change stream.Follows ((write (source.map List.toArray)).run ⟨stream, log⟩).2.state
        rw [ran]
        exact follows
      · have ran := @write_run_of_error _ _ (source.map List.toArray) _ refused log
        change stream.Follows ((write (source.map List.toArray)).run ⟨stream, log⟩).2.state
        rw [ran]
        exact sound.follows_self
  | read host =>
      rw [Operation.perform, Procedure.bind_pure_run_snd]
      rcases checkHostLengths_cases stream.arraySize (host.map List.length) with
        equal | ⟨failure, refused⟩
      · rcases read_refines sound equal log with ⟨after, told, ran, follows, _⟩
        rw [ran]
        exact follows
      · rw [@readInto_run_of_error _ _ _ (host.map List.toArray) _ refused log]
        exact sound.follows_self

/-- A stream that was created and then used, in whatever way and with whatever success. -/
inductive Reachable (platform : Platform) (config : StreamConfig) : Stream α → Prop
  | created {σ : Type} {start created : Logged σ} {stream : Stream α}
      (made : (create platform config).run start = (.ok stream, created)) :
      Reachable platform config stream
  /-- A call was made, and had some outcome. -/
  | called {stream : Stream α} (operation : Operation α) (log : Array Event)
      (reachable : Reachable platform config stream) :
      Reachable platform config ((operation.perform interface).run ⟨stream, log⟩).2.state
  /-- The device was used without the stream. -/
  | used {stream : Stream α} {device : Device}
      (same : device.description = stream.device.description)
      (reachable : Reachable platform config stream) :
      Reachable platform config { stream with device := device }

/-- What is known of a stream that was created is known of it whatever was done with it. -/
theorem Reachable.sound {platform : Platform} {config : StreamConfig}
    (reachable : Reachable platform config stream) :
    stream.Sound ∧ stream.arraySize = config.arraySize ∧ 0 < stream.device.description.units := by
  induction reachable with
  | created made =>
      rcases of_create_run_ok made with ⟨sound, size_eq, units_pos, _⟩
      exact ⟨sound, size_eq, units_pos⟩
  | called operation log _ ih =>
      rcases ih with ⟨sound, size_eq, units_pos⟩
      have follows := perform_follows sound operation log
      refine ⟨follows.sound, follows.arraySize_eq.trans size_eq, ?_⟩
      rw [follows.description_eq]
      exact units_pos
  | used same _ ih =>
      rcases ih with ⟨sound, size_eq, units_pos⟩
      exact ⟨{ sound with blocks_eq := same ▸ sound.blocks_eq }, size_eq, same ▸ units_pos⟩

end Stream

end Bandwidth
