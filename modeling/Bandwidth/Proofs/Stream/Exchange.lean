import Bandwidth.Proofs.Stream.Reachable

/-!
# Transfers of all three arrays

The arrays of a stream go to the host, and come from it, one after the other, and each on its own could
be refused: for its length, for its place, for a launch in flight. But all three lengths are compared
before the first array moves, and what is in flight is waited for. So nothing is left to refuse
half-way: either all three arrays have moved, or nothing has happened at all.
-/

namespace Bandwidth

/-- The length that is found first, in the order of the arrays, not to be the expected one. -/
inductive FirstMismatch (expected : Nat) (lengths : Triple Nat) : Nat → Prop
  | a (different : lengths.a ≠ expected) : FirstMismatch expected lengths lengths.a
  | b (same : lengths.a = expected) (different : lengths.b ≠ expected) :
      FirstMismatch expected lengths lengths.b
  | c (sameA : lengths.a = expected) (sameB : lengths.b = expected)
      (different : lengths.c ≠ expected) : FirstMismatch expected lengths lengths.c

namespace FirstMismatch

variable {expected actual : Nat} {lengths : Triple Nat}

theorem exists_of_ne (different : lengths ≠ ⟨expected, expected, expected⟩) :
    ∃ actual, FirstMismatch expected lengths actual := by
  by_cases sameA : lengths.a = expected
  · by_cases sameB : lengths.b = expected
    · refine ⟨lengths.c, .c sameA sameB ?_⟩
      intro sameC
      apply different
      rcases lengths with ⟨a, b, c⟩
      simp only at sameA sameB sameC
      rw [sameA, sameB, sameC]
    · exact ⟨lengths.b, .b sameA sameB⟩
  · exact ⟨lengths.a, .a sameA⟩

/-- The comparison of the lengths names the first mismatch. -/
theorem checkHostLengths_eq (first : FirstMismatch expected lengths actual) :
    checkHostLengths expected lengths = .error (.lengthMismatch expected actual) := by
  cases first with
  | a different => simp [checkHostLengths, Triple.toList, different]
  | b same different => simp [checkHostLengths, Triple.toList, same, different]
  | c sameA sameB different => simp [checkHostLengths, Triple.toList, sameA, sameB, different]

end FirstMismatch

namespace Stream

variable {α : Type} [Element α] {stream : Stream α}

/-- What was written is read again, whatever the host arrays held. -/
theorem read_after_write_run (sound : stream.Sound) {source target : Triple (Array α)}
    (sizes : source.map Array.size = ⟨stream.arraySize, stream.arraySize, stream.arraySize⟩)
    (targetSizes : target.map Array.size = ⟨stream.arraySize, stream.arraySize, stream.arraySize⟩)
    {after : Stream α} {log told : Array Event}
    (written : (write source).run ⟨stream, log⟩ = (.ok (), ⟨after, told⟩)) (later : Array Event) :
    ∃ heard, read.run ⟨(after, target), later⟩ = (.ok (), ⟨(after, source), heard⟩) := by
  rcases write_run sound sizes log with ⟨_, ran⟩
  have same := written.symm.trans ran
  simp only [Prod.mk.injEq, Logged.mk.injEq, true_and] at same
  rcases same with ⟨rfl, rfl⟩
  have holding : Sound { stream with
      device := stream.device.idle
      arrays := ⟨{ stream.arrays.a with contents := source.a },
        { stream.arrays.b with contents := source.b },
        { stream.arrays.c with contents := source.c }⟩ } :=
    { sound with
      a_size := congrArg Triple.a sizes
      b_size := congrArg Triple.b sizes
      c_size := congrArg Triple.c sizes }
  exact read_run holding targetSizes later

/--
A transfer of three arrays of the right lengths succeeds, whatever was done with the stream before
and whatever is in flight on its device. It moves every element and empties the queue, and changes
nothing else; what was written is what is read. If a length differs the transfer is refused with the
first such length, and host, stream and device are as they were.
-/
theorem transfers_all_or_nothing {platform : Platform} {config : StreamConfig}
    (reachable : Reachable platform config stream) (host : Triple (Array α)) (log : Array Event) :
    let size := stream.arraySize
    (host.map Array.size = ⟨size, size, size⟩ →
      (∃ after told, (write host).run ⟨stream, log⟩ = (.ok (), ⟨after, told⟩) ∧
        after.arrays.map Buffer.contents = host ∧ after.sums = stream.sums ∧
        after.device = { stream.device with inFlight := 0 } ∧
        ∀ target : Triple (Array α), target.map Array.size = ⟨size, size, size⟩ →
          ∀ later, ∃ heard, read.run ⟨(after, target), later⟩ = (.ok (), ⟨(after, host), heard⟩)) ∧
      ∃ told, read.run ⟨(stream, host), log⟩ =
        (.ok (), ⟨({ stream with device := { stream.device with inFlight := 0 } },
          stream.arrays.map Buffer.contents), told⟩)) ∧
    (host.map Array.size ≠ ⟨size, size, size⟩ →
      ∃ actual, FirstMismatch size (host.map Array.size) actual ∧
        (write host).run ⟨stream, log⟩ =
          (.error (.failure (.lengthMismatch size actual)), ⟨stream, log⟩) ∧
        read.run ⟨(stream, host), log⟩ =
          (.error (.failure (.lengthMismatch size actual)), ⟨(stream, host), log⟩)) := by
  intro size
  have sound := reachable.sound.1
  constructor
  · intro sizes
    constructor
    · rcases write_run sound sizes log with ⟨told, ran⟩
      refine ⟨_, told, ran, rfl, rfl, rfl, ?_⟩
      intro target targetSizes later
      exact read_after_write_run sound sizes targetSizes ran later
    · exact read_run sound sizes log
  · intro different
    rcases FirstMismatch.exists_of_ne different with ⟨actual, first⟩
    have refused := first.checkHostLengths_eq
    exact ⟨actual, first, write_run_of_error refused log, read_run_of_error refused log⟩

/-- Two elements are written and read beside a launch in flight, and three would have been refused. -/
theorem two_elements_move_beside_launch_in_flight :
    ∃ (stream : Stream Float) (created : Logged Unit),
      (create .sequential ⟨2, 0, .deviceOnly⟩).run ⟨(), #[]⟩ = (.ok stream, created) ∧
        let busy : Stream Float := { stream with device := stream.device.beginLaunch }
        let host : Triple (Array Float) := ⟨#[1.0, 2.0], #[3.0, 4.0], #[5.0, 6.0]⟩
        let long : Triple (Array Float) := ⟨#[1.0, 2.0], #[3.0, 4.0, 5.0], #[6.0]⟩
        busy.device.inFlight = 1 ∧
          (∃ after told, (write host).run ⟨busy, #[]⟩ = (.ok (), ⟨after, told⟩) ∧
            after.device.inFlight = 0 ∧ after.device.launches = 1 ∧
            ∃ heard, read.run ⟨(after, host), told⟩ = (.ok (), ⟨(after, host), heard⟩)) ∧
          (write long).run ⟨busy, #[]⟩ = (.error (.failure (.lengthMismatch 2 3)), ⟨busy, #[]⟩) := by
  have made : ∃ (stream : Stream Float) (created : Logged Unit),
      (create .sequential ⟨2, 0, .deviceOnly⟩).run ⟨(), #[]⟩ = (.ok stream, created) ∧
        stream.arraySize = 2 ∧ stream.device.inFlight = 0 ∧ stream.device.launches = 0 :=
    ⟨_, _, rfl, rfl, rfl, rfl⟩
  rcases made with ⟨stream, created, made, size_eq, idle, unlaunched⟩
  refine ⟨stream, created, made, ?_⟩
  intro busy host long
  have reachable : Reachable .sequential ⟨2, 0, .deviceOnly⟩ busy := .used rfl (.created made)
  have busySize : busy.arraySize = 2 := size_eq
  refine ⟨congrArg (Word.addWrapping · 1) idle, ?_, ?_⟩
  · have sizes : host.map Array.size = ⟨busy.arraySize, busy.arraySize, busy.arraySize⟩ := by
      rw [busySize]
      rfl
    rcases (transfers_all_or_nothing reachable host #[]).1 sizes with
      ⟨⟨after, told, wrote, _, _, device_eq, reads⟩, _⟩
    refine ⟨after, told, wrote, ?_, ?_, reads host sizes told⟩
    · rw [device_eq]
    · rw [device_eq]
      exact congrArg (Word.addWrapping · 1) unlaunched
  · have different : long.map Array.size ≠ ⟨busy.arraySize, busy.arraySize, busy.arraySize⟩ := by
      rw [busySize]
      decide
    rcases (transfers_all_or_nothing reachable long #[]).2 different with
      ⟨actual, first, refused, _⟩
    rw [busySize] at first refused
    have named : actual = 3 := by
      cases first with
      | a different => exact absurd rfl different
      | b => rfl
      | c _ sameB => exact absurd sameB (by decide)
    rw [refused, named]

end Stream

end Bandwidth
