import Bandwidth.Proofs.Launch.Stride

/-!
# What is left of a walk

A walk announces how many indices it has yet to yield: its distance to the end over its stride,
rounded up. Wherever the walk stands that is the right number, also if its next step saturates, and
every index that it yields lowers the number by one.

The rounding up starts from the sum of distance and stride, though, and that sum is checked. If it is
no word, the walk can yield its indices but faults when it is asked for their number. A walk only
comes nearer to its end, so once it can announce what is left, it can do so from then on.
-/

namespace Bandwidth

theorem Word.ceilDiv_eq {x y : Nat} (positive : 0 < y) :
    Word.ceilDiv x y = if x + y < Word.bound then .ok ((x + y - 1) / y) else .error .addOverflow := by
  have nonzero : y ≠ 0 := by omega
  have someUnit : 1 ≤ x + y := by omega
  by_cases fits : x + y < Word.bound
  · have less : Word.sub (x + y) 1 = .ok (x + y - 1) := if_pos someUnit
    have quotient : Word.div (x + y - 1) y = .ok ((x + y - 1) / y) := if_neg nonzero
    simp only [Word.ceilDiv, Word.add_eq_ok fits, if_pos fits]
    change (Word.sub (x + y) 1 >>= fun numerator => Word.div numerator y) = _
    rw [less]
    exact quotient
  · simp only [Word.ceilDiv, Word.add, if_neg fits]
    rfl

namespace GridWalk

theorem length_indices (walk : GridWalk) :
    walk.indices.length = (walk.stop - walk.next + walk.stride - 1) / walk.stride := by
  rw [indices_eq_strided, strided, List.length_range']

theorem indices_of_ended {walk : GridWalk} (ended : walk.stop ≤ walk.next) : walk.indices = [] := by
  rw [indices]
  simp [Nat.not_lt.mpr ended]

theorem of_step?_eq_some {walk after : GridWalk} {index : Nat}
    (stepped : walk.step? = some (index, after)) :
    walk.next < walk.stop ∧ after = walk.advance ∧ walk.indices = index :: after.indices := by
  unfold step? at stepped
  split at stepped
  · rename_i more
    rcases stepped with ⟨⟩
    refine ⟨more, rfl, ?_⟩
    rw [indices]
    simp only [more, ↓reduceDIte]
  · simp at stepped

/-- The steps of a walk yield its indices one after the other, and leave the others to be yielded. -/
theorem take_eq (walk : GridWalk) (steps : Nat) :
    (walk.take steps).1 = walk.indices.take steps ∧
      (walk.take steps).2.indices = walk.indices.drop steps := by
  induction steps generalizing walk with
  | zero => exact ⟨rfl, rfl⟩
  | succ steps ih =>
      rw [take]
      rcases stepped : walk.step? with _ | ⟨index, after⟩
      · have ended : walk.stop ≤ walk.next := by
          unfold step? at stepped
          split at stepped
          · simp at stepped
          · omega
        simp [indices_of_ended ended]
      · rw [(of_step?_eq_some stepped).2.2, List.take_succ_cons, List.drop_succ_cons]
        exact ⟨congrArg (index :: ·) (ih after).1, (ih after).2⟩

/-- Steps move a walk, but its stride and its end stay. -/
theorem take_stays (walk : GridWalk) (steps : Nat) :
    (walk.take steps).2.stride = walk.stride ∧ (walk.take steps).2.stop = walk.stop := by
  induction steps generalizing walk with
  | zero => exact ⟨rfl, rfl⟩
  | succ steps ih =>
      rw [take]
      rcases stepped : walk.step? with _ | ⟨index, after⟩
      · exact ⟨rfl, rfl⟩
      · rcases of_step?_eq_some stepped with ⟨_, rfl, _⟩
        exact ih walk.advance

/-- So many indices are left: whoever takes steps gets one index for each, until these are used
up. -/
def Leaves (walk : GridWalk) (left : Nat) : Prop :=
  ∀ steps, (walk.take steps).1.length = min steps left

theorem leaves_length (walk : GridWalk) : walk.Leaves walk.indices.length := by
  intro steps
  rw [(walk.take_eq steps).1, List.length_take]

theorem Leaves.eq_length {walk : GridWalk} {left : Nat} (leaves : walk.Leaves left) :
    left = walk.indices.length := by
  have enough := leaves (left + walk.indices.length)
  rw [walk.leaves_length] at enough
  omega

theorem Leaves.step {walk after : GridWalk} {left index : Nat} (leaves : walk.Leaves left)
    (stepped : walk.step? = some (index, after)) :
    ∃ fewer, left = fewer + 1 ∧ after.Leaves fewer := by
  refine ⟨after.indices.length, ?_, after.leaves_length⟩
  rw [leaves.eq_length, (of_step?_eq_some stepped).2.2, List.length_cons]

/-- A walk that is over has nothing to count. Any other walk adds its stride to its distance, which
has to be a word. -/
def CanAnnounce (walk : GridWalk) : Prop :=
  walk.stop ≤ walk.next ∨ walk.stop - walk.next + walk.stride < Word.bound

theorem announced_of_canAnnounce {walk : GridWalk} (can : walk.CanAnnounce) :
    walk.announced = .ok walk.indices.length := by
  rw [announced]
  split
  · rename_i more
    have fits : walk.stop - walk.next + walk.stride < Word.bound :=
      can.resolve_left (Nat.not_le.mpr more)
    rw [Word.ceilDiv_eq walk.stride_pos, if_pos fits, length_indices]
  · rename_i ended
    rw [indices_of_ended (Nat.not_lt.mp ended)]
    rfl

theorem announced_of_cannot {walk : GridWalk} (cannot : ¬walk.CanAnnounce) :
    walk.announced = .error .addOverflow := by
  have more : walk.next < walk.stop := Nat.not_le.mp fun ended => cannot (.inl ended)
  have overflows : ¬walk.stop - walk.next + walk.stride < Word.bound :=
    fun fits => cannot (.inr fits)
  rw [announced, if_pos more, Word.ceilDiv_eq walk.stride_pos, if_neg overflows]

/-- Steps come nearer to the end, so what can be announced before a step can be announced after
it. -/
theorem CanAnnounce.step {walk after : GridWalk} {index : Nat} (can : walk.CanAnnounce)
    (stepped : walk.step? = some (index, after)) : after.CanAnnounce := by
  rcases of_step?_eq_some stepped with ⟨more, rfl, _⟩
  have nearer := distance_advance_lt more
  have sameStride : walk.advance.stride = walk.stride := rfl
  simp only [CanAnnounce] at can ⊢
  omega

/--
However many steps a walk has taken, some number of indices is left. The walk announces exactly that
number, unless it is not over and its distance to the end and its stride add up to more than a word:
then it faults. Each further index lowers the number by one, and a walk that announced it before the
index announces it after. If array and grid together are no larger than a word, a walk never faults.
-/
theorem announced_exact_unless_overflow {globalId totalWorkers arraySize : Nat}
    (positive : 0 < totalWorkers) (isWord : arraySize < Word.bound) :
    ∃ walk, start globalId totalWorkers arraySize = .ok walk ∧
      ∀ steps, let rest := (walk.take steps).2
        ∃ left, rest.Leaves left ∧
          rest.announced = (if rest.next < arraySize ∧
              Word.bound ≤ arraySize - rest.next + totalWorkers then .error .addOverflow
            else .ok left) ∧
          (∀ index after, rest.step? = some (index, after) →
            ∃ fewer, left = fewer + 1 ∧ after.Leaves fewer ∧
              (rest.announced = .ok left → after.announced = .ok fewer)) ∧
          (arraySize + totalWorkers < Word.bound → rest.announced = .ok left) := by
  refine ⟨_, dif_pos positive, ?_⟩
  intro steps rest
  have stays := take_stays
    ⟨globalId, totalWorkers, min arraySize Word.greatest, positive, Nat.min_le_right _ _⟩ steps
  have stride : rest.stride = totalWorkers := stays.1
  have stop : rest.stop = arraySize := stays.2.trans (Word.min_greatest isWord)
  have canAnnounce_iff : rest.CanAnnounce ↔
      ¬(rest.next < arraySize ∧ Word.bound ≤ arraySize - rest.next + totalWorkers) := by
    rw [CanAnnounce, stride, stop]
    omega
  refine ⟨rest.indices.length, rest.leaves_length, ?_, ?_, ?_⟩
  · split
    · rename_i overflows
      exact announced_of_cannot fun can => canAnnounce_iff.mp can overflows
    · rename_i fits
      exact announced_of_canAnnounce (canAnnounce_iff.mpr fits)
  · intro index after stepped
    rcases rest.leaves_length.step stepped with ⟨fewer, counted, leaves⟩
    refine ⟨fewer, counted, leaves, ?_⟩
    intro announcedBefore
    have can : rest.CanAnnounce := by
      by_contra cannot
      rw [announced_of_cannot cannot] at announcedBefore
      simp at announcedBefore
    rw [leaves.eq_length]
    exact announced_of_canAnnounce (can.step stepped)
  · intro small
    exact announced_of_canAnnounce (canAnnounce_iff.mpr (by omega))

/-- Next to the greatest word: the last of three steps saturates. -/
theorem three_left_next_to_greatest :
    ∃ walk, start 18446744073709551608 3 18446744073709551615 = .ok walk ∧
      walk.Leaves 3 ∧ walk.announced = .ok 3 ∧ (walk.take 2).2.announced = .ok 1 ∧
      (walk.take 3).2.announced = .ok 0 := by
  rcases @announced_exact_unless_overflow 18446744073709551608 3 18446744073709551615 (by decide)
    (by decide) with ⟨walk, started, counts⟩
  rcases Except.ok.inj started with rfl
  rcases counts 0 with ⟨left, leaves, announced, -, -⟩
  rcases counts 2 with ⟨leftLater, leavesLater, announcedLater, -, -⟩
  rcases counts 3 with ⟨leftLast, leavesLast, announcedLast, -, -⟩
  have three : left = 3 := by
    have taken : 3 = min 4 left := leaves 4
    omega
  have one : leftLater = 1 := by
    have taken : 1 = min 4 leftLater := leavesLater 4
    omega
  have none : leftLast = 0 := by
    have taken : 0 = min 4 leftLast := leavesLast 4
    omega
  subst three one none
  exact ⟨_, started, leaves, announced, announcedLater, announcedLast⟩

/-- Two indices are left, but the distance to the end and the stride are no word together. -/
theorem two_left_and_not_announced :
    ∃ walk, start 1 9223372036854775808 18446744073709551615 = .ok walk ∧
      walk.Leaves 2 ∧ walk.announced = .error .addOverflow := by
  refine ⟨_, rfl, ?_, rfl⟩
  have leaves := leaves_length
    ⟨1, 9223372036854775808, 18446744073709551615, by decide, by decide⟩
  rw [length_indices] at leaves
  exact leaves

end GridWalk

end Bandwidth
