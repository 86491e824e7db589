import Bandwidth.Element.Native
import Bandwidth.Proofs.Dot.Schedule
import Bandwidth.Proofs.Launch.AnyOrder

/-!
# Barriers of a launch

A launch of any groups that do not fault ends well exactly if they agree on their barriers, and otherwise names the
first group that differs from group 0, in whatever order they are run. The groups of a dot product always agree: each
issues a barrier before every step of its halving tree, whatever it finds in its slots and in memory. This holds even
if the partial sums share a buffer with a factor, where what a group adds up depends on the groups before it.
-/

namespace Bandwidth

namespace Dot

variable {α : Type} {geometry : Geometry} {a b sums arraySize groupId levels : Nat}

/-- The buffers of a dot product reach far enough; they may be the same. -/
structure Reaches (geometry : Geometry) (a b sums arraySize : Nat) (memory : Memory α) : Prop where
  inA : arraySize ≤ (memory.contents a).size
  inB : arraySize ≤ (memory.contents b).size
  inSums : geometry.grid ≤ (memory.contents sums).size

theorem Reaches.set {memory : Memory α} (reaches : Reaches geometry a b sums arraySize memory)
    (buffer index : Nat) (value : α) :
    Reaches geometry a b sums arraySize (memory.set buffer index value) where
  inA := by simpa using reaches.inA
  inB := by simpa using reaches.inB
  inSums := by simpa using reaches.inSums

/-- What a group of a dot product relies on: a slot for each worker, and buffers that reach far
enough. -/
def Safe (geometry : Geometry) (a b sums arraySize : Nat) (found : Array α) (memory : Memory α) :
    Prop :=
  found.size = geometry.group ∧ Reaches geometry a b sums arraySize memory

variable [Element α] {found : Array α} {memory : Memory α}

theorem Safe.blank (safe : Safe geometry a b sums arraySize found memory) :
    Safe geometry a b sums arraySize (geometry.blankSlots (Slot.ofElement α)) memory :=
  ⟨Array.size_replicate, safe.2⟩

/-- A group issues a barrier for each level of its tree. -/
theorem program_issues (powerOfTwo : geometry.group = 2 ^ levels)
    (fits : geometry.size < Word.bound) (isWord : arraySize < Word.bound)
    (inGrid : groupId < geometry.grid) (safe : Safe geometry a b sums arraySize found memory) :
    ∃ left after,
      (program a b sums arraySize ⟨groupId, geometry⟩).run ⟨found, 0, memory⟩ =
        (.ok (), ⟨left, levels, after⟩) ∧
      Safe geometry a b sums arraySize left after := by
  rcases safe with ⟨found_size, reaches⟩
  rcases programIn_run ⟨groupId, geometry⟩ ⟨found, 0, memory⟩ sums
      (RegionOrders.ascending_valid geometry.group) powerOfTwo inGrid fits isWord found_size
      reaches.inA reaches.inB reaches.inSums with
    ⟨left, left_size, ran⟩
  rw [Nat.zero_add] at ran
  rw [program_eq_programIn]
  exact ⟨left, _, ran, left_size, reaches.set sums groupId _⟩

theorem Safe.step (safe : Safe geometry a b sums arraySize found memory)
    (powerOfTwo : geometry.group = 2 ^ levels) (fits : geometry.size < Word.bound)
    (isWord : arraySize < Word.bound) (inGrid : groupId < geometry.grid) {left : Array α}
    {count : Nat} {after : Memory α}
    (ran : (program a b sums arraySize ⟨groupId, geometry⟩).run ⟨found, 0, memory⟩ =
      (.ok (), ⟨left, count, after⟩)) :
    count = levels ∧ Safe geometry a b sums arraySize left after := by
  rcases program_issues powerOfTwo fits isWord inGrid safe with ⟨_, _, issued, safeLeft⟩
  rw [ran] at issued
  simp only [Prod.mk.injEq, GroupState.mk.injEq, true_and] at issued
  rcases issued with ⟨rfl, rfl, rfl⟩
  exact ⟨rfl, safeLeft⟩

theorem program_faultFree (powerOfTwo : geometry.group = 2 ^ levels)
    (fits : geometry.size < Word.bound) (isWord : arraySize < Word.bound) :
    FaultFree geometry (Slot.ofElement α) (program a b sums arraySize)
      (Safe geometry a b sums arraySize) where
  blank := Safe.blank
  ends inGrid safe := by
    rcases program_issues powerOfTwo fits isWord inGrid safe with ⟨left, after, ran, safeLeft⟩
    exact ⟨left, levels, after, ran, safeLeft⟩

end Dot

namespace Device

end Device

end Bandwidth
