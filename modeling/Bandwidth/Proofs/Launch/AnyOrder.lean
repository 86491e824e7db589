import Bandwidth.Proofs.Launch.Turns

/-!
# Groups in any order

A pool of units takes the groups of a launch in an order of its own. A group then finds in its slots
what any group before it left there, if not blank slots, and the groups before it are those that ran
earlier and not those with lesser numbers. The barriers are listed by the numbers of the groups all the
same, and the launch ends as this list says.
-/

namespace Bandwidth

variable {σ τ : Type} {geometry : Geometry} {slot : Slot σ} {program : GroupProgram σ τ}
  {memory : τ}

/-- What is safe to find in slots stays so while groups run in others. -/
structure Undisturbed (geometry : Geometry) (program : GroupProgram σ τ)
    (safe : Array σ → τ → Prop) : Prop where
  stays : ∀ {groupId found left kept memory count after}, groupId < geometry.grid →
    safe found memory →
    (program ⟨groupId, geometry⟩).run ⟨found, 0, memory⟩ = (.ok (), ⟨left, count, after⟩) →
    safe kept memory → safe kept after

/-- Whatever slots the next group finds, they are safe. -/
structure SlotsSafe (geometry : Geometry) (slot : Slot σ) (safe : Array σ → τ → Prop)
    (kept : List (Array σ)) (memory : τ) : Prop where
  blank : safe (geometry.blankSlots slot) memory
  kept : ∀ slots ∈ kept, safe slots memory

section Slots

variable {safe : Array σ → τ → Prop} {kept : List (Array σ)} {found left : Array σ}

/-- After a group that left its own slots safe, all slots are. -/
theorem SlotsSafe.next (slotsSafe : SlotsSafe geometry slot safe kept memory)
    (undisturbed : Undisturbed geometry program safe) {groupId count : Nat} {between : τ}
    (inGrid : groupId < geometry.grid) (foundSafe : safe found memory)
    (ran : (program ⟨groupId, geometry⟩).run ⟨found, 0, memory⟩ = (.ok (), ⟨left, count, between⟩))
    (leftSafe : safe left between) : SlotsSafe geometry slot safe (left :: kept) between where
  blank := undisturbed.stays inGrid foundSafe ran slotsSafe.blank
  kept := by
    intro slots mem
    rcases List.mem_cons.mp mem with rfl | older
    · exact leftSafe
    · exact undisturbed.stays inGrid foundSafe ran (slotsSafe.kept slots older)

end Slots

namespace Device

end Device

end Bandwidth
