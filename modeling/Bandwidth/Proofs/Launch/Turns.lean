import Bandwidth.Proofs.Launch.Dispatch
import Mathlib.Data.Nat.Find

/-!
# Groups that issue barriers

What a group of a cooperative launch does, and so how many barriers it issues, may depend on the memory that the
groups before it left, and on what it finds in its shared slots. If no group faults, a launch runs all of them in
turn, and then reads its answer off the list of their barriers: it is the common number, or it names the first group
that differs from group 0. A pool of units that takes them in another order is no different in this
(`Bandwidth.Proofs.Launch.AnyOrder`).
-/

namespace Bandwidth

/-- The slots that a share of a grid starts with. -/
def Geometry.blankSlots {σ : Type} (geometry : Geometry) (slot : Slot σ) : Array σ :=
  Array.replicate geometry.group slot.blank

/-- A group is the first that issued another number of barriers than group 0. -/
structure Diverges (counts : List Nat) (group count : Nat) : Prop where
  issued : counts[group]? = some count
  differs : count ≠ counts.headD 0
  first : ∀ earlier < group, counts[earlier]? = some (counts.headD 0)

section Counts

variable {counts : List Nat} {group count : Nat}

/-- There is only one first. -/
theorem Diverges.eq {other otherCount : Nat} (diverges : Diverges counts group count)
    (also : Diverges counts other otherCount) : group = other ∧ count = otherCount := by
  have not_earlier : ∀ {group count other otherCount}, Diverges counts group count →
      Diverges counts other otherCount → ¬group < other := by
    intro group count other otherCount diverges also before
    have same := also.first group before
    rw [diverges.issued] at same
    exact diverges.differs (Option.some.inj same)
  have equal : group = other :=
    Nat.le_antisymm (Nat.not_lt.mp (not_earlier also diverges))
      (Nat.not_lt.mp (not_earlier diverges also))
  subst equal
  exact ⟨rfl, Option.some.inj (diverges.issued.symm.trans also.issued)⟩

namespace Device

end Device

end Counts

section Turns

variable {σ τ : Type}

/--
The groups from `first` on have run one after the other and issued `counts` barriers. A group finds in
its slots what the group before it left there, or blank slots if it is the first of a share.
-/
inductive Turns (geometry : Geometry) (slot : Slot σ) (program : GroupProgram σ τ) :
    Nat → Array σ → τ → List Nat → τ → Prop where
  | done (first : Nat) (kept : Array σ) (memory : τ) :
      Turns geometry slot program first kept memory [] memory
  | turn {first count : Nat} {kept found left : Array σ} {memory between after : τ}
      {counts : List Nat}
      (shared : found = kept ∨ found = geometry.blankSlots slot)
      (ran : (program ⟨first, geometry⟩).run ⟨found, 0, memory⟩ =
        (.ok (), ⟨left, count, between⟩))
      (rest : Turns geometry slot program (first + 1) left between counts after) :
      Turns geometry slot program first kept memory (count :: counts) after

/--
No group faults, whatever it can find in its slots and in memory. What that is may be narrowed down:
it is enough that `safe` holds of blank slots beside the memory that any group leaves, and that
every group keeps it.
-/
structure FaultFree (geometry : Geometry) (slot : Slot σ) (program : GroupProgram σ τ)
    (safe : Array σ → τ → Prop) : Prop where
  blank : ∀ {kept memory}, safe kept memory → safe (geometry.blankSlots slot) memory
  ends : ∀ {groupId found memory}, groupId < geometry.grid → safe found memory →
    ∃ left count after,
      (program ⟨groupId, geometry⟩).run ⟨found, 0, memory⟩ = (.ok (), ⟨left, count, after⟩) ∧
        safe left after

variable {geometry : Geometry} {slot : Slot σ} {program : GroupProgram σ τ}
  {safe : Array σ → τ → Prop} {first : Nat} {kept : Array σ} {memory between after : τ}
  {counts more : List Nat}

/-- Blank slots may stand in for any others. -/
theorem Turns.of_blank
    (turns : Turns geometry slot program first (geometry.blankSlots slot) memory counts after) :
    Turns geometry slot program first kept memory counts after := by
  cases turns with
  | done => exact .done first kept memory
  | turn shared ran rest => exact .turn (.inr (shared.elim id id)) ran rest

/-- What a share has run is followed by the next share, which starts with blank slots. -/
theorem Turns.append (turns : Turns geometry slot program first kept memory counts between)
    (later : Turns geometry slot program (first + counts.length) (geometry.blankSlots slot) between
      more after) :
    Turns geometry slot program first kept memory (counts ++ more) after := by
  induction turns with
  | done first kept memory => exact later.of_blank
  | turn shared ran rest ih =>
      rw [List.length_cons, Nat.add_comm _ 1, ← Nat.add_assoc] at later
      exact .turn shared ran (ih later)

/-- What blank slots do not spoil and every group takes to the next group, holds after all of them;
and what each group makes true of its barriers is true of all. -/
theorem Turns.invariant {holds : Nat → Array σ → τ → Prop} {good : Nat → Prop}
    (blank : ∀ first kept memory, holds first kept memory →
      holds first (geometry.blankSlots slot) memory)
    (step : ∀ first found memory left count after, first < geometry.grid →
      holds first found memory →
      (program ⟨first, geometry⟩).run ⟨found, 0, memory⟩ = (.ok (), ⟨left, count, after⟩) →
      good count ∧ holds (first + 1) left after)
    (turns : Turns geometry slot program first kept memory counts after)
    (within : first + counts.length ≤ geometry.grid) (start : holds first kept memory) :
    (∀ count ∈ counts, good count) ∧ ∃ left, holds (first + counts.length) left after := by
  induction turns with
  | done first kept memory => exact ⟨fun _ none => absurd none List.not_mem_nil, kept, start⟩
  | @turn first count kept found left memory between after counts shared ran rest ih =>
      rw [List.length_cons] at within ⊢
      have holdsFound : holds first found memory := by
        rcases shared with rfl | rfl
        · exact start
        · exact blank first kept memory start
      rcases step first found memory left count between (by omega) holdsFound ran with
        ⟨goodCount, later⟩
      rcases ih (by omega) later with ⟨goodRest, last, final⟩
      refine ⟨List.forall_mem_cons.mpr ⟨goodCount, goodRest⟩, last, ?_⟩
      rwa [Nat.add_comm counts.length, ← Nat.add_assoc]

theorem runIn_run_iff {groupId count : Nat} {found left : Array σ} {memory after : τ} :
    (Group.runIn geometry program groupId).run (found, memory) = (.ok count, (left, after)) ↔
      (program ⟨groupId, geometry⟩).run ⟨found, 0, memory⟩ = (.ok (), ⟨left, count, after⟩) := by
  simp only [Procedure.run, Group.runIn]
  rcases program ⟨groupId, geometry⟩ ⟨found, 0, memory⟩ with ⟨fault | ⟨⟩, state⟩
  · simp [Except.map]
  · rcases state with ⟨slots, barriers, outside⟩
    simp only [Except.map, Prod.mk.injEq, Except.ok.injEq, GroupState.mk.injEq, true_and]
    tauto

namespace Device

theorem mapRange_go_turns (free : FaultFree geometry slot program safe) (values : Array Nat)
    {first count : Nat} (within : first + count ≤ geometry.grid) {found : Array σ} {memory : τ}
    (start : safe found memory) :
    ∃ counts left after, counts.length = count ∧
      (Procedure.mapRange.go (Group.runIn geometry program) values first count).run
          (found, memory) = (.ok (values ++ counts.toArray), (left, after)) ∧
      Turns geometry slot program first found memory counts after ∧ safe left after := by
  induction count generalizing first values found memory with
  | zero => exact ⟨[], found, memory, rfl, by simp [Procedure.mapRange.go, Procedure.run],
      .done first found memory, start⟩
  | succ count ih =>
      have inGrid : first < geometry.grid := by omega
      rcases free.ends inGrid start with ⟨left, issued, between, ran, safeLeft⟩
      have restWithin : first + 1 + count ≤ geometry.grid := by omega
      rcases ih (values.push issued) restWithin safeLeft with
        ⟨counts, last, after, length, finished, turns, safeLast⟩
      refine ⟨issued :: counts, last, after, by rw [List.length_cons, length], ?_,
        .turn (.inl rfl) ran turns, safeLast⟩
      have inGroup : Group.runIn geometry program first (found, memory) =
          (.ok issued, (left, between)) := runIn_run_iff.mpr ran
      simp only [Procedure.run] at finished ⊢
      simp only [Procedure.mapRange.go, inGroup]
      rw [finished]
      simp

/-- The groups that one unit runs. -/
theorem runInTurn_turns (free : FaultFree geometry slot program safe) {first count : Nat}
    (within : first + count ≤ geometry.grid) {memory : τ}
    (start : safe (geometry.blankSlots slot) memory) :
    ∃ counts after, counts.length = count ∧
      (runInTurn geometry slot program first count).run memory = (.ok counts.toArray, after) ∧
      Turns geometry slot program first (geometry.blankSlots slot) memory counts after ∧
      safe (geometry.blankSlots slot) after := by
  cases count with
  | zero => exact ⟨[], memory, rfl, rfl, .done first _ memory, start⟩
  | succ count =>
      rcases mapRange_go_turns free #[] within start with
        ⟨counts, left, after, length, ran, turns, safeLeft⟩
      refine ⟨counts, after, length, ?_, turns, free.blank safeLeft⟩
      simp only [Procedure.run, Array.empty_append] at ran ⊢
      simp only [runInTurn, Procedure.mapRange, Geometry.blankSlots] at ran ⊢
      simp only [ran]
      rfl

/-- However the groups are shared out, all of them run in turn. -/
theorem runGroups_turns (free : FaultFree geometry slot program safe) (units : Nat)
    (start : safe (geometry.blankSlots slot) memory) :
    ∃ counts after, counts.length = geometry.grid ∧
      (runGroups units geometry slot program).run memory = (.ok counts.toArray, after) ∧
      Turns geometry slot program 0 (geometry.blankSlots slot) memory counts after := by
  have parts : ∀ first count memory, first + count ≤ geometry.grid →
      safe (geometry.blankSlots slot) memory →
      ∃ counts after, counts.length = count ∧
        (runInTurn geometry slot program first count).run memory = (.ok counts.toArray, after) ∧
        Turns geometry slot program first (geometry.blankSlots slot) memory counts after ∧
        safe (geometry.blankSlots slot) after :=
    fun _ _ _ within start => runInTurn_turns free within start
  rcases Share.runPart_of_traces units (fun _ _ _ _ _ _ => Turns.append) parts false
      (Share.whole units geometry.grid) (by simp [Share.whole]) start with
    ⟨counts, after, length, ran, turns, _⟩
  exact ⟨counts, after, length, ran, turns⟩

end Device

end Turns

end Bandwidth
