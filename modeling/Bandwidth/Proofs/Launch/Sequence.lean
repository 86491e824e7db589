import Bandwidth.Launch.Share
import Bandwidth.Proofs.Procedure

/-!
# A grid in its parts

Halving the work makes of a grid contiguous parts, and what holds of each part is put together along
the halves: an invariant of the memory, indexed by the number of groups that have run, and a trace
of what these groups have answered.
-/

namespace Bandwidth

namespace Share

variable {ε σ β : Type} {work : Nat → Nat → Procedure ε σ (Array β)} {invariant : Nat → σ → Prop}
  {total : Nat}

theorem first_count_of_halves? {units : Nat} {takenOver : Bool} {share left right : Share}
    (halved : share.halves? units takenOver = some (left, right)) :
    left.first = share.first ∧ right.first = left.first + left.count ∧
      right.first + right.count = share.first + share.count := by
  unfold halves? at halved
  split at halved
  · simp at halved
  · rcases Option.map_eq_some_iff.mp halved with ⟨budget, _, equal⟩
    rcases Prod.mk.inj equal with ⟨rfl, rfl⟩
    refine ⟨rfl, rfl, ?_⟩
    show share.first + share.count / 2 + (share.count - share.count / 2) = share.first + share.count
    omega

def groups (share : Share) : List Nat := List.range' share.first share.count

/-- The halves of a share have its groups, in order. -/
theorem groups_append_of_halves? {units : Nat} {takenOver : Bool} {share left right : Share}
    (halved : share.halves? units takenOver = some (left, right)) :
    left.groups ++ right.groups = share.groups := by
  unfold halves? at halved
  split at halved
  · simp at halved
  · rcases Option.map_eq_some_iff.mp halved with ⟨budget, _, equal⟩
    rcases Prod.mk.inj equal with ⟨rfl, rfl⟩
    simp only [groups]
    rw [List.range'_append_1]
    congr 1
    omega

/-- What one unit does with groups that lie side by side is done with a whole share: `trace` tells
what a run of groups has answered, and traces of runs that follow each other are appended. -/
theorem runPart_of_traces (units : Nat) {trace : Nat → σ → List β → σ → Prop}
    (append : ∀ first state values between more after,
      trace first state values between → trace (first + values.length) between more after →
        trace first state (values ++ more) after)
    (steps : ∀ first count state, first + count ≤ total → invariant first state →
      ∃ values after, values.length = count ∧
        (work first count).run state = (.ok values.toArray, after) ∧
        trace first state values after ∧ invariant (first + count) after)
    (takenOver : Bool) (share : Share) (within : share.first + share.count ≤ total) {state : σ}
    (start : invariant share.first state) :
    ∃ values after, values.length = share.count ∧
      (share.runPart units work takenOver).run state = (.ok values.toArray, after) ∧
      trace share.first state values after ∧ invariant (share.first + share.count) after := by
  induction size : share.count using Nat.strongRecOn generalizing share takenOver state with
  | ind size ih =>
      subst size
      simp only [Procedure.run] at *
      rw [runPart]
      split
      · exact steps share.first share.count state within start
      · rename_i left right halved
        rcases count_lt_of_halves? halved with ⟨leftFewer, rightFewer⟩
        rcases first_count_of_halves? halved with ⟨leftFirst, rightFirst, rightEnd⟩
        rcases ih left.count leftFewer false left (by omega) (leftFirst ▸ start) rfl with
          ⟨values, between, leftLength, leftRun, leftTrace, leftDone⟩
        rcases ih right.count rightFewer false right (by omega) (rightFirst ▸ leftDone) rfl with
          ⟨more, after, rightLength, rightRun, rightTrace, rightDone⟩
        refine ⟨values ++ more, after, ?_, ?_, ?_, rightEnd ▸ rightDone⟩
        · rw [List.length_append]
          omega
        · simp only [leftRun, rightRun, List.append_toArray]
        · rw [← leftFirst]
          apply append _ _ _ _ _ _ leftTrace
          rwa [leftLength, ← rightFirst]

end Share

end Bandwidth
