import Bandwidth.Procedure

/-!
# Shares of a grid

The groups of a launch are shared out among the units of a device. The grid is halved, and its halves are halved again
for as long as their budget lasts: the grid has a budget of as many units as there are, and a half has half the budget.
What is not halved is run by one unit, group after group.

A fault ends the part of the grid that one unit runs, and no other. If the first of two halves faults, the second is
taken over: it is halved again as if all units were free.
-/

namespace Bandwidth

/-- Groups that lie side by side. -/
structure Share where
  first : Nat
  count : Nat
  /-- The units that may still be given a part of their own. -/
  budget : Nat
  deriving DecidableEq, Repr

namespace Share

/-- The whole grid, with all units free. -/
def whole (units groups : Nat) : Share := ⟨0, groups, units⟩

/-- The budget of the halves, if there is any left to halve a share. -/
def nextBudget? (units : Nat) (takenOver : Bool) (share : Share) : Option Nat :=
  if takenOver then some (max units (share.budget / 2))
  else if 0 < share.budget then some (share.budget / 2)
  else none

/-- The two halves of a share, unless it is left whole. -/
def halves? (units : Nat) (takenOver : Bool) (share : Share) : Option (Share × Share) :=
  if share.count < 2 then none
  else
    (share.nextBudget? units takenOver).map fun budget =>
      (⟨share.first, share.count / 2, budget⟩,
        ⟨share.first + share.count / 2, share.count - share.count / 2, budget⟩)

theorem count_lt_of_halves? {units : Nat} {takenOver : Bool} {share left right : Share}
    (halved : share.halves? units takenOver = some (left, right)) :
    left.count < share.count ∧ right.count < share.count := by
  unfold halves? at halved
  split at halved
  · simp at halved
  · obtain ⟨budget, _, equal⟩ := Option.map_eq_some_iff.mp halved
    obtain ⟨rfl, rfl⟩ := Prod.mk.inj equal
    constructor
    · show share.count / 2 < share.count
      omega
    · show share.count - share.count / 2 < share.count
      omega

variable {ε σ β : Type}

/--
Runs the groups of a share. `work` runs the groups that one unit takes, so many from a first one on, and the answer holds
the values of all groups. If several parts stop, the first of them gives the reason.
-/
def runPart (units : Nat) (work : Nat → Nat → Procedure ε σ (Array β)) (takenOver : Bool) (share : Share) :
    Procedure ε σ (Array β) := fun state =>
  match _halved : share.halves? units takenOver with
  | none => work share.first share.count state
  | some (left, right) =>
      match left.runPart units work false state with
      | (.ok values, state) =>
          match right.runPart units work false state with
          | (.ok more, state) => (.ok (values ++ more), state)
          | (.error reason, state) => (.error reason, state)
      | (.error reason, state) =>
          match right.runPart units work true state with
          | (_, state) => (.error reason, state)
termination_by share.count
decreasing_by
  all_goals
    have fewer := count_lt_of_halves? (by assumption)
    omega

/-- Runs the groups of a grid on so many units. -/
def runGrid (units groups : Nat) (work : Nat → Nat → Procedure ε σ (Array β)) : Procedure ε σ (Array β) :=
  (whole units groups).runPart units work false

end Share

end Bandwidth
