import Bandwidth.Procedure
import Mathlib.Data.List.Basic

/-!
# Procedures that succeed

A sequence that succeeds has succeeded step by step. A loop is treated by an invariant of the
members that are left.
-/

namespace Bandwidth

namespace Procedure

variable {ε σ β : Type}

theorem of_bind_run_ok {γ : Type} {procedure : Procedure ε σ β} {next : β → Procedure ε σ γ}
    {state after : σ} {answer : γ} (ran : (procedure >>= next).run state = (.ok answer, after)) :
    ∃ value between, procedure.run state = (.ok value, between) ∧
      (next value).run between = (.ok answer, after) := by
  rcases first : procedure.run state with ⟨reason | value, between⟩
  · rw [bind_run_of_error first] at ran
    simp at ran
  · rw [bind_run_of_ok first] at ran
    exact ⟨value, between, rfl, ran⟩

theorem of_ofExcept_bind_run_ok {γ : Type} {outcome : Except ε β} {next : β → Procedure ε σ γ}
    {state after : σ} {answer : γ}
    (ran : (ofExcept outcome >>= next).run state = (.ok answer, after)) :
    ∃ value, outcome = .ok value ∧ (next value).run state = (.ok answer, after) := by
  rcases of_bind_run_ok ran with ⟨value, between, taken, rest⟩
  rcases Prod.mk.inj taken with ⟨rfl, rfl⟩
  exact ⟨value, rfl, rest⟩

/-- What is done with the value of a procedure does not matter for its state. -/
theorem bind_pure_run_snd {γ : Type} (procedure : Procedure ε σ β) (answer : β → γ) (state : σ) :
    ((do let value ← procedure; return answer value).run state).2 = (procedure.run state).2 := by
  rw [bind_run]
  rcases procedure.run state with ⟨reason | value, after⟩ <;> rfl

@[simp]
theorem ofExcept_ok (value : β) : (ofExcept (.ok value) : Procedure ε σ β) = pure value := rfl

/-- If a visit takes the invariant from the members that are left to those after it, all visits
succeed. -/
theorem forEach_of_steps {ι : Type} {visit : ι → Procedure ε σ Unit} {invariant : List ι → σ → Prop}
    (step : ∀ item rest state, invariant (item :: rest) state →
      ∃ after, (visit item).run state = (.ok (), after) ∧ invariant rest after)
    {items : List ι} {state : σ} (start : invariant items state) :
    ∃ after, (forEach visit items).run state = (.ok (), after) ∧ invariant [] after := by
  induction items generalizing state with
  | nil => exact ⟨state, rfl, start⟩
  | cons item items ih =>
      rcases step item items state start with ⟨between, visited, moved⟩
      rcases ih moved with ⟨after, finished, final⟩
      refine ⟨after, ?_, final⟩
      rw [forEach_cons, visited]
      exact finished

end Procedure

end Bandwidth
