import Bandwidth.Event
import Bandwidth.Proofs.Procedure

/-!
# Actions that succeed

The steps that look at the state, change it or tell an event always succeed; a check does if its
outcome says so.
-/

namespace Bandwidth

namespace Action

variable {σ β γ : Type} {logged after : Logged σ} {answer : γ}

theorem within_run {τ : Type} (view : σ → τ) (update : σ → τ → σ) {action : Action τ β} {state : σ}
    {part : τ} {log told : Array Event} {outcome : Except Abort β}
    (ran : action.run ⟨view state, log⟩ = (outcome, ⟨part, told⟩)) :
    (within view update action).run ⟨state, log⟩ = (outcome, ⟨update state part, told⟩) := by
  simp only [Procedure.run] at ran ⊢
  simp only [within, Procedure.within, ran]

theorem get_bind_run (next : σ → Action σ γ) (logged : Logged σ) :
    (get >>= next).run logged = (next logged.state).run logged := rfl

theorem modify_bind_run (change : σ → σ) (next : Unit → Action σ γ) (logged : Logged σ) :
    (modify change >>= next).run logged = (next ()).run ⟨change logged.state, logged.log⟩ := rfl

theorem emit_bind_run (event : Event) (next : Unit → Action σ γ) (logged : Logged σ) :
    (emit event >>= next).run logged = (next ()).run ⟨logged.state, logged.log.push event⟩ := rfl

@[simp]
theorem check_ok (value : β) : (check (.ok value) : Action σ β) = pure value := rfl

@[simp]
theorem checked_ok (value : β) : (checked (.ok value) : Action σ β) = pure value := rfl

theorem of_get_bind_run_ok {next : σ → Action σ γ}
    (ran : (get >>= next).run logged = (.ok answer, after)) :
    (next logged.state).run logged = (.ok answer, after) :=
  ran

theorem of_emit_bind_run_ok {event : Event} {next : Unit → Action σ γ}
    (ran : (emit event >>= next).run logged = (.ok answer, after)) :
    (next ()).run ⟨logged.state, logged.log.push event⟩ = (.ok answer, after) :=
  ran

theorem of_check_bind_run_ok {outcome : Except Failure β} {next : β → Action σ γ}
    (ran : (check outcome >>= next).run logged = (.ok answer, after)) :
    ∃ value, outcome = .ok value ∧ (next value).run logged = (.ok answer, after) := by
  rcases Procedure.of_ofExcept_bind_run_ok ran with ⟨value, succeeded, rest⟩
  cases outcome with
  | error failure => simp [Except.mapError] at succeeded
  | ok found =>
      rcases Except.ok.inj succeeded with rfl
      exact ⟨_, rfl, rest⟩

theorem of_checked_bind_run_ok {outcome : Checked β} {next : β → Action σ γ}
    (ran : (checked outcome >>= next).run logged = (.ok answer, after)) :
    ∃ value, outcome = .ok value ∧ (next value).run logged = (.ok answer, after) := by
  rcases Procedure.of_ofExcept_bind_run_ok ran with ⟨value, succeeded, rest⟩
  cases outcome with
  | error fault => simp [Except.mapError] at succeeded
  | ok found =>
      rcases Except.ok.inj succeeded with rfl
      exact ⟨_, rfl, rest⟩

end Action

end Bandwidth
