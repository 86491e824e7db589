import Bandwidth.Benchmark.Session
import Bandwidth.Proofs.Procedure

/-!
# Sessions in a world

The other effects of a session — the clock, the log, the observer of a run — happen in a world that
the session does not know. Together with the world a session is a procedure again, and what is said
about procedures can be used for it.
-/

namespace Bandwidth

namespace Session

variable {κ σ β γ : Type}

/-- A session as a procedure on its state and the world. -/
def inWorld (session : Session (StateM κ) σ β) : Procedure Abort (σ × κ) β := fun (state, world) =>
  match StateT.run (start session state) world with
  | ((outcome, after), later) => (outcome, (after, later))

theorem start_bind_run (session : Session (StateM κ) σ β) (next : β → Session (StateM κ) σ γ)
    (state : σ) (world : κ) :
    StateT.run (start (session >>= next) state) world =
      match StateT.run (start session state) world with
      | ((.ok value, after), later) => StateT.run (start (next value) after) later
      | ((.error reason, after), later) => ((.error reason, after), later) := by
  have unfolded : StateT.run (start (session >>= next) state) world =
      ExceptT.bindCont next (session state world).1.1 (session state world).1.2
        (session state world).2 := rfl
  change _ =
    match session state world with
    | ((.ok value, after), later) => next value after later
    | ((.error reason, after), later) => ((.error reason, after), later)
  rw [unfolded]
  rcases session state world with ⟨⟨reason | value, after⟩, later⟩
  · rfl
  · rfl

theorem inWorld_bind (session : Session (StateM κ) σ β) (next : β → Session (StateM κ) σ γ) :
    inWorld (session >>= next) = inWorld session >>= fun value => inWorld (next value) := by
  funext ⟨state, world⟩
  change (match StateT.run (start (session >>= next) state) world with
    | ((outcome, after), later) => (outcome, (after, later))) =
      (inWorld session >>= fun value => inWorld (next value)).run (state, world)
  rw [start_bind_run, Procedure.bind_run]
  simp only [Procedure.run, inWorld]
  rcases StateT.run (start session state) world with ⟨⟨reason | value, after⟩, later⟩
  · rfl
  · rfl

theorem inWorld_monadLift_run (effect : StateM κ β) (state : σ) (world : κ) :
    (inWorld (monadLift effect)).run (state, world) =
      (.ok (effect.run world).1, (state, (effect.run world).2)) := rfl

theorem inWorld_forM_run {ι : Type} (effect : ι → StateM κ Unit) (items : List ι) (state : σ)
    (world : κ) :
    ∃ later,
      (inWorld
        (items.forM fun item => (monadLift (effect item) : Session (StateM κ) σ Unit))).run
          (state, world) = (.ok (), (state, later)) := by
  induction items generalizing world with
  | nil => exact ⟨world, rfl⟩
  | cons item items ih =>
      rcases ih ((effect item).run world).2 with ⟨later, ran⟩
      refine ⟨later, ?_⟩
      change (inWorld (monadLift (effect item) >>=
          fun _ => items.forM fun item => monadLift (effect item))).run (state, world) = _
      rw [inWorld_bind, Procedure.bind_run_of_ok (inWorld_monadLift_run (effect item) state world)]
      exact ran

theorem perform_bind_run {procedure : Procedure Abort σ β} {state after : σ} {value : β}
    (ran : procedure.run state = (.ok value, after)) (next : β → Session (StateM κ) σ γ)
    (world : κ) :
    (inWorld (perform procedure >>= next)).run (state, world) =
      (inWorld (next value)).run (after, world) := by
  have performed : (inWorld (perform procedure : Session (StateM κ) σ β)).run (state, world) =
      (.ok value, (after, world)) := by
    change ((procedure.run state).1, ((procedure.run state).2, world)) = _
    rw [ran]
  rw [inWorld_bind, Procedure.bind_run_of_ok performed]

theorem perform_bind_run_of_error {procedure : Procedure Abort σ β} {state after : σ}
    {reason : Abort} (ran : procedure.run state = (.error reason, after))
    (next : β → Session (StateM κ) σ γ) (world : κ) :
    (inWorld (perform procedure >>= next)).run (state, world) =
      (.error reason, (after, world)) := by
  have performed : (inWorld (perform procedure : Session (StateM κ) σ β)).run (state, world) =
      (.error reason, (after, world)) := by
    change ((procedure.run state).1, ((procedure.run state).2, world)) = _
    rw [ran]
  rw [inWorld_bind, Procedure.bind_run_of_error performed]

/-- What an action logs is told to the world. -/
theorem inWorld_performTelling_run (tell : Event → StateM κ Unit) {action : Action σ β} {state : σ}
    {outcome : Except Abort β} {after : Logged σ} (ran : action.run ⟨state, #[]⟩ = (outcome, after))
    (log : Array Event) (world : κ) :
    ∃ later, (inWorld (performTelling tell action)).run (⟨state, log⟩, world) =
      (outcome, (after, later)) := by
  refine ⟨(StateT.run (after.log.forM tell) world).2, ?_⟩
  change ((action.run ⟨state, #[]⟩).1, ((action.run ⟨state, #[]⟩).2,
    (StateT.run ((action.run ⟨state, #[]⟩).2.log.forM tell) world).2)) = _
  rw [ran]

section

variable {state : σ} (log : Array Event) (world : κ)

theorem monadLift_bind_run (effect : StateM κ β) (next : β → Session (StateM κ) σ γ) (state : σ)
    (world : κ) :
    (inWorld ((monadLift effect : Session (StateM κ) σ β) >>= next)).run (state, world) =
      (inWorld (next (effect.run world).1)).run (state, (effect.run world).2) := by
  rw [inWorld_bind, Procedure.bind_run_of_ok (inWorld_monadLift_run effect state world)]

theorem performTelling_bind_run (tell : Event → StateM κ Unit) {action : Action σ β} {value : β}
    {after : Logged σ} (ran : action.run ⟨state, #[]⟩ = (.ok value, after)) :
    ∃ later, ∀ {γ : Type} (next : β → Session (StateM κ) (Logged σ) γ),
      (inWorld (performTelling tell action >>= next)).run (⟨state, log⟩, world) =
        (inWorld (next value)).run (after, later) := by
  rcases inWorld_performTelling_run tell ran log world with ⟨later, performed⟩
  refine ⟨later, fun next => ?_⟩
  rw [inWorld_bind, Procedure.bind_run_of_ok performed]

theorem performTelling_bind_run_of_error (tell : Event → StateM κ Unit) {action : Action σ β}
    {reason : Abort} {after : Logged σ} (ran : action.run ⟨state, #[]⟩ = (.error reason, after)) :
    ∃ later, ∀ {γ : Type} (next : β → Session (StateM κ) (Logged σ) γ),
      (inWorld (performTelling tell action >>= next)).run (⟨state, log⟩, world) =
        (.error reason, (after, later)) := by
  rcases inWorld_performTelling_run tell ran log world with ⟨later, performed⟩
  refine ⟨later, fun next => ?_⟩
  rw [inWorld_bind, Procedure.bind_run_of_error performed]

end

end Session

/-- An observer that watches a run from the world. -/
def Observer.lift {κ σ δ : Type} (observer : Observer (StateM κ) δ) :
    Observer (Session (StateM κ) σ) δ where
  started kernels iterations elements := monadLift (observer.started kernels iterations elements)
  iterated iteration := monadLift (observer.iterated iteration)
  summarised summary := monadLift (observer.summarised summary)

/-- A run on a stream, by a clock and an observer in a world that is told what the stream logs. -/
def Benchmark.runInWorld {κ α δ : Type} [Measure δ] [Scalar α δ] (tell : Event → StateM κ Unit)
    (clock : StateM κ δ) (observer : Observer (StateM κ) δ) (plan : Plan δ) :
    Procedure Abort (Logged (Stream α) × κ) (Report α δ) :=
  Session.inWorld
    (run Stream.interface (Session.performTelling tell) (monadLift clock) observer.lift plan)

end Bandwidth
