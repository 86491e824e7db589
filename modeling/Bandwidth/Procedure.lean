import Bandwidth.Failure

/-!
# Procedures

A procedure works on a state and may stop early. It is a function and not a stack of transformers, so that its equations
hold by definition. The state is handed back in either case: a launch that faults half-way has been counted and has
written some elements, and the library's statements are about exactly that state.

An `Action` is a procedure that keeps a log beside its state.
-/

namespace Bandwidth

/-- A computation on a state `σ` that yields a `β` or stops with an `ε`. -/
def Procedure (ε σ β : Type) : Type := σ → Except ε β × σ

namespace Procedure

variable {ε σ τ β γ ι : Type}

@[always_inline, inline]
def run (procedure : Procedure ε σ β) (state : σ) : Except ε β × σ := procedure state

@[always_inline, inline]
def stop (reason : ε) : Procedure ε σ β := fun state => (.error reason, state)

@[always_inline]
instance : Monad (Procedure ε σ) where
  pure value := fun state => (.ok value, state)
  bind procedure next := fun state =>
    match procedure state with
    | (.ok value, state) => next value state
    | (.error reason, state) => (.error reason, state)

@[always_inline, inline]
def get : Procedure ε σ σ := fun state => (.ok state, state)

@[always_inline, inline]
def modify (change : σ → σ) : Procedure ε σ Unit := fun state => (.ok (), change state)

@[always_inline, inline]
def ofExcept (outcome : Except ε β) : Procedure ε σ β := fun state => (outcome, state)

/-- Runs a procedure on a part of the state and puts the part back. -/
@[always_inline, inline]
def within (view : σ → τ) (update : σ → τ → σ) (procedure : Procedure ε τ β) : Procedure ε σ β := fun state =>
  match procedure (view state) with
  | (outcome, part) => (outcome, update state part)

@[simp]
theorem pure_run (value : β) (state : σ) : (pure value : Procedure ε σ β).run state = (.ok value, state) := rfl

@[simp]
theorem stop_run (reason : ε) (state : σ) : (stop reason : Procedure ε σ β).run state = (.error reason, state) := rfl

@[simp]
theorem get_run (state : σ) : (get : Procedure ε σ σ).run state = (.ok state, state) := rfl

@[simp]
theorem modify_run (change : σ → σ) (state : σ) :
    (modify change : Procedure ε σ Unit).run state = (.ok (), change state) := rfl

@[simp]
theorem ofExcept_run (outcome : Except ε β) (state : σ) :
    (ofExcept outcome : Procedure ε σ β).run state = (outcome, state) := rfl

theorem bind_run (procedure : Procedure ε σ β) (next : β → Procedure ε σ γ) (state : σ) :
    (procedure >>= next).run state =
      match procedure.run state with
      | (.ok value, state) => (next value).run state
      | (.error reason, state) => (.error reason, state) := rfl

theorem get_bind_run (next : σ → Procedure ε σ γ) (state : σ) :
    (get >>= next).run state = (next state).run state := rfl

theorem modify_bind_run (change : σ → σ) (next : Unit → Procedure ε σ γ) (state : σ) :
    (modify change >>= next).run state = (next ()).run (change state) := rfl

theorem bind_run_of_ok {procedure : Procedure ε σ β} {state after : σ} {value : β}
    (success : procedure.run state = (.ok value, after)) (next : β → Procedure ε σ γ) :
    (procedure >>= next).run state = (next value).run after := by
  rw [bind_run, success]

theorem bind_run_of_error {procedure : Procedure ε σ β} {state after : σ} {reason : ε}
    (stopped : procedure.run state = (.error reason, after)) (next : β → Procedure ε σ γ) :
    (procedure >>= next).run state = (.error reason, after) := by
  rw [bind_run, stopped]

instance : LawfulMonad (Procedure ε σ) :=
  LawfulMonad.mk' _
    (by
      intro β procedure
      funext state
      change (match procedure state with
        | (.ok value, state) => (.ok value, state)
        | (.error reason, state) => (.error reason, state)) = procedure state
      rcases procedure state with ⟨outcome, after⟩
      cases outcome <;> rfl)
    (by
      intro β γ value next
      rfl)
    (by
      intro β γ δ procedure first second
      funext state
      change (match (match procedure state with
          | (.ok value, state) => first value state
          | (.error reason, state) => (.error reason, state)) with
        | (.ok value, state) => second value state
        | (.error reason, state) => (.error reason, state)) =
        (match procedure state with
          | (.ok value, state) =>
              (match first value state with
                | (.ok value, state) => second value state
                | (.error reason, state) => (.error reason, state))
          | (.error reason, state) => (.error reason, state))
      rcases procedure state with ⟨outcome, after⟩
      cases outcome <;> rfl)

/-- Runs a procedure for each member of a list, until one stops. -/
def forEach (visit : ι → Procedure ε σ Unit) : List ι → Procedure ε σ Unit
  | [] => fun state => (.ok (), state)
  | item :: items => fun state =>
      match visit item state with
      | (.ok (), state) => forEach visit items state
      | (.error reason, state) => (.error reason, state)

/-- Runs a procedure for so many numbers from a first one on, until one stops. -/
def forRange (visit : Nat → Procedure ε σ Unit) (first : Nat) : Nat → Procedure ε σ Unit
  | 0 => fun state => (.ok (), state)
  | count + 1 => fun state =>
      match visit first state with
      | (.ok (), state) => forRange visit (first + 1) count state
      | (.error reason, state) => (.error reason, state)

/-- Runs a procedure for so many numbers from a first one on, until one stops; the answer holds the value of each. -/
def mapRange (visit : Nat → Procedure ε σ β) (first count : Nat) : Procedure ε σ (Array β) :=
  go #[] first count
where
  go (values : Array β) (first : Nat) : Nat → Procedure ε σ (Array β)
    | 0 => fun state => (.ok values, state)
    | count + 1 => fun state =>
        match visit first state with
        | (.ok value, state) => go (values.push value) (first + 1) count state
        | (.error reason, state) => (.error reason, state)

@[simp]
theorem forEach_nil (visit : ι → Procedure ε σ Unit) (state : σ) :
    (forEach visit []).run state = (.ok (), state) := rfl

theorem forEach_cons (visit : ι → Procedure ε σ Unit) (item : ι) (items : List ι) (state : σ) :
    (forEach visit (item :: items)).run state =
      match (visit item).run state with
      | (.ok (), state) => (forEach visit items).run state
      | (.error reason, state) => (.error reason, state) := rfl

theorem forRange_eq_forEach (visit : Nat → Procedure ε σ Unit) (first count : Nat) :
    forRange visit first count = forEach visit (List.range' first count) := by
  induction count generalizing first with
  | zero => rfl
  | succ count ih =>
      funext state
      rw [forRange, List.range'_succ, forEach, ih]

end Procedure

end Bandwidth
