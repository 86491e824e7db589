import Bandwidth.Machine
import Mathlib.Algebra.GroupWithZero.Nat

/-!
# Runs of a machine

A run opens devices and performs steps on them, in any order and with whatever success. What has
been done is kept beside the machine, the latest first: a moment is a step together with the machine
that the step found, so its outcome and all that it told are known.

Everything that is said of a device below is said by its position. A step is handed a device if a
device is open at the position that it names; and a buffer is freed without any.
-/

namespace Bandwidth

/-- The launches that an event reports as retired. -/
def Event.retired : Event → Nat
  | synchronized _ retired => retired
  | _ => 0

namespace Machine

variable {α : Type}

/-- The booking of a handle, unless it was freed. -/
def booking? (machine : Machine α) (handle : Nat) : Option (Booking α) :=
  machine.bookings[handle]?.join

def lengthOf? (machine : Machine α) (handle : Nat) : Option Nat :=
  (machine.booking? handle).map (·.buffer.length)

namespace Step

/-- The position of the device that a step is handed. -/
def device? : Step α → Option Nat
  | free _ => none
  | allocate device _ _ | pin device _ | view device _ | edit device _ _ | download device _ _
  | upload device _ _ | synchronize device | ensureIdle device _ | launch device _ _
  | launchGroups device _ _ | elementwise device _ _ _ _ | dot device _ _ _ _ _ => some device

/-- What validation says of the geometry of a launch; other steps have none. -/
def validation? : Step α → Option (Except Failure Unit)
  | launch _ geometry _ | elementwise _ _ geometry _ _ => some geometry.validate
  | launchGroups _ geometry _ | dot _ geometry _ _ _ _ => some geometry.validateCooperative
  | _ => none

def launches (step : Step α) : Bool :=
  match step.validation? with
  | some (.ok ()) => true
  | _ => false

/-- The buffer that is transferred, and the length of the host's array. -/
def transfer? : Step α → Option (Nat × Nat)
  | download _ handle target => some (handle, target.size)
  | upload _ handle source => some (handle, source.size)
  | _ => none

/-- The buffer whose contents the host asks to see or to change in place. -/
def view? : Step α → Option Nat
  | view _ handle | edit _ handle _ => some handle
  | _ => none

/-- Whether a step waits for the queue: a transfer does, if the lengths agree. -/
def waits (machine : Machine α) : Step α → Bool
  | synchronize _ => true
  | step => step.transfer?.any fun (handle, length) => machine.lengthOf? handle == some length

end Step

/-- A step, and the machine that it found. -/
structure Moment (α : Type) where
  before : Logged (Machine α)
  step : Step α

namespace Moment

/-- Whether the step was handed the device at a position. -/
def handed (moment : Moment α) (position : Nat) : Bool :=
  moment.step.device? == some position && decide (position < moment.before.state.devices.size)

def launchesOn (position : Nat) (moment : Moment α) : Bool :=
  moment.handed position && moment.step.launches

def waitsOn (position : Nat) (moment : Moment α) : Bool :=
  moment.handed position && moment.step.waits moment.before.state

theorem handed_of_there (moment : Moment α) {position : Nat} {device : Device}
    (handed : moment.step.device? = some position)
    (there : moment.before.state.devices[position]? = some device) :
    moment.handed position = true := by
  rcases Array.getElem?_eq_some_iff.mp there with ⟨below, -⟩
  simp [Moment.handed, handed, below]

theorem not_handed (moment : Moment α) {position place : Nat}
    (handed : moment.step.device? = some place) (different : position ≠ place) :
    moment.handed position = false := by
  simp [Moment.handed, handed, Ne.symm different]

variable [Element α]

def outcome (moment : Moment α) : Except Abort (Reply α) :=
  ((perform moment.step).run moment.before).1

def after (moment : Moment α) : Logged (Machine α) :=
  ((perform moment.step).run moment.before).2

/-- The events that the step told. -/
def told (moment : Moment α) : List Event :=
  moment.after.log.toList.drop moment.before.log.size

/-- The launches that the step reported as retired on the device that it was handed. -/
def retiredOn (position : Nat) (moment : Moment α) : Nat :=
  if moment.handed position then (moment.told.map Event.retired).sum else 0

end Moment

/-- The launches on a device since the last step that waited for its queue. -/
def inFlightOn (position : Nat) (past : List (Moment α)) : List (Moment α) :=
  (past.takeWhile fun moment => !moment.waitsOn position).filter (·.launchesOn position)

/-- What a run has done, the latest first, and the machine that it has led to. -/
inductive Run [Element α] : List (Moment α) → Logged (Machine α) → Prop
  | start (log : Array Event) : Run [] ⟨empty, log⟩
  | opened {past : List (Moment α)} {logged after : Logged (Machine α)} (platform : Platform)
      (index : Nat) (run : Run past logged)
      (found : (openDevice platform index).run logged = (.ok (), after)) : Run past after
  | performed {past : List (Moment α)} {logged : Logged (Machine α)} (step : Step α)
      (run : Run past logged) : Run (⟨logged, step⟩ :: past) (Moment.after ⟨logged, step⟩)

end Machine

end Bandwidth
