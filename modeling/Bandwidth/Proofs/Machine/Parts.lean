import Bandwidth.Proofs.Device
import Bandwidth.Proofs.Machine.Run

/-!
# Machines by parts

A device and a buffer of a machine can be put in place of what was there. An action on one device
changes that device alone, and a launch also the contents of the buffers; if no device is open at the
position, or the handle names no buffer, nothing happens at all. For as long as a buffer lives its
owner, its placement and its length stay: that is its outline.
-/

namespace Bandwidth

/-- What is fixed of a buffer for as long as it lives. -/
structure Outline where
  owner : Nat
  placement : Placement
  length : Nat
  deriving DecidableEq, Repr

def Booking.outline {α : Type} (booking : Booking α) : Outline :=
  ⟨booking.owner, booking.buffer.placement, booking.buffer.length⟩

namespace Machine

variable {α : Type}

def outlines (machine : Machine α) : Array (Option Outline) :=
  machine.bookings.map (Option.map Booking.outline)

def setDevice (machine : Machine α) (position : Nat) (device : Device) : Machine α :=
  { machine with devices := machine.devices.setIfInBounds position device }

def withBooking (machine : Machine α) (handle : Nat) (booking : Option (Booking α)) : Machine α :=
  { machine with bookings := machine.bookings.setIfInBounds handle booking }

variable {machine : Machine α} {position handle : Nat} {device : Device} {log : Array Event}

theorem setDevice_self (there : machine.devices[position]? = some device) :
    machine.setDevice position device = machine := by
  rcases Array.getElem?_eq_some_iff.mp there with ⟨below, rfl⟩
  rw [setDevice, Array.setIfInBounds, dif_pos below, Array.set_getElem_self]

theorem getElem?_setIfInBounds_cases {β : Type} {items : Array β} {place : Nat} {old new item : β}
    (there : items[place]? = some old)
    (found : (items.setIfInBounds place new)[position]? = some item) :
    (position = place ∧ item = new) ∨ (position ≠ place ∧ items[position]? = some item) := by
  rw [Array.getElem?_setIfInBounds] at found
  split at found
  · rename_i same
    subst same
    rcases Array.getElem?_eq_some_iff.mp there with ⟨below, -⟩
    simp only [below, if_true, Option.some.injEq] at found
    exact .inl ⟨rfl, found.symm⟩
  · rename_i different
    exact .inr ⟨Ne.symm different, found⟩

/-- A device that was opened is the last, and it is new. -/
theorem of_openDevice_run_ok {platform : Platform} {index : Nat}
    {logged after : Logged (Machine α)}
    (ran : (openDevice platform index).run logged = (.ok (), after)) :
    ∃ description, after.state.bookings = logged.state.bookings ∧
      after.state.devices = logged.state.devices.push (.fresh description platform.host) := by
  rcases Procedure.of_bind_run_ok ran with ⟨opened, between, openRan, done⟩
  rcases Action.of_check_bind_run_ok openRan with ⟨description, found, told⟩
  have emitted := Action.of_emit_bind_run_ok told
  simp only [Procedure.pure_run, Prod.mk.injEq, Except.ok.injEq] at emitted
  rcases emitted with ⟨rfl, rfl⟩
  rcases Prod.mk.inj done with ⟨-, rfl⟩
  exact ⟨description, rfl, rfl⟩

theorem contents_memory (machine : Machine α) (handle : Nat) :
    machine.memory.contents handle =
      ((machine.booking? handle).map (·.buffer.contents)).getD #[] := by
  simp only [memory, Memory.contents, booking?, Array.getD_eq_getD_getElem?, Array.getElem?_map]
  cases machine.bookings[handle]? with
  | none => rfl
  | some booking => cases booking <;> rfl

theorem setMemory_memory (machine : Machine α) : machine.setMemory machine.memory = machine := by
  have same : (machine.setMemory machine.memory).bookings = machine.bookings := by
    apply Array.ext_getElem?
    intro handle
    simp only [setMemory, Array.getElem?_mapIdx, contents_memory, booking?]
    cases machine.bookings[handle]? with
    | none => rfl
    | some booking => cases booking <;> rfl
  rcases machine with ⟨devices, bookings⟩
  simpa [setMemory] using same

theorem outline_of_booking {booking : Booking α} (found : machine.booking? handle = some booking) :
    machine.outlines[handle]? = some (some booking.outline) := by
  rw [booking?, Option.join_eq_some_iff] at found
  rw [outlines, Array.getElem?_map, found]
  rfl

theorem booking_of_outline {outline : Outline}
    (found : machine.outlines[handle]? = some (some outline)) :
    ∃ booking, machine.booking? handle = some booking ∧ booking.outline = outline := by
  rw [outlines, Array.getElem?_map] at found
  rcases Option.map_eq_some_iff.mp found with ⟨held, there, mapped⟩
  rcases Option.map_eq_some_iff.mp mapped with ⟨booking, rfl, same⟩
  exact ⟨booking, by rw [booking?, there]; rfl, same⟩

/-- Contents of the same lengths do not change what is fixed of the buffers. -/
theorem outlines_setMemory {memory : Memory α}
    (lengths : ∀ handle, (memory.contents handle).size = (machine.memory.contents handle).size) :
    (machine.setMemory memory).outlines = machine.outlines := by
  apply Array.ext_getElem?
  intro handle
  have length := lengths handle
  rw [contents_memory, booking?] at length
  simp only [outlines, setMemory, Array.getElem?_map, Array.getElem?_mapIdx]
  cases found : machine.bookings[handle]? with
  | none => rfl
  | some booking =>
      cases booking with
      | none => rfl
      | some booking => simpa [found, Booking.outline, Buffer.length] using length

theorem outlines_withBooking {booking other : Booking α}
    (found : machine.booking? handle = some booking) (same : other.outline = booking.outline) :
    (machine.withBooking handle (some other)).outlines = machine.outlines := by
  apply Array.ext_getElem?
  intro place
  simp only [outlines, withBooking, Array.getElem?_map, Array.getElem?_setIfInBounds]
  split
  · rename_i here
    subst here
    rw [booking?, Option.join_eq_some_iff] at found
    rcases Array.getElem?_eq_some_iff.mp found with ⟨below, here⟩
    simp [below, here, same]
  · rfl

section Actions

variable {β γ : Type} {outcome : Except Abort β} {after : Device} {told : Array Event}

theorem booking_run {booking : Booking α} (found : machine.booking? handle = some booking)
    (log : Array Event) :
    (Machine.booking handle).run ⟨machine, log⟩ = (.ok booking, ⟨machine, log⟩) := by
  rw [booking?, Option.join_eq_some_iff] at found
  rw [Machine.booking, Action.get_bind_run]
  simp only [found]
  rfl

theorem booking_run_of_dangling (dangling : machine.booking? handle = none) (log : Array Event) :
    (Machine.booking handle).run ⟨machine, log⟩ =
      (.error (.fault (.danglingBuffer handle)), ⟨machine, log⟩) := by
  rw [booking?, Option.join_eq_none_iff] at dangling
  rw [Machine.booking, Action.get_bind_run]
  rcases found : machine.bookings[handle]? with _ | _ | booking
  · rfl
  · rfl
  · simp [found] at dangling

theorem onDevice_run {action : Action Device β} (there : machine.devices[position]? = some device)
    (ran : action.run ⟨device, log⟩ = (outcome, ⟨after, told⟩)) :
    (onDevice position action).run ⟨machine, log⟩ =
      (outcome, ⟨machine.setDevice position after, told⟩) := by
  simp only [Procedure.run] at ran ⊢
  simp only [onDevice, there, ran]
  rfl

/-- An action that leaves its device as it was leaves the machine as it was. -/
theorem onDevice_run_of_same {action : Action Device β}
    (there : machine.devices[position]? = some device)
    (ran : action.run ⟨device, log⟩ = (outcome, ⟨device, log⟩)) :
    (onDevice position action).run ⟨machine, log⟩ = (outcome, ⟨machine, log⟩) := by
  rw [onDevice_run there ran, setDevice_self there]

theorem onDevice_run_of_closed (closed : machine.devices[position]? = none)
    (action : Action Device β) (log : Array Event) :
    ∃ failure, (onDevice position action).run ⟨machine, log⟩ =
      (.error (.failure failure), ⟨machine, log⟩) := by
  simp only [Procedure.run, onDevice, closed]
  exact ⟨_, rfl⟩

/-- An action that leaves any device as it was leaves the machine as it was. -/
theorem onDevice_run_snd_of_same {action : Action Device β}
    (same : ∀ device log, (action.run ⟨device, log⟩).2 = ⟨device, log⟩) (position : Nat)
    (logged : Logged (Machine α)) : ((onDevice position action).run logged).2 = logged := by
  rcases logged with ⟨machine, log⟩
  rcases there : machine.devices[position]? with _ | device
  · rcases onDevice_run_of_closed there action log with ⟨failure, closed⟩
    rw [closed]
  · rcases ran : action.run ⟨device, log⟩ with ⟨outcome, part⟩
    have left := same device log
    rw [ran] at left
    simp only at left
    subst left
    rw [onDevice_run_of_same there ran]

/-- What a step does with a buffer on a device: it looks for both, and then acts. -/
theorem booking_onDevice_cases (handle : Nat) (place : Booking α → Nat)
    (action : Booking α → Action Device β) (next : Booking α → β → Action (Machine α) γ)
    (machine : Machine α) (log : Array Event) :
    ((∃ reason,
        (booking handle >>= fun found => onDevice (place found) (action found) >>= next found).run
          ⟨machine, log⟩ = (.error reason, ⟨machine, log⟩)) ∧
      ∀ found, machine.booking? handle = some found → machine.devices[place found]? = none) ∨
    ∃ found device, machine.booking? handle = some found ∧
      machine.devices[place found]? = some device ∧
      (booking handle >>= fun found => onDevice (place found) (action found) >>= next found).run
        ⟨machine, log⟩ =
          (onDevice (place found) (action found) >>= next found).run ⟨machine, log⟩ := by
  rcases looked : machine.booking? handle with _ | found
  · have dangling := booking_run_of_dangling looked log
    exact .inl ⟨⟨_, Procedure.bind_run_of_error dangling _⟩, by simp⟩
  · have first := Procedure.bind_run_of_ok (booking_run looked log) fun found =>
      onDevice (place found) (action found) >>= next found
    rcases there : machine.devices[place found]? with _ | device
    · rcases onDevice_run_of_closed there (action found) log with ⟨failure, closed⟩
      refine .inl ⟨⟨_, first.trans (Procedure.bind_run_of_error closed _)⟩, ?_⟩
      rintro other ⟨⟩
      exact there
    · exact .inr ⟨found, device, rfl, there, first⟩

/-- What a launch leaves is known from what its work leaves, however it ends. -/
theorem launchInside_run_snd {work : Action (Device × Memory α) β} {memory : Memory α}
    (there : machine.devices[position]? = some device)
    (ran : (work.run ⟨(device, machine.memory), log⟩).2 = ⟨(after, memory), told⟩) :
    ((launchInside position work).run ⟨machine, log⟩).2 =
      ⟨(machine.setDevice position after).setMemory memory, told⟩ := by
  rcases worked : work.run ⟨(device, machine.memory), log⟩ with ⟨outcome, left⟩
  rw [worked] at ran
  simp only at ran
  subst ran
  have outside : (launchOutside position machine.memory work).run ⟨machine, log⟩ =
      (.ok (outcome, memory), ⟨machine.setDevice position after, told⟩) := by
    refine onDevice_run there ?_
    simp only [Procedure.run] at worked ⊢
    simp only [worked]
  rw [launchInside, Action.get_bind_run, Procedure.bind_run_of_ok outside]
  rfl

theorem launchInside_run_of_closed (closed : machine.devices[position]? = none)
    (work : Action (Device × Memory α) β) (log : Array Event) :
    ∃ failure, (launchInside position work).run ⟨machine, log⟩ =
      (.error (.failure failure), ⟨machine, log⟩) := by
  rcases onDevice_run_of_closed closed _ log with ⟨failure, outside⟩
  exact ⟨failure, Procedure.bind_run_of_error outside _⟩

/-- Work that fails and leaves its device and the memory as they were has done nothing. -/
theorem launchInside_run_of_refused {work : Action (Device × Memory α) β} {reason : Abort}
    (there : machine.devices[position]? = some device)
    (refused : work.run ⟨(device, machine.memory), log⟩ =
      (.error reason, ⟨(device, machine.memory), log⟩)) :
    (launchInside position work).run ⟨machine, log⟩ = (.error reason, ⟨machine, log⟩) := by
  have outside : (launchOutside position machine.memory work).run ⟨machine, log⟩ =
      (.ok (.error reason, machine.memory), ⟨machine, log⟩) := by
    refine onDevice_run_of_same there ?_
    simp only [Procedure.run] at refused ⊢
    simp only [refused]
  rw [launchInside, Action.get_bind_run, Procedure.bind_run_of_ok outside]
  simp only [Action.modify_bind_run, setMemory_memory]
  rfl

end Actions

end Machine

end Bandwidth
