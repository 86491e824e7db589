import Bandwidth.Proofs.Launch.Counted
import Bandwidth.Proofs.Machine.Parts

/-!
# What a step does to a machine

A step does one of six things, and each of them to one device at most. Everything else about runs
follows from this list: a device is idle after a step that waits for it, and has one more launch in
flight after one that launches; the books change where a buffer comes or goes, or is refused because
no more can be counted; and a buffer keeps its outline for as long as it lives.

Buffers keep their lengths only if nobody makes them shorter or longer. Kernels of the library do
not; of work that a caller brings along this has to be asked for.
-/

namespace Bandwidth

open Procedure (Keeps)

namespace Machine

variable {α : Type}

namespace Step

/-- The block of memory that a step asks a device for, and its placement. -/
def request? : Step α → Option (Nat × Nat × Placement)
  | allocate device length residency => some (device, length, .resident residency)
  | pin device length => some (device, length, .pinned)
  | _ => none

/-- Whether the work that a caller brings along leaves the buffers as long as they were. -/
def KeepsLengths : Step α → Prop
  | edit _ _ change => ∀ contents changed, change contents = .ok changed →
      changed.size = contents.size
  | launch _ _ kernel => ∀ lengths worker, Keeps (Memory.HasLengths lengths) (kernel worker)
  | launchGroups _ _ program => ∀ lengths group,
      Keeps (GroupState.HasLengths lengths) (program group)
  | _ => True

end Step

/-- No device is launched on or waited for. -/
def Moment.Quiet (moment : Moment α) : Prop :=
  ∀ position, moment.launchesOn position = false ∧ moment.waitsOn position = false

/-- What a step can do, by what becomes of the devices, of the buffers and of the log. -/
inductive Effect [Element α] (moment : Moment α) : Prop
  | rested (quiet : moment.Quiet)
      (devices : moment.after.state.devices = moment.before.state.devices)
      (outlines : moment.step.KeepsLengths →
        moment.after.state.outlines = moment.before.state.outlines)
      (log : moment.after.log = moment.before.log)
  | waited {position : Nat} {device : Device} (handed : moment.step.device? = some position)
      (there : moment.before.state.devices[position]? = some device)
      (waits : moment.step.waits moment.before.state = true)
      (devices : moment.after.state.devices =
        moment.before.state.devices.setIfInBounds position device.idle)
      (outlines : moment.after.state.outlines = moment.before.state.outlines)
      (log : moment.after.log = device.logRetired moment.before.log)
  | launched {position : Nat} {device : Device} {event : Event}
      (handed : moment.step.device? = some position)
      (there : moment.before.state.devices[position]? = some device)
      (launches : moment.step.launches = true)
      (devices : moment.after.state.devices =
        moment.before.state.devices.setIfInBounds position device.beginLaunch)
      (outlines : moment.step.KeepsLengths →
        moment.after.state.outlines = moment.before.state.outlines)
      (log : moment.after.log = moment.before.log.push event) (silent : event.retired = 0)
  | reserved {position length : Nat} {placement : Placement} {device : Device} {ledger : Ledger}
      {told : Array Event} (quiet : moment.Quiet)
      (asked : moment.step.request? = some (position, length, placement))
      (there : moment.before.state.devices[position]? = some device)
      (granted : Buffer.checkBlock α device.host length = .ok ())
      (booked : (Ledger.book (placement.reservation (length * Element.bytes α))).run device.ledger =
        (.ok (), ledger))
      (devices : moment.after.state.devices =
        moment.before.state.devices.setIfInBounds position { device with ledger := ledger })
      (outlines : moment.after.state.outlines =
        moment.before.state.outlines.push (some ⟨position, placement, length⟩))
      (log : moment.after.log = moment.before.log ++ told)
      (silent : ∀ event ∈ told, event.retired = 0)
  | refused {position length : Nat} {placement : Placement} {device : Device} {ledger : Ledger}
      {reason : Abort} (quiet : moment.Quiet)
      (asked : moment.step.request? = some (position, length, placement))
      (there : moment.before.state.devices[position]? = some device)
      (booked : (Ledger.book (placement.reservation (length * Element.bytes α))).run device.ledger =
        (.error reason, ledger))
      (devices : moment.after.state.devices =
        moment.before.state.devices.setIfInBounds position { device with ledger := ledger })
      (outlines : moment.after.state.outlines = moment.before.state.outlines)
      (log : moment.after.log = moment.before.log)
  | freed {handle : Nat} {outline : Outline} {device : Device} {ledger : Ledger}
      (quiet : moment.Quiet) (frees : moment.step = .free handle)
      (found : moment.before.state.outlines[handle]? = some (some outline))
      (there : moment.before.state.devices[outline.owner]? = some device)
      (booked : (Ledger.book (outline.placement.release (outline.length * Element.bytes α))).run
        device.ledger = (.ok (), ledger))
      (devices : moment.after.state.devices =
        moment.before.state.devices.setIfInBounds outline.owner { device with ledger := ledger })
      (outlines : moment.after.state.outlines =
        moment.before.state.outlines.setIfInBounds handle none)
      (log : moment.after.log = moment.before.log)

section Cases

variable [Element α] {moment : Moment α} {logged : Logged (Machine α)} {position handle : Nat}

omit [Element α] in
theorem quiet_of_closed (handed : moment.step.device? = some position)
    (closed : moment.before.state.devices[position]? = none) : moment.Quiet := by
  have outside : ∀ other, moment.handed other = false := by
    intro other
    rw [Moment.handed, handed]
    by_cases same : position = other
    · subst same
      have above := Array.getElem?_eq_none_iff.mp closed
      simpa using above
    · simp [same]
  intro other
  simp [Moment.launchesOn, Moment.waitsOn, outside other]

omit [Element α] in
theorem quiet_of_still (launches : moment.step.launches = false)
    (waits : moment.step.waits moment.before.state = false) : moment.Quiet := by
  intro other
  simp [Moment.launchesOn, Moment.waitsOn, launches, waits]

theorem effect_of_same (quiet : moment.Quiet) (same : moment.after = moment.before) :
    Effect moment :=
  .rested quiet (by rw [same]) (fun _ => by rw [same]) (by rw [same])

/-- What a device that is asked for a block answers: the host has none, or the books refuse it, or
the block is booked and is a buffer. -/
inductive Provision (device : Device) (log : Array Event) (length : Nat) (placement : Placement) :
    Except Abort (Buffer α) × Logged Device → Prop
  | exhausted (failure : Failure)
      (exhausted : Buffer.checkBlock α device.host length = .error failure) :
      Provision device log length placement (.error (.failure failure), ⟨device, log⟩)
  | refused (reason : Abort) (ledger : Ledger)
      (granted : Buffer.checkBlock α device.host length = .ok ())
      (booked : (Ledger.book (placement.reservation (length * Element.bytes α))).run
        device.ledger = (.error reason, ledger)) :
      Provision device log length placement
        (.error reason, ⟨{ device with ledger := ledger }, log⟩)
  | served (ledger : Ledger) (told : Array Event)
      (granted : Buffer.checkBlock α device.host length = .ok ())
      (booked : (Ledger.book (placement.reservation (length * Element.bytes α))).run
        device.ledger = (.ok (), ledger))
      (silent : ∀ event ∈ told, event.retired = 0) :
      Provision device log length placement
        (.ok (Buffer.zeroed length placement), ⟨{ device with ledger := ledger }, log ++ told⟩)

theorem provide_provision (device : Device) (log : Array Event) (length : Nat) (placement : Placement) :
    Provision device log length placement
      ((Buffer.provide length placement : Action Device (Buffer α)).run ⟨device, log⟩) := by
  cases granted : Buffer.checkBlock α device.host length with
  | error failure =>
      rw [Buffer.provide_run_of_exhausted granted]
      exact .exhausted failure granted
  | ok _ =>
      rcases booked : (Ledger.book (placement.reservation (length * Element.bytes α))).run
        device.ledger with ⟨reason | ⟨⟩, ledger⟩
      · rw [Buffer.provide_run_of_refused granted booked]
        exact .refused reason ledger granted booked
      · rw [Buffer.provide_run granted booked]
        exact .served ledger #[] granted booked (by simp)

theorem allocate_provision (device : Device) (log : Array Event) (length : Nat)
    (residency : Residency) :
    Provision device log length (.resident residency)
      ((Buffer.allocate length residency : Action Device (Buffer α)).run ⟨device, log⟩) := by
  have provided := provide_provision (α := α) device log length (.resident residency)
  generalize ran : (Buffer.provide length (.resident residency) : Action Device (Buffer α)).run
    ⟨device, log⟩ = answered at provided
  cases provided with
  | exhausted failure exhausted =>
      rw [Buffer.allocate_run_of_error ran]
      exact .exhausted failure exhausted
  | refused reason ledger granted booked =>
      rw [Buffer.allocate_run_of_error ran]
      exact .refused reason ledger granted booked
  | served ledger told granted booked silent =>
      rw [Buffer.allocate_run ran, ← Array.append_singleton, Array.append_assoc]
      refine .served ledger _ granted booked ?_
      simpa [Event.retired, or_imp, forall_and] using silent

/-- What becomes of a step that asks for a block: there is none, or it cannot be booked, or it is. -/
inductive Requested (moment : Moment α) (position length : Nat) (placement : Placement) : Prop
  | missing (reason : Abort) (outcome : moment.outcome = .error reason)
      (same : moment.after = moment.before)
      (cause : ∀ device, moment.before.state.devices[position]? = some device →
        Buffer.checkBlock α device.host length ≠ .ok ())
  | refused {device : Device} {ledger : Ledger} {reason : Abort}
      (there : moment.before.state.devices[position]? = some device)
      (granted : Buffer.checkBlock α device.host length = .ok ())
      (booked : (Ledger.book (placement.reservation (length * Element.bytes α))).run
        device.ledger = (.error reason, ledger))
      (outcome : moment.outcome = .error reason)
      (after : moment.after =
        ⟨moment.before.state.setDevice position { device with ledger := ledger },
          moment.before.log⟩)
  | served {device : Device} {ledger : Ledger} {told : Array Event}
      (there : moment.before.state.devices[position]? = some device)
      (granted : Buffer.checkBlock α device.host length = .ok ())
      (booked : (Ledger.book (placement.reservation (length * Element.bytes α))).run
        device.ledger = (.ok (), ledger))
      (silent : ∀ event ∈ told, event.retired = 0)
      (outcome : moment.outcome = .ok (.handle moment.before.state.bookings.size))
      (after : moment.after =
        ⟨⟨moment.before.state.devices.setIfInBounds position { device with ledger := ledger },
          moment.before.state.bookings.push
            (some ⟨position, Buffer.zeroed length placement⟩)⟩,
          moment.before.log ++ told⟩)

/-- What a step does with a buffer that was provided. -/
def register (position : Nat) (buffer : Buffer α) : Action (Machine α) (Reply α) := do
  return .handle (← addBuffer position buffer)

theorem requested_of_provision {length : Nat} {placement : Placement}
    {action : Action Device (Buffer α)}
    (provisions : ∀ device log, Provision device log length placement (action.run ⟨device, log⟩))
    (performed : perform moment.step = onDevice position action >>= register position) :
    Requested moment position length placement := by
  rcases moment with ⟨⟨machine, log⟩, step⟩
  -- An action that fails is the end of the step.
  have ofError : ∀ reason after,
      (onDevice position action).run ⟨machine, log⟩ = (.error reason, after) →
      Moment.outcome ⟨⟨machine, log⟩, step⟩ = .error reason ∧
        Moment.after ⟨⟨machine, log⟩, step⟩ = after := by
    intro reason after refused
    have ran := Procedure.bind_run_of_error refused (register position)
    rw [← performed] at ran
    exact ⟨congrArg Prod.fst ran, congrArg Prod.snd ran⟩
  rcases there : machine.devices[position]? with _ | device
  · rcases onDevice_run_of_closed there action log with ⟨failure, closed⟩
    rcases ofError _ _ closed with ⟨outcome, same⟩
    exact .missing _ outcome same fun device found => by simp [there] at found
  · have answered := provisions device log
    generalize ran : action.run ⟨device, log⟩ = result at answered
    cases answered with
    | exhausted failure exhausted =>
        rcases ofError _ _ (onDevice_run_of_same there ran) with ⟨outcome, same⟩
        refine .missing _ outcome same fun other found granted => ?_
        rcases Option.some.inj (there.symm.trans found) with rfl
        simp [exhausted] at granted
    | refused reason ledger granted booked =>
        rcases ofError _ _ (onDevice_run there ran) with ⟨outcome, after⟩
        exact .refused there granted booked outcome after
    | served ledger told granted booked silent =>
        have done := Procedure.bind_run_of_ok (onDevice_run there ran) (register position)
        rw [← performed] at done
        exact .served there granted booked silent (congrArg Prod.fst done) (congrArg Prod.snd done)

theorem Moment.requested (moment : Moment α) {length : Nat} {placement : Placement}
    (asked : moment.step.request? = some (position, length, placement)) :
    Requested moment position length placement := by
  rcases moment with ⟨before, step⟩
  cases step with
  | allocate device length residency =>
      rcases Option.some.inj asked with ⟨⟩
      exact requested_of_provision (fun device log => allocate_provision device log length residency) rfl
  | pin device length =>
      rcases Option.some.inj asked with ⟨⟩
      exact requested_of_provision (fun device log => provide_provision device log length .pinned) rfl
  | _ => simp [Step.request?] at asked

theorem reserve_effect {length : Nat} {placement : Placement} (quiet : moment.Quiet)
    (asked : moment.step.request? = some (position, length, placement)) : Effect moment := by
  cases moment.requested asked with
  | missing reason outcome same cause => exact effect_of_same quiet same
  | refused there granted booked outcome after =>
      exact .refused quiet asked there booked (congrArg (·.state.devices) after)
        (congrArg (·.state.outlines) after) (congrArg (·.log) after)
  | served there granted booked silent outcome after =>
      refine .reserved quiet asked there granted booked (by rw [after]) ?_ (by rw [after]) silent
      rw [after]
      simp [outlines, Booking.outline, Buffer.zeroed, Buffer.length]

/-- What becomes of a step that frees a buffer: it is not there, or it goes. -/
inductive Released (moment : Moment α) (handle : Nat) : Prop
  | missing (same : moment.after = moment.before)
      (cause : ∀ booking, moment.before.state.booking? handle = some booking →
        moment.before.state.devices[booking.owner]? = none)
  | freed {booking : Booking α} {device : Device} {ledger : Ledger}
      (found : moment.before.state.booking? handle = some booking)
      (there : moment.before.state.devices[booking.owner]? = some device)
      (booked : (Ledger.book (booking.buffer.placement.release booking.buffer.bytes)).run
        device.ledger = (.ok (), ledger))
      (outcome : moment.outcome = .ok .done)
      (after : moment.after =
        ⟨(moment.before.state.setDevice booking.owner { device with ledger := ledger }).withBooking
          handle none, moment.before.log⟩)

theorem free_released (logged : Logged (Machine α)) (handle : Nat) :
    Released ⟨logged, .free handle⟩ handle := by
  rcases logged with ⟨machine, log⟩
  rcases booking_onDevice_cases handle (·.owner) (·.buffer.free)
    (fun _ _ => do setBooking handle none; return Reply.done) machine log with
    ⟨⟨reason, ran⟩, missing⟩ | ⟨booking, device, found, there, looked⟩
  · exact .missing (congrArg Prod.snd ran) missing
  · rcases Ledger.book_release_run booking.buffer.placement booking.buffer.bytes device.ledger
      with ⟨ledger, booked⟩
    have freed := onDevice_run there (Buffer.free_run booked log)
    have ran := looked.trans (Procedure.bind_run_of_ok freed _)
    exact .freed found there booked (congrArg Prod.fst ran) (congrArg Prod.snd ran)

theorem free_effect (handle : Nat) : Effect (⟨logged, .free handle⟩ : Moment α) := by
  have quiet : Moment.Quiet (⟨logged, .free handle⟩ : Moment α) := quiet_of_still rfl rfl
  cases free_released logged handle with
  | missing same cause => exact effect_of_same quiet same
  | freed found there booked outcome after =>
      exact .freed quiet rfl (outline_of_booking found) there booked
        (congrArg (·.state.devices) after)
        ((congrArg (·.state.outlines) after).trans Array.map_setIfInBounds)
        (congrArg (·.log) after)

theorem view_effect (position handle : Nat) :
    Effect (⟨logged, .view position handle⟩ : Moment α) := by
  refine effect_of_same (quiet_of_still rfl rfl) ?_
  rcases logged with ⟨machine, log⟩
  rcases booking_onDevice_cases handle (fun _ => position) (·.buffer.view)
    (fun _ values => return Reply.contents values) machine log with
    ⟨⟨reason, ran⟩, -⟩ | ⟨booking, device, found, there, looked⟩
  · exact congrArg Prod.snd ran
  · refine (congrArg Prod.snd looked).trans ((Procedure.bind_pure_run_snd _ _ _).trans ?_)
    exact onDevice_run_snd_of_same booking.buffer.view_run_snd position _

theorem edit_effect (position handle : Nat) (change : Array α → Checked (Array α)) :
    Effect (⟨logged, .edit position handle change⟩ : Moment α) := by
  rcases logged with ⟨machine, log⟩
  have quiet : Moment.Quiet (⟨⟨machine, log⟩, .edit position handle change⟩ : Moment α) :=
    quiet_of_still rfl rfl
  rcases booking_onDevice_cases handle (fun _ => position) (·.buffer.edit change)
    (fun booking buffer => do
      setBooking handle (some { booking with buffer := buffer }); return Reply.done) machine log with
    ⟨⟨reason, ran⟩, -⟩ | ⟨booking, device, found, there, looked⟩
  · exact effect_of_same quiet (congrArg Prod.snd ran)
  · rcases booking.buffer.edit_run_cases change device log with
      ⟨reason, refused⟩ | ⟨contents, changed, edited⟩
    · have ran := looked.trans
        (Procedure.bind_run_of_error (onDevice_run_of_same there refused) _)
      exact effect_of_same quiet (congrArg Prod.snd ran)
    · have after := congrArg Prod.snd (looked.trans
        (Procedure.bind_run_of_ok (onDevice_run_of_same there edited) _))
      refine .rested quiet (congrArg (·.state.devices) after) ?_ (congrArg (·.log) after)
      intro keeps
      refine (congrArg (·.state.outlines) after).trans (outlines_withBooking found ?_)
      simp only [Booking.outline, Buffer.length, keeps _ _ changed]

omit [Element α] in
/-- A transfer that lacks its buffer or its device does not wait. -/
theorem quiet_of_missing {length : Nat} (launches : moment.step.launches = false)
    (handed : moment.step.device? = some position)
    (waits : moment.step.waits moment.before.state =
      (moment.before.state.lengthOf? handle == some length))
    (missing : ∀ found, moment.before.state.booking? handle = some found →
      moment.before.state.devices[position]? = none) : moment.Quiet := by
  rcases found : moment.before.state.booking? handle with _ | booking
  · exact quiet_of_still launches (by simp [waits, lengthOf?, found])
  · exact quiet_of_closed handed (missing booking found)

theorem download_effect (position handle : Nat) (target : Array α) :
    Effect (⟨logged, .download position handle target⟩ : Moment α) := by
  rcases logged with ⟨machine, log⟩
  rcases booking_onDevice_cases handle (fun _ => position) (·.buffer.download target)
    (fun _ values => return Reply.contents values) machine log with
    ⟨⟨reason, ran⟩, missing⟩ | ⟨booking, device, found, there, looked⟩
  · exact effect_of_same (quiet_of_missing rfl rfl rfl missing) (congrArg Prod.snd ran)
  · by_cases sizes : target.size = booking.buffer.contents.size
    · have downloaded := onDevice_run there (Buffer.download_run sizes log)
      have after := congrArg Prod.snd (looked.trans (Procedure.bind_run_of_ok downloaded _))
      refine .waited rfl there ?_ (congrArg (·.state.devices) after)
        (congrArg (·.state.outlines) after) (congrArg (·.log) after)
      simp [Step.waits, Step.transfer?, lengthOf?, found, sizes, Buffer.length]
    · have refused := onDevice_run_of_same there (Buffer.download_run_of_mismatch sizes log)
      have after := congrArg Prod.snd (looked.trans (Procedure.bind_run_of_error refused _))
      refine effect_of_same (quiet_of_still rfl ?_) after
      simpa [Step.waits, Step.transfer?, lengthOf?, found, Buffer.length] using Ne.symm sizes

theorem upload_effect (position handle : Nat) (source : Array α) :
    Effect (⟨logged, .upload position handle source⟩ : Moment α) := by
  rcases logged with ⟨machine, log⟩
  rcases booking_onDevice_cases handle (fun _ => position) (·.buffer.upload source)
    (fun booking buffer => do
      setBooking handle (some { booking with buffer := buffer }); return Reply.done) machine log with
    ⟨⟨reason, ran⟩, missing⟩ | ⟨booking, device, found, there, looked⟩
  · exact effect_of_same (quiet_of_missing rfl rfl rfl missing) (congrArg Prod.snd ran)
  · by_cases sizes : source.size = booking.buffer.contents.size
    · have uploaded := onDevice_run there (Buffer.upload_run sizes log)
      have after := congrArg Prod.snd (looked.trans (Procedure.bind_run_of_ok uploaded _))
      have same : Booking.outline ⟨booking.owner, { booking.buffer with contents := source }⟩ =
          booking.outline := by
        simp only [Booking.outline, Buffer.length, sizes]
      refine .waited rfl there ?_ (congrArg (·.state.devices) after)
        ((congrArg (·.state.outlines) after).trans (outlines_withBooking found same))
        (congrArg (·.log) after)
      simp [Step.waits, Step.transfer?, lengthOf?, found, sizes, Buffer.length]
    · have refused := onDevice_run_of_same there (Buffer.upload_run_of_mismatch sizes log)
      have after := congrArg Prod.snd (looked.trans (Procedure.bind_run_of_error refused _))
      refine effect_of_same (quiet_of_still rfl ?_) after
      simpa [Step.waits, Step.transfer?, lengthOf?, found, Buffer.length] using Ne.symm sizes

theorem synchronize_effect (position : Nat) :
    Effect (⟨logged, .synchronize position⟩ : Moment α) := by
  rcases logged with ⟨machine, log⟩
  rcases there : machine.devices[position]? with _ | device
  · rcases onDevice_run_of_closed there Device.synchronize log with ⟨failure, closed⟩
    have ran : (perform (.synchronize position)).run ⟨machine, log⟩ = _ :=
      Procedure.bind_run_of_error closed _
    exact effect_of_same (quiet_of_closed rfl there) (congrArg Prod.snd ran)
  · have waited := onDevice_run there (Device.synchronize_run device log)
    have ran : (perform (.synchronize position)).run ⟨machine, log⟩ = _ :=
      Procedure.bind_run_of_ok waited _
    have after := congrArg Prod.snd ran
    exact .waited rfl there rfl (congrArg (·.state.devices) after)
      (congrArg (·.state.outlines) after) (congrArg (·.log) after)

theorem ensureIdle_effect (position : Nat) (access : String) :
    Effect (⟨logged, .ensureIdle position access⟩ : Moment α) :=
  effect_of_same (quiet_of_still rfl rfl) ((Procedure.bind_pure_run_snd _ _ _).trans
    (onDevice_run_snd_of_same (Device.ensureIdle_run_snd access) position logged))

/-- What every launch does: with an invalid geometry nothing, and otherwise it is counted. -/
structure Counting (step : Step α) (work : Action (Device × Memory α) LaunchStats) : Prop where
  refused : step.launches = false → ∀ device memory log, ∃ failure,
    work.run ⟨(device, memory), log⟩ = (.error (.failure failure), ⟨(device, memory), log⟩)
  counted : step.launches = true → ∀ device memory log, ∃ after event,
    (work.run ⟨(device, memory), log⟩).2 = ⟨(device.beginLaunch, after), log.push event⟩ ∧
      event.retired = 0 ∧ (step.KeepsLengths →
        ∀ handle, (after.contents handle).size = (memory.contents handle).size)

theorem launch_effect {work : Action (Device × Memory α) LaunchStats}
    (counting : Counting moment.step work) (handed : moment.step.device? = some position)
    (still : moment.step.waits moment.before.state = false)
    (performed : perform moment.step = do return .stats (← launchInside position work)) :
    Effect moment := by
  rcases moment with ⟨⟨machine, log⟩, step⟩
  have after : Moment.after ⟨⟨machine, log⟩, step⟩ =
      ((launchInside position work).run ⟨machine, log⟩).2 := by
    rw [Moment.after, performed]
    exact Procedure.bind_pure_run_snd _ _ _
  rcases there : machine.devices[position]? with _ | device
  · rcases launchInside_run_of_closed there work log with ⟨failure, closed⟩
    rw [closed] at after
    exact effect_of_same (quiet_of_closed handed there) after
  · cases launches : step.launches with
    | false =>
        rcases counting.refused launches device machine.memory log with ⟨failure, refused⟩
        rw [launchInside_run_of_refused there refused] at after
        exact effect_of_same (quiet_of_still launches still) after
    | true =>
        rcases counting.counted launches device machine.memory log with
          ⟨memory, event, counted, silent, lengths⟩
        rw [launchInside_run_snd there counted] at after
        refine .launched handed there launches (congrArg (·.state.devices) after) ?_
          (congrArg (·.log) after) silent
        intro keeps
        exact (congrArg (·.state.outlines) after).trans (outlines_setMemory (lengths keeps))

omit [Element α] in
theorem launches_of_validation {step : Step α} {validation : Except Failure Unit}
    (validates : step.validation? = some validation) :
    step.launches = true ↔ validation = .ok () := by
  rw [Step.launches, validates]
  cases validation <;> simp

omit [Element α] in
theorem counting_launch {step : Step α} {geometry : Geometry}
    {kernel : Worker → Procedure Fault (Memory α) Unit}
    (validates : step.validation? = some geometry.validate)
    (keeps : step.KeepsLengths →
      ∀ lengths worker, Keeps (Memory.HasLengths lengths) (kernel worker)) :
    Counting step (Device.launch geometry kernel) where
  refused launches device memory log := by
    cases valid : geometry.validate with
    | ok _ => simp [Step.launches, validates, valid] at launches
    | error failure => exact ⟨failure, Device.launch_run_of_invalid kernel valid⟩
  counted launches device memory log := by
    rw [launches_of_validation validates] at launches
    rcases Device.launch_run_counted kernel launches device memory log with ⟨after, ran, kept⟩
    refine ⟨after, _, ran, rfl, fun keepsLengths handle => ?_⟩
    exact kept (Memory.HasLengths fun buffer => (memory.contents buffer).size)
      (keeps keepsLengths _) (fun _ => rfl) handle

theorem counting_launchGroups {step : Step α} {geometry : Geometry}
    {program : GroupProgram α (Memory α)}
    (validates : step.validation? = some geometry.validateCooperative)
    (keeps : step.KeepsLengths →
      ∀ lengths group, Keeps (GroupState.HasLengths lengths) (program group)) :
    Counting step (Device.launchGroups geometry (.ofElement α) program) where
  refused launches device memory log := by
    cases valid : geometry.validateCooperative with
    | ok _ => simp [Step.launches, validates, valid] at launches
    | error failure => exact ⟨failure, Device.launchGroups_run_of_invalid _ program valid⟩
  counted launches device memory log := by
    rw [launches_of_validation validates] at launches
    rcases Device.launchGroups_run_counted (.ofElement α) program launches device memory log with
      ⟨after, ran, kept⟩
    refine ⟨after, _, ran, rfl, fun keepsLengths handle => ?_⟩
    exact kept (Memory.HasLengths fun buffer => (memory.contents buffer).size)
      (keeps keepsLengths _) (fun _ => rfl) handle

end Cases

/-- Every step has one of the six effects. -/
theorem Moment.effect [Element α] (moment : Moment α) : Effect moment := by
  rcases moment with ⟨before, step⟩
  cases step with
  | allocate position length residency => exact reserve_effect (quiet_of_still rfl rfl) rfl
  | pin position length => exact reserve_effect (quiet_of_still rfl rfl) rfl
  | free handle => exact free_effect handle
  | view position handle => exact view_effect position handle
  | edit position handle change => exact edit_effect position handle change
  | download position handle target => exact download_effect position handle target
  | upload position handle source => exact upload_effect position handle source
  | synchronize position => exact synchronize_effect position
  | ensureIdle position access => exact ensureIdle_effect position access
  | launch position geometry kernel =>
      exact launch_effect (counting_launch rfl id) rfl rfl rfl
  | launchGroups position geometry program =>
      exact launch_effect (counting_launchGroups rfl id) rfl rfl rfl
  | elementwise position kernel geometry buffers arraySize =>
      refine launch_effect (counting_launch rfl fun _ _ worker => ?_) rfl rfl rfl
      exact kernel.perWorker_keeps_lengths buffers arraySize worker
  | dot position geometry a b sums arraySize =>
      refine launch_effect (counting_launchGroups rfl fun _ _ group => ?_) rfl rfl rfl
      exact Dot.program_keeps_lengths a b sums arraySize group

/-- No step opens or closes a device. -/
theorem Moment.devices_size [Element α] (moment : Moment α) :
    moment.after.state.devices.size = moment.before.state.devices.size := by
  cases moment.effect with
  | rested quiet devices => rw [devices]
  | waited handed there waits devices => rw [devices, Array.size_setIfInBounds]
  | launched handed there launches devices => rw [devices, Array.size_setIfInBounds]
  | reserved quiet asked there granted booked devices => rw [devices, Array.size_setIfInBounds]
  | refused quiet asked there booked devices => rw [devices, Array.size_setIfInBounds]
  | freed quiet frees found there booked devices => rw [devices, Array.size_setIfInBounds]

theorem asks_nothing_of_launches {step : Step α} (launches : step.launches = true) :
    step.request? = none ∧ ∀ handle, step ≠ .free handle := by
  cases step <;> simp_all [Step.launches, Step.validation?, Step.request?]

/-- A step that neither asks for a buffer nor frees one leaves the outlines as they were. -/
theorem Moment.outlines_of_neither [Element α] (moment : Moment α)
    (keeps : moment.step.KeepsLengths) (asks : moment.step.request? = none)
    (frees : ∀ handle, moment.step ≠ .free handle) :
    moment.after.state.outlines = moment.before.state.outlines := by
  cases moment.effect with
  | rested quiet devices outlines => exact outlines keeps
  | waited handed there waits devices outlines => exact outlines
  | launched handed there launches devices outlines => exact outlines keeps
  | reserved quiet asked => simp [asked] at asks
  | refused quiet asked => simp [asked] at asks
  | freed quiet freed => exact absurd freed (frees _)

/-- There are at least as many devices now as there were before any step. -/
theorem Run.devices_size_le [Element α] {past : List (Moment α)} {logged : Logged (Machine α)}
    (run : Run past logged) {moment : Moment α} (mem : moment ∈ past) :
    moment.before.state.devices.size ≤ logged.state.devices.size := by
  induction run with
  | start log => simp at mem
  | opened platform index run found ih =>
      rcases of_openDevice_run_ok found with ⟨description, -, devices⟩
      rw [devices, Array.size_push]
      exact Nat.le_succ_of_le (ih mem)
  | performed step run ih =>
      rw [Moment.devices_size]
      rcases List.mem_cons.mp mem with rfl | older
      · exact Nat.le_refl _
      · exact ih older

end Machine

end Bandwidth
