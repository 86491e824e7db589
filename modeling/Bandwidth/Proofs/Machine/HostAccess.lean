import Bandwidth.Proofs.Elementwise.Column
import Bandwidth.Proofs.Machine.Queue

/-!
# Host access and launches elsewhere

A view asks the device that it is handed whether anything is in flight, and no other. So it never
overtakes a launch on that device, whatever buffers the launch was given. A launch on another device
it does overtake, be it a launch that writes the very buffer: the buffer does not know who uses it.
The host is safe if it looks at a buffer only through the device on which the buffer is used.
-/

namespace Bandwidth

namespace Machine

variable {α : Type} [Element α]

/-- Whether a launch is given a buffer. Work that a caller brings along may use any. -/
def Step.Given (handle : Nat) : Step α → Prop
  | elementwise _ kernel _ buffers _ => ∃ role, kernel.body.Touches role ∧ buffers.at role = handle
  | dot _ _ a b sums _ => handle = a ∨ handle = b ∨ handle = sums
  | launch .. | launchGroups .. => True
  | _ => False

variable {past : List (Moment α)} {logged : Logged (Machine α)} {position handle : Nat}
  {step : Step α} {reply : Reply α}

/-- A view that is granted was handed an open device, and a buffer that it shows. -/
theorem found_of_granted (handed : step.device? = some position) (views : step.view? = some handle)
    (granted : Moment.outcome ⟨logged, step⟩ = .ok reply) :
    ∃ booking device, logged.state.booking? handle = some booking ∧
      logged.state.devices[position]? = some device := by
  rcases logged with ⟨machine, log⟩
  cases step with
  | view place other =>
      rcases Option.some.inj handed with rfl
      rcases Option.some.inj views with rfl
      rcases booking_onDevice_cases other (fun _ => place) (·.buffer.view)
        (fun _ values => return Reply.contents values) machine log with
        ⟨⟨reason, ran⟩, -⟩ | ⟨booking, device, found, there, -⟩
      · exact absurd (granted.symm.trans (congrArg Prod.fst ran)) (by simp)
      · exact ⟨booking, device, found, there⟩
  | edit place other change =>
      rcases Option.some.inj handed with rfl
      rcases Option.some.inj views with rfl
      rcases booking_onDevice_cases other (fun _ => place) (·.buffer.edit change)
        (fun booking buffer => do
          setBooking other (some { booking with buffer := buffer }); return Reply.done)
        machine log with
        ⟨⟨reason, ran⟩, -⟩ | ⟨booking, device, found, there, -⟩
      · exact absurd (granted.symm.trans (congrArg Prod.fst ran)) (by simp)
      · exact ⟨booking, device, found, there⟩
  | _ => simp [Step.view?] at views

theorem visible_of_granted (run : Run past logged)
    (few : past.countP (·.launchesOn position) < Word.bound)
    (handed : step.device? = some position) (views : step.view? = some handle)
    (granted : Moment.outcome ⟨logged, step⟩ = .ok reply) :
    ∃ booking, logged.state.booking? handle = some booking ∧ Visible past position booking := by
  rcases found_of_granted handed views granted with ⟨booking, device, found, there⟩
  refine ⟨booking, found, ?_⟩
  by_contra hidden
  have account := queueAccount_of_run run there few
  rcases refused_of_improper account there handed (.access views found hidden) with
    ⟨⟨failure, failed⟩, -⟩
  exact absurd (granted.symm.trans failed) (by simp)

/--
When a view is granted nothing is in flight on the device that it was handed. So it overtakes no
launch that was given the buffer, provided that those in flight were all handed this device. There
must have been fewer than 2^64 launches on the device.
-/
theorem granted_view_waits_for_its_device (run : Run past logged)
    (few : past.countP (·.launchesOn position) < Word.bound)
    (handed : step.device? = some position) (views : step.view? = some handle)
    (granted : Moment.outcome ⟨logged, step⟩ = .ok reply) :
    inFlightOn position past = [] ∧
      ((∀ other, ∀ moment ∈ inFlightOn other past,
          moment.step.Given handle → other = position) →
        ∀ other, ∀ moment ∈ inFlightOn other past, ¬moment.step.Given handle) := by
  rcases visible_of_granted run few handed views granted with ⟨booking, -, -, idle⟩
  refine ⟨idle, fun alone other moment flying given => ?_⟩
  rcases alone other moment flying given with rfl
  rw [idle] at flying
  exact absurd flying List.not_mem_nil

/-- Two devices with a mebibyte each. -/
def twoDevices : Platform := ⟨[⟨"x", 1, 1048576⟩, ⟨"y", 1, 1048576⟩], .standard⟩

/-- An array is copied on the first device, which is waited for and then shows it. -/
theorem view_after_copy_waits :
    let opened : Logged (Machine Float) :=
      ((do openDevice twoDevices 0; openDevice twoDevices 1).run ⟨empty, #[]⟩).2
    let allocated : Moment Float := ⟨opened, .allocate 0 4 .managed⟩
    let copied : Moment Float := ⟨allocated.after, .elementwise 0 .copy ⟨1, 4⟩ ⟨0, 0, 0⟩ 4⟩
    let waited : Moment Float := ⟨copied.after, .synchronize 0⟩
    (∃ contents, Moment.outcome ⟨waited.after, .view 0 0⟩ = .ok (.contents contents)) ∧
      ∀ other, ∀ moment ∈ inFlightOn other [waited, copied, allocated],
        ¬moment.step.Given 0 := by
  intro opened allocated copied waited
  have run : Run [waited, copied, allocated] waited.after :=
    .performed _ (.performed _ (.performed _
      (.opened twoDevices 1 (.opened twoDevices 0 (.start #[]) rfl) rfl)))
  have two : copied.after.state.devices.size = 2 := copied.devices_size.trans rfl
  have waits : waited.waitsOn 0 = true := by
    simp [Moment.waitsOn, Moment.handed, waited, two, Step.device?, Step.waits]
  have few : [waited, copied, allocated].countP (·.launchesOn 0) < Word.bound :=
    Nat.lt_of_le_of_lt List.countP_le_length (by decide : 3 < Word.bound)
  have there := Array.getElem?_eq_getElem
    (Nat.zero_lt_two.trans_eq (waited.devices_size.trans two).symm)
  have found : allocated.after.state.booking? 0 = some ⟨0, .zeroed 4 (.resident .managed)⟩ := rfl
  have lives : waited.after.state.outlines = allocated.after.state.outlines :=
    (waited.outlines_of_neither trivial rfl (by simp [waited])).trans
      (copied.outlines_of_neither trivial rfl (by simp [copied]))
  have held := outline_of_booking found
  rw [← lives] at held
  rcases booking_of_outline held with ⟨booking, found', same⟩
  have placed : booking.buffer.placement = .resident .managed := congrArg (·.placement) same
  have visible : Visible [waited, copied, allocated] 0 booking :=
    ⟨by rw [placed]; decide, inFlightOn_cons_of_waits waits⟩
  rcases (queueAccount_of_run run there few).visible_iff.mp visible with ⟨inPlace, idle⟩
  have granted := view_outcome found' there inPlace idle
  refine ⟨⟨booking.buffer.contents, granted⟩, ?_⟩
  apply (granted_view_waits_for_its_device run few rfl rfl granted).2
  intro other moment flying _
  rcases of_mem_inFlightOn flying with ⟨mem, handed⟩
  simp only [List.mem_cons, List.not_mem_nil, or_false] at mem
  rcases mem with rfl | rfl | rfl <;> exact (Option.some.inj handed).symm

/--
If nothing is in flight on a device, a view that is handed this device is granted, whatever was just
launched on another: also a kernel that was given the buffer.
-/
theorem view_overtakes_launch_elsewhere (run : Run past logged) (step : Step α) (position : Nat)
    (few : past.countP (·.launchesOn position) < Word.bound) {place : Nat} {booking : Booking α}
    (elsewhere : place ≠ position) (handed : step.device? = some place)
    (opened : place < logged.state.devices.size) (launches : step.launches = true)
    (keeps : step.KeepsLengths) (openHere : position < logged.state.devices.size)
    (found : logged.state.booking? handle = some booking)
    (visible : Visible past position booking) :
    let launched : Moment α := ⟨logged, step⟩
    (∃ contents, Moment.outcome ⟨launched.after, .view position handle⟩ = .ok (.contents contents)) ∧
      launched ∈ inFlightOn place (launched :: past) := by
  intro launched
  have run' : Run (launched :: past) launched.after := .performed step run
  have waits : ∀ place, launched.waitsOn place = false := by
    intro place
    simp [Moment.waitsOn, launched, waits_eq_false_of_launches launches]
  have here : launched.launchesOn place = true := by
    simp [Moment.launchesOn, Moment.handed, launched, handed, opened, launches]
  have outside : launched.launchesOn position = false := by
    simp [Moment.launchesOn, launched.not_handed handed elsewhere.symm]
  refine ⟨?_, by rw [inFlightOn_cons_of_launches (waits place) here]; exact List.mem_cons_self⟩
  -- The buffer lives on where it was, and nothing is in flight on the device that shows it.
  rcases asks_nothing_of_launches launches with ⟨asks, frees⟩
  have held := launched.outlines_of_neither keeps asks frees ▸ outline_of_booking found
  rcases booking_of_outline held with ⟨booking', found', same⟩
  have there := Array.getElem?_eq_getElem (openHere.trans_eq launched.devices_size.symm)
  have visible' : Visible (launched :: past) position booking' := by
    refine ⟨?_, by rw [inFlightOn_cons_of_neither (waits position) outside]; exact visible.2⟩
    rw [show booking'.buffer.placement = booking.buffer.placement from congrArg (·.placement) same]
    exact visible.1
  have few' : (launched :: past).countP (·.launchesOn position) < Word.bound := by
    rwa [List.countP_cons_of_neg (by simp [outside])]
  rcases (queueAccount_of_run run' there few').visible_iff.mp visible' with ⟨inPlace, idle⟩
  exact ⟨_, view_outcome found' there inPlace idle⟩

/-- An array is copied on the first device; the second device shows it while the copy is in flight. -/
theorem view_overtakes_copy :
    let opened : Logged (Machine Float) :=
      ((do openDevice twoDevices 0; openDevice twoDevices 1).run ⟨empty, #[]⟩).2
    let allocated : Moment Float := ⟨opened, .allocate 0 4 .managed⟩
    let copied : Moment Float := ⟨allocated.after, .elementwise 0 .copy ⟨1, 4⟩ ⟨0, 0, 0⟩ 4⟩
    Run [copied, allocated] copied.after ∧
      (∃ contents, Moment.outcome ⟨copied.after, .view 1 0⟩ = .ok (.contents contents)) ∧
      copied ∈ inFlightOn 0 [copied, allocated] ∧ copied.step.Given 0 := by
  intro opened allocated copied
  have run : Run [allocated] allocated.after :=
    .performed _ (.opened twoDevices 1 (.opened twoDevices 0 (.start #[]) rfl) rfl)
  have found : allocated.after.state.booking? 0 = some ⟨0, .zeroed 4 (.resident .managed)⟩ := rfl
  have overtaken := view_overtakes_launch_elsewhere run copied.step 1 (by decide) Nat.zero_ne_one rfl
    (by decide) rfl trivial (by decide) found ⟨by simp [Buffer.zeroed], rfl⟩
  exact ⟨.performed _ run, overtaken.1, overtaken.2, .a, .inl rfl, rfl⟩

end Machine

end Bandwidth
