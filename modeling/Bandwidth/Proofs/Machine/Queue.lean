import Bandwidth.Element.Native
import Bandwidth.Proofs.Machine.Effect
import Mathlib.Algebra.BigOperators.Group.List.Basic

/-!
# The queues of a machine

The counters of a device are accounts of what was done with it: its launches are the steps that were
handed it with a valid geometry, however they ended, and those in flight are the ones since the last
step that waited for its queue. A step that waits reports how many it retired, so that what was
reported and what is in flight add up to the launches.

The counters wrap around at 2^64, so they account for fewer launches than that on a device.
-/

namespace Bandwidth

namespace Machine

variable {α : Type}

section Lists

variable {position : Nat} {moment : Moment α} {past : List (Moment α)}

theorem inFlightOn_cons_of_waits (waits : moment.waitsOn position = true) :
    inFlightOn position (moment :: past) = [] := by
  simp [inFlightOn, waits]

theorem inFlightOn_cons_of_launches (waits : moment.waitsOn position = false)
    (launches : moment.launchesOn position = true) :
    inFlightOn position (moment :: past) = moment :: inFlightOn position past := by
  simp [inFlightOn, waits, launches]

theorem inFlightOn_cons_of_neither (waits : moment.waitsOn position = false)
    (launches : moment.launchesOn position = false) :
    inFlightOn position (moment :: past) = inFlightOn position past := by
  simp [inFlightOn, waits, launches]

/-- What is in flight on a device was done with this device. -/
theorem of_mem_inFlightOn (flying : moment ∈ inFlightOn position past) :
    moment ∈ past ∧ moment.step.device? = some position := by
  rcases List.mem_filter.mp flying with ⟨recent, launches⟩
  have handed : moment.handed position = true := (Bool.and_eq_true_iff.mp launches).1
  exact ⟨(List.takeWhile_sublist _).subset recent, by simp_all [Moment.handed]⟩

theorem waits_eq_false_of_launches {step : Step α} {machine : Machine α}
    (launches : step.launches = true) : step.waits machine = false := by
  cases step <;> first | rfl | simp [Step.launches, Step.validation?] at launches

theorem launches_eq_false_of_waits {step : Step α} {machine : Machine α}
    (waits : step.waits machine = true) : step.launches = false := by
  cases launches : step.launches
  · rfl
  · rw [waits_eq_false_of_launches launches] at waits
    nomatch waits

variable [Element α]

theorem told_of_append {told : Array Event} (log : moment.after.log = moment.before.log ++ told) :
    moment.told = told.toList := by
  simp [Moment.told, log]

/-- A step that tells of no synchronization reports nothing as retired. -/
theorem retiredOn_of_silent {told : Array Event}
    (log : moment.after.log = moment.before.log ++ told)
    (silent : ∀ event ∈ told, event.retired = 0) (position : Nat) :
    moment.retiredOn position = 0 := by
  rw [Moment.retiredOn, told_of_append log]
  split
  · refine List.sum_eq_zero fun retired reported => ?_
    rcases List.mem_map.mp reported with ⟨event, mem, rfl⟩
    exact silent event (by simpa using mem)
  · rfl

theorem retiredOn_of_same (log : moment.after.log = moment.before.log) (position : Nat) :
    moment.retiredOn position = 0 :=
  retiredOn_of_silent (log.trans (Array.append_empty).symm) (by simp) position

theorem retiredOn_of_waited {device : Device} (handed : moment.handed position = true)
    (log : moment.after.log = device.logRetired moment.before.log) :
    moment.retiredOn position = device.inFlight := by
  rw [Device.logRetired] at log
  split at log
  · rw [← Array.append_singleton] at log
    rw [Moment.retiredOn, if_pos handed, told_of_append log]
    simp [Event.retired]
  · rw [retiredOn_of_same log]
    omega

end Lists

variable [Element α] {past : List (Moment α)} {logged : Logged (Machine α)} {position : Nat}
  {device : Device}

/-- The counters of a device, as accounts of what was done with it. -/
structure QueueAccount (past : List (Moment α)) (position : Nat) (device : Device) : Prop where
  launches : device.launches = past.countP (·.launchesOn position)
  inFlight : device.inFlight = (inFlightOn position past).length
  retired : (past.map (·.retiredOn position)).sum + device.inFlight = device.launches

namespace QueueAccount

variable {moment : Moment α}

theorem cons_of_neither (account : QueueAccount past position device)
    (launches : moment.launchesOn position = false) (waits : moment.waitsOn position = false)
    (silent : moment.retiredOn position = 0) : QueueAccount (moment :: past) position device where
  launches := by rw [account.launches, List.countP_cons_of_neg (by simp [launches])]
  inFlight := by rw [account.inFlight, inFlightOn_cons_of_neither waits launches]
  retired := by rw [List.map_cons, List.sum_cons, silent, Nat.zero_add, account.retired]

/-- Below 2^64 a launch is counted without wrapping around. -/
theorem beginLaunch_eq (account : QueueAccount past position device)
    (launches : moment.launchesOn position = true)
    (few : (moment :: past).countP (·.launchesOn position) < Word.bound) :
    device.beginLaunch =
      { device with inFlight := device.inFlight + 1, launches := device.launches + 1 } := by
  rw [List.countP_cons_of_pos launches, ← account.launches] at few
  have retired := account.retired
  have inFlight : device.inFlight + 1 < Word.bound := by omega
  rw [Device.beginLaunch, Word.addWrapping_of_lt few, Word.addWrapping_of_lt inFlight]

theorem cons_of_launched (account : QueueAccount past position device)
    (launches : moment.launchesOn position = true) (waits : moment.waitsOn position = false)
    (silent : moment.retiredOn position = 0)
    (few : (moment :: past).countP (·.launchesOn position) < Word.bound) :
    QueueAccount (moment :: past) position device.beginLaunch := by
  rw [account.beginLaunch_eq launches few]
  refine ⟨?_, ?_, ?_⟩
  · rw [List.countP_cons_of_pos launches, ← account.launches]
  · rw [inFlightOn_cons_of_launches waits launches, List.length_cons, ← account.inFlight]
  · have before := account.retired
    rw [List.map_cons, List.sum_cons, silent]
    simp only
    omega

theorem cons_of_waited (account : QueueAccount past position device)
    (launches : moment.launchesOn position = false) (waits : moment.waitsOn position = true)
    (retired : moment.retiredOn position = device.inFlight) :
    QueueAccount (moment :: past) position device.idle where
  launches := by
    rw [List.countP_cons_of_neg (by simp [launches]), ← account.launches, Device.idle]
  inFlight := by rw [inFlightOn_cons_of_waits waits, List.length_nil, Device.idle]
  retired := by
    have before := account.retired
    rw [List.map_cons, List.sum_cons, retired]
    simp only [Device.idle]
    omega

/-- What a step does to the books of a device is nothing to its queue. -/
theorem withLedger (account : QueueAccount past position device) (ledger : Ledger) :
    QueueAccount past position { device with ledger := ledger } :=
  ⟨account.launches, account.inFlight, account.retired⟩

end QueueAccount

/-- A step that books something on one device leaves all queues as they were. -/
theorem queueAccount_of_booked {moment : Moment α} {place : Nat} {old : Device} {ledger : Ledger}
    (accounts : ∀ position device, moment.before.state.devices[position]? = some device →
      past.countP (·.launchesOn position) < Word.bound → QueueAccount past position device)
    (fewer : past.countP (·.launchesOn position) < Word.bound) (quiet : moment.Quiet)
    (silent : moment.retiredOn position = 0)
    (there : moment.before.state.devices[place]? = some old)
    (devices : moment.after.state.devices =
      moment.before.state.devices.setIfInBounds place { old with ledger := ledger })
    (found : moment.after.state.devices[position]? = some device) :
    QueueAccount (moment :: past) position device := by
  rw [devices] at found
  rcases getElem?_setIfInBounds_cases there found with ⟨rfl, rfl⟩ | ⟨-, same⟩
  · exact ((accounts _ _ there fewer).withLedger _).cons_of_neither (quiet _).1 (quiet _).2 silent
  · exact (accounts _ _ same fewer).cons_of_neither (quiet _).1 (quiet _).2 silent

theorem queueAccount_step {moment : Moment α}
    (accounts : ∀ position device, moment.before.state.devices[position]? = some device →
      past.countP (·.launchesOn position) < Word.bound → QueueAccount past position device)
    (found : moment.after.state.devices[position]? = some device)
    (few : (moment :: past).countP (·.launchesOn position) < Word.bound) :
    QueueAccount (moment :: past) position device := by
  have fewer : past.countP (·.launchesOn position) < Word.bound :=
    Nat.lt_of_le_of_lt (List.sublist_cons_self moment past).countP_le few
  cases moment.effect with
  | rested quiet devices outlines log =>
      rw [devices] at found
      exact (accounts _ _ found fewer).cons_of_neither (quiet position).1 (quiet position).2
        (retiredOn_of_same log position)
  | @waited place old handed there waits devices outlines log =>
      rw [devices] at found
      have launches : moment.launchesOn position = false := by
        simp [Moment.launchesOn, launches_eq_false_of_waits waits]
      rcases getElem?_setIfInBounds_cases there found with ⟨rfl, rfl⟩ | ⟨different, same⟩
      · have here := moment.handed_of_there handed there
        exact (accounts _ _ there fewer).cons_of_waited launches (by simp [Moment.waitsOn, here, waits])
          (retiredOn_of_waited here log)
      · have outside := moment.not_handed handed different
        exact (accounts _ _ same fewer).cons_of_neither launches (by simp [Moment.waitsOn, outside])
          (by simp [Moment.retiredOn, outside])
  | launched handed there launches devices outlines log silent =>
      rw [devices] at found
      have waits : moment.waitsOn position = false := by
        simp [Moment.waitsOn, waits_eq_false_of_launches launches]
      rw [← Array.append_singleton] at log
      have reports := retiredOn_of_silent log (by simpa using silent) position
      rcases getElem?_setIfInBounds_cases there found with ⟨rfl, rfl⟩ | ⟨different, same⟩
      · have here := moment.handed_of_there handed there
        exact (accounts _ _ there fewer).cons_of_launched (by simp [Moment.launchesOn, here, launches])
          waits reports few
      · have outside := moment.not_handed handed different
        exact (accounts _ _ same fewer).cons_of_neither (by simp [Moment.launchesOn, outside]) waits
          reports
  | reserved quiet asked there granted booked devices outlines log silent =>
      have reports := retiredOn_of_silent log silent position
      exact queueAccount_of_booked accounts fewer quiet reports there devices found
  | refused quiet asked there booked devices outlines log =>
      have reports := retiredOn_of_same log position
      exact queueAccount_of_booked accounts fewer quiet reports there devices found
  | freed quiet frees freed there booked devices outlines log =>
      have reports := retiredOn_of_same log position
      exact queueAccount_of_booked accounts fewer quiet reports there devices found

/-- Nothing was done with a device before it was opened. -/
theorem queueAccount_fresh (description : Description) (host : Host)
    (before : ∀ moment ∈ past, moment.before.state.devices.size ≤ position) :
    QueueAccount past position (.fresh description host) := by
  have outside : ∀ moment ∈ past, moment.handed position = false := by
    intro moment mem
    simp [Moment.handed, before moment mem]
  have launches : past.countP (·.launchesOn position) = 0 := by
    rw [List.countP_eq_zero]
    intro moment mem
    simp [Moment.launchesOn, outside moment mem]
  have inFlight : inFlightOn position past = [] := by
    rw [inFlightOn, List.filter_eq_nil_iff]
    intro moment mem
    have older := (List.takeWhile_sublist _).subset mem
    simp [Moment.launchesOn, outside moment older]
  have retired : (past.map (·.retiredOn position)).sum = 0 := by
    refine List.sum_eq_zero fun reported mem => ?_
    rcases List.mem_map.mp mem with ⟨moment, older, rfl⟩
    simp [Moment.retiredOn, outside moment older]
  exact ⟨launches.symm, by rw [inFlight]; rfl, by rw [retired]; rfl⟩

theorem queueAccount_of_run (run : Run past logged)
    (there : logged.state.devices[position]? = some device)
    (few : past.countP (·.launchesOn position) < Word.bound) :
    QueueAccount past position device := by
  induction run generalizing position device with
  | start log => simp [empty] at there
  | opened platform index run found ih =>
      rcases of_openDevice_run_ok found with ⟨description, -, devices⟩
      rw [devices, Array.getElem?_push] at there
      split at there
      · rename_i last
        rcases Option.some.inj there with rfl
        exact queueAccount_fresh _ _ fun moment mem => last ▸ run.devices_size_le mem
      · exact ih there few
  | performed step run ih => exact queueAccount_step (fun _ _ => ih) there few

/-- The host may see a buffer in place: it is in host memory, and nothing is in flight. -/
def Visible (past : List (Moment α)) (position : Nat) (booking : Booking α) : Prop :=
  booking.buffer.placement ≠ .resident .deviceOnly ∧ inFlightOn position past = []

/-- What a device refuses: a geometry that is not valid, a transfer of another length, and a view of
a buffer that the host may not see. -/
inductive Improper (machine : Machine α) (past : List (Moment α)) (position : Nat) :
    Step α → Prop
  | geometry {step : Step α} {failure : Failure}
      (invalid : step.validation? = some (.error failure)) : Improper machine past position step
  | length {step : Step α} {handle length : Nat} {booking : Booking α}
      (transfers : step.transfer? = some (handle, length))
      (found : machine.booking? handle = some booking)
      (mismatch : length ≠ booking.buffer.length) : Improper machine past position step
  | access {step : Step α} {handle : Nat} {booking : Booking α}
      (views : step.view? = some handle) (found : machine.booking? handle = some booking)
      (hidden : ¬Visible past position booking) : Improper machine past position step

theorem QueueAccount.visible_iff (account : QueueAccount past position device)
    {booking : Booking α} :
    Visible past position booking ↔
      booking.buffer.placement.requiresTransfer = false ∧ device.inFlight = 0 := by
  have placed : ∀ placement : Placement,
      placement ≠ .resident .deviceOnly ↔ placement.requiresTransfer = false := by
    rintro ((_ | _ | _) | _) <;> decide
  rw [Visible, placed, account.inFlight, List.length_eq_zero_iff]

section Host

variable {handle : Nat} {booking : Booking α}
  (found : logged.state.booking? handle = some booking)
  (there : logged.state.devices[position]? = some device)

include found there

theorem view_outcome (visible : booking.buffer.placement.requiresTransfer = false)
    (idle : device.inFlight = 0) :
    Moment.outcome ⟨logged, .view position handle⟩ = .ok (.contents booking.buffer.contents) := by
  have looked : (perform (.view position handle)).run logged = _ :=
    Procedure.bind_run_of_ok (booking_run found logged.log) _
  have viewed := onDevice_run_of_same there (Buffer.view_run visible idle logged.log)
  exact congrArg Prod.fst (looked.trans (Procedure.bind_run_of_ok viewed _))

theorem edit_outcome {change : Array α → Checked (Array α)} {contents : Array α}
    (changed : change booking.buffer.contents = .ok contents)
    (visible : booking.buffer.placement.requiresTransfer = false) (idle : device.inFlight = 0) :
    Moment.outcome ⟨logged, .edit position handle change⟩ = .ok .done := by
  have looked : (perform (.edit position handle change)).run logged = _ :=
    Procedure.bind_run_of_ok (booking_run found logged.log) _
  have edited := onDevice_run_of_same there (Buffer.edit_run changed visible idle logged.log)
  exact congrArg Prod.fst (looked.trans (Procedure.bind_run_of_ok edited _))

end Host

/-- A step that is refused: it fails, and leaves everything as it was. -/
def Moment.Refused (moment : Moment α) : Prop :=
  (∃ failure, moment.outcome = .error (.failure failure)) ∧ moment.after = moment.before

theorem Moment.refused_of_run {moment : Moment α} (failure : Failure)
    (ran : (perform moment.step).run moment.before = (.error (.failure failure), moment.before)) :
    moment.Refused :=
  ⟨⟨failure, congrArg Prod.fst ran⟩, congrArg Prod.snd ran⟩

section Refusals

variable {step : Step α} {handle length : Nat} {booking : Booking α}

/-- What a device refuses of a buffer that is there is refused of the step. -/
theorem refused_of_booking {β : Type} (action : Booking α → Action Device β)
    {next : Booking α → β → Action (Machine α) (Reply α)} {cause : Failure}
    (performed : perform step =
      Machine.booking handle >>= fun found => onDevice position (action found) >>= next found)
    (found : logged.state.booking? handle = some booking)
    (there : logged.state.devices[position]? = some device)
    (refused : (action booking).run ⟨device, logged.log⟩ =
      (.error (.failure cause), ⟨device, logged.log⟩)) : Moment.Refused ⟨logged, step⟩ := by
  rcases logged with ⟨machine, log⟩
  refine Moment.refused_of_run cause ?_
  simp only [performed]
  rw [Procedure.bind_run_of_ok (booking_run found log)]
  exact Procedure.bind_run_of_error (onDevice_run_of_same there refused) _

theorem refused_of_view (handed : step.device? = some position)
    (views : step.view? = some handle) (found : logged.state.booking? handle = some booking)
    (there : logged.state.devices[position]? = some device)
    (hidden : ¬(booking.buffer.placement.requiresTransfer = false ∧ device.inFlight = 0)) :
    Moment.Refused ⟨logged, step⟩ := by
  cases step with
  | view place other =>
      rcases Option.some.inj handed with rfl
      rcases Option.some.inj views with rfl
      rcases Buffer.view_run_of_refused hidden with ⟨cause, refused⟩
      exact refused_of_booking (·.buffer.view) rfl found there refused
  | edit place other change =>
      rcases Option.some.inj handed with rfl
      rcases Option.some.inj views with rfl
      rcases Buffer.edit_run_of_refused hidden with ⟨cause, refused⟩
      exact refused_of_booking (·.buffer.edit change) rfl found there refused
  | _ => simp [Step.view?] at views

theorem refused_of_length (handed : step.device? = some position)
    (transfers : step.transfer? = some (handle, length))
    (found : logged.state.booking? handle = some booking)
    (there : logged.state.devices[position]? = some device)
    (mismatch : length ≠ booking.buffer.length) : Moment.Refused ⟨logged, step⟩ := by
  cases step with
  | download place other target =>
      rcases Option.some.inj handed with rfl
      rcases Option.some.inj transfers with ⟨⟩
      exact refused_of_booking (·.buffer.download target) rfl found there
        (Buffer.download_run_of_mismatch mismatch _)
  | upload place other source =>
      rcases Option.some.inj handed with rfl
      rcases Option.some.inj transfers with ⟨⟩
      exact refused_of_booking (·.buffer.upload source) rfl found there
        (Buffer.upload_run_of_mismatch mismatch _)
  | _ => simp [Step.transfer?] at transfers

theorem refused_of_launch {work : Action (Device × Memory α) LaunchStats} {failure : Failure}
    (performed : perform step = do return .stats (← launchInside position work))
    (there : logged.state.devices[position]? = some device)
    (refused : work.run ⟨(device, logged.state.memory), logged.log⟩ =
      (.error (.failure failure), ⟨(device, logged.state.memory), logged.log⟩)) :
    Moment.Refused ⟨logged, step⟩ := by
  refine Moment.refused_of_run failure ?_
  simp only [performed]
  exact Procedure.bind_run_of_error (launchInside_run_of_refused there refused) _

theorem refused_of_geometry {failure : Failure} (handed : step.device? = some position)
    (invalid : step.validation? = some (.error failure))
    (there : logged.state.devices[position]? = some device) :
    Moment.Refused ⟨logged, step⟩ := by
  cases step with
  | launch place geometry kernel =>
      rcases Option.some.inj handed with rfl
      exact refused_of_launch rfl there
        (Device.launch_run_of_invalid kernel (Option.some.inj invalid))
  | launchGroups place geometry program =>
      rcases Option.some.inj handed with rfl
      exact refused_of_launch rfl there
        (Device.launchGroups_run_of_invalid _ program (Option.some.inj invalid))
  | elementwise place kernel geometry buffers arraySize =>
      rcases Option.some.inj handed with rfl
      exact refused_of_launch rfl there
        (Device.launch_run_of_invalid _ (Option.some.inj invalid))
  | dot place geometry a b sums arraySize =>
      rcases Option.some.inj handed with rfl
      exact refused_of_launch rfl there
        (Device.launchGroups_run_of_invalid _ _ (Option.some.inj invalid))
  | _ => simp [Step.validation?] at invalid

end Refusals

theorem refused_of_improper {step : Step α} (account : QueueAccount past position device)
    (there : logged.state.devices[position]? = some device)
    (handed : step.device? = some position)
    (improper : Improper logged.state past position step) : Moment.Refused ⟨logged, step⟩ := by
  cases improper with
  | geometry invalid => exact refused_of_geometry handed invalid there
  | length transfers found mismatch => exact refused_of_length handed transfers found there mismatch
  | access views found hidden =>
      rw [account.visible_iff] at hidden
      exact refused_of_view handed views found there hidden

/--
The counters of every device account for the steps that it was handed. A view that it is handed is
granted exactly if the buffer is in host memory and nothing is in flight on the device; and what it
refuses has no effect at all. There must have been fewer than 2^64 launches on the device.
-/
theorem queues_account_for_steps (run : Run past logged)
    (there : logged.state.devices[position]? = some device)
    (few : past.countP (·.launchesOn position) < Word.bound) :
    QueueAccount past position device ∧
      (∀ handle booking, logged.state.booking? handle = some booking →
        ((∃ reply, Moment.outcome ⟨logged, .view position handle⟩ = .ok reply) ↔
          Visible past position booking) ∧
        ∀ change contents, change booking.buffer.contents = .ok contents →
          ((∃ reply, Moment.outcome ⟨logged, .edit position handle change⟩ = .ok reply) ↔
            Visible past position booking)) ∧
      ∀ step, step.device? = some position → Improper logged.state past position step →
        Moment.Refused ⟨logged, step⟩ := by
  have account := queueAccount_of_run run there few
  have refused := fun step => @refused_of_improper _ _ _ _ _ _ step account there
  refine ⟨account, fun handle booking found => ?_, refused⟩
  -- What is not visible is refused, so an access is granted only if the buffer is visible.
  have granted_iff : ∀ step reply, step.device? = some position → step.view? = some handle →
      (Visible past position booking → Moment.outcome ⟨logged, step⟩ = .ok reply) →
      ((∃ reply, Moment.outcome ⟨logged, step⟩ = .ok reply) ↔ Visible past position booking) := by
    intro step reply handed views granted
    refine ⟨?_, fun visible => ⟨reply, granted visible⟩⟩
    rintro ⟨other, viewed⟩
    by_contra hidden
    rcases refused step handed (.access views found hidden) with ⟨⟨failure, failed⟩, -⟩
    rw [failed] at viewed
    exact absurd viewed (by simp)
  refine ⟨granted_iff _ (.contents booking.buffer.contents) rfl rfl fun visible => ?_,
    fun change contents changed => granted_iff _ .done rfl rfl fun visible => ?_⟩
  · rcases account.visible_iff.mp visible with ⟨inPlace, idle⟩
    exact view_outcome found there inPlace idle
  · rcases account.visible_iff.mp visible with ⟨inPlace, idle⟩
    exact edit_outcome found there changed inPlace idle

/-- A copy is in flight on a device, and so the host may not see the array that was copied. -/
theorem copy_in_flight_hides_array :
    let platform := Platform.sequential
    let opened : Logged (Machine Float) := ((openDevice platform 0).run ⟨empty, #[]⟩).2
    let allocated : Moment Float := ⟨opened, .allocate 0 4 .managed⟩
    let copied : Moment Float := ⟨allocated.after, .elementwise 0 .copy ⟨1, 4⟩ ⟨0, 0, 0⟩ 4⟩
    ∃ device, copied.after.state.devices[0]? = some device ∧ device.launches = 1 ∧
      device.inFlight = 1 ∧ Moment.Refused ⟨copied.after, .view 0 0⟩ := by
  intro platform opened allocated copied
  have run : Run [copied, allocated] copied.after :=
    .performed _ (.performed _ (.opened platform 0 (.start #[]) rfl))
  have one : copied.after.state.devices.size = 1 := copied.devices_size.trans rfl
  have there := Array.getElem?_eq_getElem (Nat.lt_of_lt_of_eq Nat.zero_lt_one one.symm)
  rcases queues_account_for_steps run there (by decide) with ⟨account, -, refused⟩
  have flying : inFlightOn 0 [copied, allocated] = [copied] :=
    inFlightOn_cons_of_launches rfl rfl
  have held : copied.after.state.outlines[0]? = some (some ⟨0, .resident .managed, 4⟩) := by
    have bookings : copied.before.state.bookings = #[some ⟨0, .zeroed 4 (.resident .managed)⟩] :=
      rfl
    rw [copied.outlines_of_neither trivial rfl (by simp [copied]), outlines, bookings]
    simp [Booking.outline, Buffer.zeroed, Buffer.length]
  rcases booking_of_outline held with ⟨booking, found, -⟩
  refine ⟨_, there, account.launches.trans rfl, account.inFlight.trans (by rw [flying]; rfl), ?_⟩
  refine refused (.view 0 0) rfl (.access rfl found fun visible => ?_)
  rw [Visible, flying] at visible
  simp at visible

end Machine

end Bandwidth
