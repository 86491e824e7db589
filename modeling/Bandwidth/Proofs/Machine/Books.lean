import Bandwidth.Element.Native
import Bandwidth.Proofs.Machine.Effect
import Bandwidth.Proofs.Machine.Ledger

/-!
# The books of a machine

Which buffers live is told by what was done: those that were provided and not freed since. In every
state that a run leads to, the books of every device are exact for them. A request that is refused
changes nothing, and which requests are refused can be told from the books.

Nothing is assumed about the order in which buffers come and go, nor about the device that a step in
between is handed: a buffer is released on the device that it was allocated on. Work that callers
bring along must leave the buffers as long as they are; nothing but that work could change a length.
The host is assumed to have less than 2^63 bytes, so that no counter comes to its end.
-/

namespace Bandwidth

namespace Machine

open Outline

variable {α : Type} [Element α] {past later : List (Moment α)} {logged : Logged (Machine α)}
  {machine after : Machine α} {moment : Moment α} {position handle : Nat} {device : Device}
  {outline : Outline}

/-- The buffer that a step has provided, by its handle. -/
def Moment.provided? (moment : Moment α) : Option (Nat × Outline) :=
  match moment.step.request?, moment.outcome with
  | some (position, length, placement), .ok (.handle handle) =>
      some (handle, ⟨position, placement, length⟩)
  | _, _ => none

/-- The buffers that were provided and not freed since, by their handles. -/
def liveAfter : List (Moment α) → List (Nat × Outline)
  | [] => []
  | moment :: past =>
      match moment.step with
      | .free handle => (liveAfter past).filter (·.1 != handle)
      | _ => moment.provided?.toList ++ liveAfter past

/-- What is fixed of the live buffers. -/
def living (past : List (Moment α)) : List Outline :=
  (liveAfter past).map Prod.snd

section History

theorem liveAfter_cons_of_free (past : List (Moment α)) (frees : moment.step = .free handle) :
    liveAfter (moment :: past) = (liveAfter past).filter (·.1 != handle) := by
  rw [liveAfter, frees]

theorem liveAfter_cons_of_kept (past : List (Moment α))
    (frees : ∀ handle, moment.step ≠ .free handle) :
    liveAfter (moment :: past) = moment.provided?.toList ++ liveAfter past := by
  rw [liveAfter]
  split
  · rename_i handle freed
    exact absurd freed (frees handle)
  · rfl

omit [Element α] in
theorem frees_nothing_of_asked {length : Nat} {placement : Placement}
    (asked : moment.step.request? = some (position, length, placement)) :
    ∀ handle, moment.step ≠ .free handle := by
  intro handle frees
  rw [frees] at asked
  simp [Step.request?] at asked

theorem provided?_of_served {length : Nat} {placement : Placement}
    (asked : moment.step.request? = some (position, length, placement))
    (outcome : moment.outcome = .ok (.handle handle)) :
    moment.provided? = some (handle, ⟨position, placement, length⟩) := by
  rw [Moment.provided?, asked, outcome]

theorem provided?_of_error {reason : Abort} (outcome : moment.outcome = .error reason) :
    moment.provided? = none := by
  rw [Moment.provided?, outcome]
  split <;> simp_all

theorem provided?_of_unasked (unasked : moment.step.request? = none) : moment.provided? = none := by
  rw [Moment.provided?, unasked]

theorem mem_living (lives : (handle, outline) ∈ liveAfter past) : outline ∈ living past :=
  List.mem_map_of_mem (f := Prod.snd) lives

/-- A buffer is taken out of the live ones by its handle, which no other has. -/
theorem perm_cons_filter {buffers : List (Nat × Outline)} (mem : (handle, outline) ∈ buffers)
    (distinct : (buffers.map Prod.fst).Nodup) :
    (buffers.map Prod.snd).Perm
      (outline :: (buffers.filter (·.1 != handle)).map Prod.snd) := by
  induction buffers with
  | nil => simp at mem
  | cons first rest ih =>
      rw [List.map_cons, List.nodup_cons] at distinct
      rcases distinct with ⟨fresh, distinct⟩
      rcases List.mem_cons.mp mem with rfl | older
      · have others : rest.filter (·.1 != handle) = rest := by
          rw [List.filter_eq_self]
          intro buffer held
          have different : buffer.1 ≠ handle := fun same =>
            fresh (List.mem_map.mpr ⟨buffer, held, same⟩)
          simpa using different
        rw [List.filter_cons_of_neg (by simp), others, List.map_cons]
      · have different : first.1 ≠ handle := fun same =>
          fresh (same ▸ List.mem_map_of_mem (f := Prod.fst) older)
        rw [List.filter_cons_of_pos (by simpa using different), List.map_cons, List.map_cons]
        exact ((ih older distinct).cons first.2).trans (List.Perm.swap _ _ _)

end History

/-- The books of all devices are exact for the buffers that live, and these are the buffers of the
machine; each belongs to a device. -/
structure Exact (past : List (Moment α)) (machine : Machine α) : Prop where
  books : ∀ {position : Nat} {device : Device}, machine.devices[position]? = some device →
    device.ledger.Exact α position (living past) ∧
      device.ledger.total = device.description.memory
  outlines : ∀ handle outline, (handle, outline) ∈ liveAfter past ↔
    machine.outlines[handle]? = some (some outline)
  distinct : ((liveAfter past).map Prod.fst).Nodup
  owners : ∀ outline ∈ living past, outline.owner < machine.devices.size
  positive : ∀ outline ∈ living past, 0 < outline.length

/-- No counter of exact books is greater than the bytes of all that lives. -/
theorem Exact.bounded (exact : machine.Exact past)
    (there : machine.devices[position]? = some device) :
    device.ledger.pinned ≤ totalBytes α (living past) ∧
      device.ledger.live ≤ totalBytes α (living past) := by
  rcases exact.books there with ⟨books, -⟩
  refine ⟨books.pinned ▸ totalBytes_sublist List.filter_sublist, ?_⟩
  have each : ∀ outline ∈ living past, 1 ≤ outline.bytes α := fun outline mem =>
    Nat.mul_pos (exact.positive outline mem) (Element.bytes_pos α)
  have count : (living past).length ≤ totalBytes α (living past) := by
    rw [totalBytes, ← List.length_map (Outline.bytes α)]
    refine List.length_le_sum_of_one_le _ fun bytes mem => ?_
    rcases List.mem_map.mp mem with ⟨outline, lives, rfl⟩
    exact each outline lives
  exact (books.live_le).trans count

/-- On a host with less than 2^63 bytes another live buffer can always be counted. -/
theorem Exact.room (exact : machine.Exact past)
    (there : machine.devices[position]? = some device)
    (bounded : totalBytes α (living past) ≤ Word.greatestObject) :
    device.ledger.live + 1 < Word.bound := by
  have live := (exact.bounded there).2
  simp only [Word.greatestObject, Word.bound] at *
  omega

/-- The books of the owner of a live buffer hold what its release takes out. -/
theorem Exact.covers (exact : machine.Exact past) (lives : (handle, outline) ∈ liveAfter past)
    (there : machine.devices[outline.owner]? = some device) :
    device.ledger.Covers (outline.placement.release (outline.bytes α)) := by
  have taken := perm_cons_filter lives exact.distinct
  exact ((exact.books there).1.perm taken).covers

/-- What leaves the books, the outlines and the live buffers as they were leaves them exact. -/
theorem Exact.congr (exact : machine.Exact past) (live : liveAfter later = liveAfter past)
    (size : after.devices.size = machine.devices.size)
    (devices : ∀ (position : Nat) (device : Device), after.devices[position]? = some device →
      ∃ old : Device, machine.devices[position]? = some old ∧ device.ledger = old.ledger ∧
        device.description = old.description)
    (outlines : after.outlines = machine.outlines) : after.Exact later where
  books := by
    intro position device found
    rcases devices position device found with ⟨old, there, ledger, description⟩
    rw [living, live, ledger, description]
    exact exact.books there
  outlines := by
    rw [live, outlines]
    exact exact.outlines
  distinct := by
    rw [live]
    exact exact.distinct
  owners := by
    rw [living, live, size]
    exact exact.owners
  positive := by
    rw [living, live]
    exact exact.positive

/-- What happens to the queue of a device is nothing to its books. -/
theorem Exact.requeued {old new : Device} (exact : machine.Exact past)
    (live : liveAfter later = liveAfter past) (there : machine.devices[position]? = some old)
    (devices : after.devices = machine.devices.setIfInBounds position new)
    (outlines : after.outlines = machine.outlines) (ledger : new.ledger = old.ledger)
    (description : new.description = old.description) : after.Exact later := by
  refine exact.congr live (by rw [devices, Array.size_setIfInBounds]) ?_ outlines
  intro place device found
  rw [devices] at found
  rcases getElem?_setIfInBounds_cases there found with ⟨rfl, rfl⟩ | ⟨-, same⟩
  · exact ⟨old, there, ledger, description⟩
  · exact ⟨device, same, rfl, rfl⟩

/-- A buffer that comes is in the books of its own device, and no concern of any other. -/
theorem Exact.served {length : Nat} {placement : Placement} {ledger : Ledger}
    (exact : machine.Exact past)
    (live : liveAfter later =
      (machine.outlines.size, ⟨position, placement, length⟩) :: liveAfter past)
    (positive : 0 < length) (there : machine.devices[position]? = some device)
    (booked : (Ledger.book (placement.reservation (length * Element.bytes α))).run device.ledger =
      (.ok (), ledger))
    (devices : after.devices =
      machine.devices.setIfInBounds position { device with ledger := ledger })
    (outlines : after.outlines = machine.outlines.push (some ⟨position, placement, length⟩)) :
    after.Exact later where
  books := by
    intro place other found
    rw [living, live, List.map_cons]
    rw [devices] at found
    rcases getElem?_setIfInBounds_cases there found with ⟨rfl, rfl⟩ | ⟨different, same⟩
    · rcases exact.books there with ⟨before, total⟩
      rcases before.reserve booked with ⟨after, totalEq⟩
      exact ⟨after, totalEq.trans total⟩
    · rcases exact.books same with ⟨before, total⟩
      exact ⟨(Ledger.exact_cons_iff_of_other different.symm).mpr before, total⟩
  outlines := by
    intro handle outline
    rw [live, outlines, List.mem_cons, exact.outlines, Array.getElem?_push]
    by_cases last : handle = machine.outlines.size
    · subst last
      simp [eq_comm]
    · simp [last]
  distinct := by
    rw [live, List.map_cons, List.nodup_cons]
    refine ⟨?_, exact.distinct⟩
    -- A handle is the number of buffers before, so no buffer has had it.
    intro held
    rcases List.mem_map.mp held with ⟨⟨handle, outline⟩, lives, same⟩
    have found := (exact.outlines _ _).mp lives
    rw [show handle = machine.outlines.size from same] at found
    simp at found
  owners := by
    intro outline mem
    rw [devices, Array.size_setIfInBounds]
    rw [living, live, List.map_cons] at mem
    rcases List.mem_cons.mp mem with rfl | older
    · exact (Array.getElem?_eq_some_iff.mp there).1
    · exact exact.owners outline older
  positive := by
    intro outline mem
    rw [living, live, List.map_cons] at mem
    rcases List.mem_cons.mp mem with rfl | older
    · exact positive
    · exact exact.positive outline older

/-- A buffer that goes is released on its owner, whatever devices it was used on. -/
theorem Exact.freed {ledger : Ledger} (exact : machine.Exact past)
    (live : liveAfter later = (liveAfter past).filter (·.1 != handle))
    (lives : (handle, outline) ∈ liveAfter past)
    (there : machine.devices[outline.owner]? = some device)
    (booked : (Ledger.book (outline.placement.release (outline.bytes α))).run device.ledger =
      (.ok (), ledger))
    (devices : after.devices =
      machine.devices.setIfInBounds outline.owner { device with ledger := ledger })
    (outlines : after.outlines = machine.outlines.setIfInBounds handle none) :
    after.Exact later where
  books := by
    have go := perm_cons_filter lives exact.distinct
    intro place other found
    rw [living, live]
    rw [devices] at found
    rcases getElem?_setIfInBounds_cases there found with ⟨rfl, rfl⟩ | ⟨different, same⟩
    · rcases exact.books there with ⟨before, total⟩
      rcases (before.perm go).release booked with ⟨after, totalEq⟩
      exact ⟨after, totalEq.trans total⟩
    · rcases exact.books same with ⟨before, total⟩
      exact ⟨(Ledger.exact_cons_iff_of_other different.symm).mp (before.perm go), total⟩
  outlines := by
    intro place other
    rw [live, outlines, List.mem_filter, exact.outlines, Array.getElem?_setIfInBounds]
    by_cases same : handle = place
    · subst same
      simp
    · simp [same, Ne.symm same]
  distinct := by
    rw [live]
    exact exact.distinct.sublist (List.filter_sublist.map _)
  owners := by
    intro other mem
    rw [living, live] at mem
    rw [devices, Array.size_setIfInBounds]
    exact exact.owners other ((List.filter_sublist.map Prod.snd).subset mem)
  positive := by
    intro other mem
    rw [living, live] at mem
    exact exact.positive other ((List.filter_sublist.map Prod.snd).subset mem)

/-- A buffer that is freed lives; a handle that frees nothing names no live buffer. -/
theorem Exact.not_live_of_missing (exact : machine.Exact past)
    (cause : ∀ booking, machine.booking? handle = some booking →
      machine.devices[booking.owner]? = none) :
    (liveAfter past).filter (·.1 != handle) = liveAfter past := by
  rw [List.filter_eq_self]
  rintro ⟨other, outline⟩ lives
  have different : other ≠ handle := by
    rintro rfl
    rcases booking_of_outline ((exact.outlines _ _).mp lives) with ⟨booking, found, rfl⟩
    have closed := Array.getElem?_eq_none_iff.mp (cause booking found)
    exact absurd (exact.owners _ (mem_living lives)) (Nat.not_lt.mpr closed)
  simpa using different

theorem exact_of_request {length : Nat} {placement : Placement}
    (exact : moment.before.state.Exact past)
    (bounded : totalBytes α (living past) ≤ Word.greatestObject)
    (asked : moment.step.request? = some (position, length, placement)) :
    moment.after.state.Exact (moment :: past) := by
  have kept := liveAfter_cons_of_kept past (frees_nothing_of_asked asked)
  cases moment.requested asked with
  | missing reason outcome same cause =>
      rw [provided?_of_error outcome] at kept
      rw [same]
      exact exact.congr kept rfl (fun _ device found => ⟨device, found, rfl, rfl⟩) rfl
  | refused there granted booked outcome after =>
      rw [provided?_of_error outcome] at kept
      rw [after]
      have same := Ledger.book_run_of_error (exact.room there bounded) booked
      exact exact.requeued kept there rfl rfl same rfl
  | served there granted booked silent outcome after =>
      rw [provided?_of_served asked outcome] at kept
      rw [after]
      refine exact.served (kept.trans ?_) (Buffer.of_checkBlock_eq_ok granted).1 there booked rfl ?_
      · simp [outlines]
      · simp [outlines, Booking.outline, Buffer.zeroed, Buffer.length]

theorem exact_of_free (exact : logged.state.Exact past) (handle : Nat) :
    (Moment.after ⟨logged, .free handle⟩).state.Exact (⟨logged, .free handle⟩ :: past) := by
  have live : liveAfter (⟨logged, .free handle⟩ :: past) = _ := liveAfter_cons_of_free past rfl
  cases free_released logged handle with
  | missing same cause =>
      rw [exact.not_live_of_missing cause] at live
      rw [same]
      exact exact.congr live rfl (fun _ device found => ⟨device, found, rfl, rfl⟩) rfl
  | freed found there booked outcome after =>
      have lives := (exact.outlines _ _).mpr (outline_of_booking found)
      rw [after]
      exact exact.freed live lives there booked rfl Array.map_setIfInBounds

theorem exact_step (exact : moment.before.state.Exact past)
    (bounded : totalBytes α (living past) ≤ Word.greatestObject)
    (keeps : moment.step.KeepsLengths) : moment.after.state.Exact (moment :: past) := by
  rcases asked : moment.step.request? with _ | ⟨position, length, placement⟩
  · by_cases frees : ∃ handle, moment.step = .free handle
    · rcases moment with ⟨before, step⟩
      rcases frees with ⟨handle, rfl⟩
      exact exact_of_free exact handle
    · rw [not_exists] at frees
      have live := liveAfter_cons_of_kept past frees
      rw [provided?_of_unasked asked] at live
      -- No other step is about the books.
      cases moment.effect with
      | rested quiet devices outlines log =>
          refine exact.congr live (by rw [devices]) ?_ (outlines keeps)
          rw [devices]
          exact fun _ device found => ⟨device, found, rfl, rfl⟩
      | waited handed there waits devices outlines log =>
          exact exact.requeued live there devices outlines rfl rfl
      | launched handed there launches devices outlines log silent =>
          exact exact.requeued live there devices (outlines keeps) rfl rfl
      | reserved quiet granted => simp [asked] at granted
      | refused quiet denied => simp [asked] at denied
      | freed quiet freed => exact absurd freed (frees _)
  · exact exact_of_request exact bounded asked

/-- A device that is opened has a position that no owner has, and empty books. -/
theorem Exact.opened {description : Description} {host : Host} (exact : machine.Exact past)
    (bookings : after.bookings = machine.bookings)
    (devices : after.devices = machine.devices.push (.fresh description host)) :
    after.Exact past where
  books := by
    intro position device there
    rw [devices, Array.getElem?_push] at there
    split at there
    · rename_i last
      rcases Option.some.inj there with rfl
      exact ⟨Ledger.exact_empty _ fun outline mem => last ▸ (exact.owners outline mem).ne, rfl⟩
    · exact exact.books there
  outlines := by
    rw [Machine.outlines, bookings]
    exact exact.outlines
  distinct := exact.distinct
  owners := by
    intro outline mem
    rw [devices, Array.size_push]
    exact Nat.lt_succ_of_lt (exact.owners outline mem)
  positive := exact.positive

/-- The books are exact after a run in which less than 2^63 bytes lived at any time. -/
theorem exact_of_run (run : Run past logged) (keeps : ∀ moment ∈ past, moment.step.KeepsLengths)
    (bounded : ∀ earlier, earlier <:+ past →
      totalBytes α (living earlier) ≤ Word.greatestObject) : logged.state.Exact past := by
  induction run with
  | start log =>
      exact ⟨by simp [empty], by simp [liveAfter, outlines, empty], by simp [liveAfter],
        by simp [living, liveAfter], by simp [living, liveAfter]⟩
  | opened platform index run found ih =>
      rcases of_openDevice_run_ok found with ⟨description, bookings, devices⟩
      exact (ih keeps bounded).opened bookings devices
  | @performed past logged step run ih =>
      have before := ih (fun moment mem => keeps moment (List.mem_cons_of_mem _ mem))
        fun earlier part => bounded earlier (part.trans (List.suffix_cons _ _))
      exact exact_step before (bounded past (List.suffix_cons _ _)) (keeps _ List.mem_cons_self)

/-- A request that fails changes nothing, as long as another live buffer can be counted. -/
theorem after_of_failed_request {step : Step α} {length : Nat} {placement : Placement}
    {reason : Abort}
    (room : ∀ device, logged.state.devices[position]? = some device →
      device.ledger.live + 1 < Word.bound)
    (asked : step.request? = some (position, length, placement))
    (failed : Moment.outcome ⟨logged, step⟩ = .error reason) :
    Moment.after ⟨logged, step⟩ = logged := by
  cases Moment.requested ⟨logged, step⟩ asked with
  | missing other outcome same cause => exact same
  | refused there granted booked outcome after =>
      rcases Ledger.book_run_of_error (room _ there) booked with rfl
      rw [after, setDevice_self there]
  | served there granted booked silent outcome after =>
      exact absurd (outcome.symm.trans failed) (by simp)

/-- A block that the host grants is refused by the books of a device if it is an array that counts
against its memory and is larger than what is left of it. -/
theorem refused_iff_of_resident {step : Step α} {length : Nat} {residency : Residency}
    (asked : step.request? = some (position, length, .resident residency))
    (there : logged.state.devices[position]? = some device)
    (room : device.ledger.live + 1 < Word.bound) :
    (∃ reason, Moment.outcome ⟨logged, step⟩ = .error reason) ↔
      Buffer.checkBlock α device.host length ≠ .ok () ∨
        residency.usesDeviceMemory = true ∧ device.ledger.available < length * Element.bytes α := by
  rw [← Ledger.book_resident_fails_iff room]
  cases Moment.requested ⟨logged, step⟩ asked with
  | missing reason outcome same cause =>
      exact ⟨fun _ => .inl (cause device there), fun _ => ⟨reason, outcome⟩⟩
  | refused found granted booked outcome after =>
      rcases Option.some.inj (found.symm.trans there) with rfl
      exact ⟨fun _ => .inr ⟨_, _, booked⟩, fun _ => ⟨_, outcome⟩⟩
  | served found granted booked silent outcome after =>
      rcases Option.some.inj (found.symm.trans there) with rfl
      constructor
      · rintro ⟨reason, failed⟩
        exact absurd (outcome.symm.trans failed) (by simp)
      · rintro (refused | ⟨reason, after, failed⟩)
        · exact absurd granted refused
        · exact absurd (booked.symm.trans failed) (by simp)

theorem granted_of_pinned {step : Step α} {length : Nat} (exact : logged.state.Exact past)
    (asked : step.request? = some (position, length, .pinned))
    (there : logged.state.devices[position]? = some device)
    (granted : Buffer.checkBlock α device.host length = .ok ())
    (fits : totalBytes α (living past) + length * Element.bytes α ≤ Word.greatestObject) :
    ∃ reply, Moment.outcome ⟨logged, step⟩ = .ok reply := by
  cases Moment.requested ⟨logged, step⟩ asked with
  | missing reason outcome same cause => exact absurd granted (cause device there)
  | @refused other ledger reason found _ booked outcome after =>
      rcases Option.some.inj (there.symm.trans found) with rfl
      have pinned := (exact.bounded there).1
      have small : device.ledger.pinned + length * Element.bytes α < Word.bound := by
        simp only [Word.greatestObject, Word.bound] at *
        omega
      have room := exact.room there (Nat.le_of_add_right_le fits)
      have counted := (Ledger.reservePinned_run small).trans (Ledger.count_run room)
      exact absurd (counted.symm.trans booked) (by simp)
  | served found granted booked silent outcome after => exact ⟨_, outcome⟩

theorem outcome_free (exact : logged.state.Exact past) (lives : (handle, outline) ∈ liveAfter past) :
    Moment.outcome ⟨logged, .free handle⟩ = .ok .done := by
  cases free_released logged handle with
  | missing same cause =>
      have held := exact.not_live_of_missing cause ▸ lives
      simp at held
  | freed found there booked outcome after => exact outcome

/--
The books of every device show what the buffers take that were provided on it and not freed since,
and hold what their releases will take out. Every one of these buffers can be freed. A request that
fails changes nothing. An array is refused exactly if the host has no block for it or the device no
memory; and a pinned buffer is never refused a block that the host has. All this holds for as long
as less than 2^63 bytes are in use.
-/
theorem books_follow_live_buffers (run : Run past logged)
    (keeps : ∀ moment ∈ past, moment.step.KeepsLengths)
    (bounded : ∀ earlier, earlier <:+ past →
      totalBytes α (living earlier) ≤ Word.greatestObject)
    (there : logged.state.devices[position]? = some device) :
    device.ledger.Exact α position (living past) ∧
      device.ledger.total = device.description.memory ∧
      (device.ledger.pinned ≤ totalBytes α (living past) ∧
        device.ledger.live ≤ totalBytes α (living past)) ∧
      (((liveAfter past).map Prod.fst).Nodup ∧ ∀ handle outline,
        (handle, outline) ∈ liveAfter past ↔
          logged.state.outlines[handle]? = some (some outline)) ∧
      (∀ handle outline, (handle, outline) ∈ liveAfter past →
        Moment.outcome ⟨logged, .free handle⟩ = .ok .done ∧
        (outline.owner = position →
          device.ledger.Covers (outline.placement.release (outline.bytes α)))) ∧
      ∀ step length placement, step.request? = some (position, length, placement) →
        (∀ reason, Moment.outcome ⟨logged, step⟩ = .error reason →
          Moment.after ⟨logged, step⟩ = logged) ∧
        (∀ residency, placement = .resident residency →
          ((∃ reason, Moment.outcome ⟨logged, step⟩ = .error reason) ↔
            Buffer.checkBlock α device.host length ≠ .ok () ∨
              residency.usesDeviceMemory = true ∧
                device.ledger.total - device.ledger.device < length * Element.bytes α)) ∧
        (placement = .pinned → Buffer.checkBlock α device.host length = .ok () →
          totalBytes α (living past) + length * Element.bytes α ≤ Word.greatestObject →
          ∃ reply, Moment.outcome ⟨logged, step⟩ = .ok reply) := by
  have exact := exact_of_run run keeps bounded
  have now := bounded past List.suffix_rfl
  rcases exact.books there with ⟨books, total⟩
  refine ⟨books, total, exact.bounded there, ⟨exact.distinct, exact.outlines⟩, ?_, ?_⟩
  · intro handle outline lives
    refine ⟨outcome_free exact lives, ?_⟩
    rintro rfl
    exact exact.covers lives there
  · intro step length placement asked
    refine ⟨?_, ?_, ?_⟩
    · intro reason failed
      exact after_of_failed_request (fun _ found => exact.room found now) asked failed
    · rintro residency rfl
      exact refused_iff_of_resident asked there (exact.room there now)
    · rintro rfl granted fits
      exact granted_of_pinned exact asked there granted fits

/-- Of two arrays and a pinned buffer one array is freed, and its bytes with it. A further array is
then too large by those of the array that is left. -/
theorem array_refused_beside_another :
    let opened : Logged (Machine Float) := ((openDevice .sequential 0).run ⟨empty, #[]⟩).2
    let first : Moment Float := ⟨opened, .allocate 0 4 .managed⟩
    let pinned : Moment Float := ⟨first.after, .pin 0 2⟩
    let second : Moment Float := ⟨pinned.after, .allocate 0 1 .deviceOnly⟩
    let freed : Moment Float := ⟨second.after, .free 0⟩
    let refused : Moment Float := ⟨freed.after, .allocate 0 2147483648 .managed⟩
    ∃ device, freed.after.state.devices[0]? = some device ∧
      device.ledger = ⟨17179869184, 8, 16, 2⟩ ∧
      living [freed, second, pinned, first] =
        [⟨0, .resident .deviceOnly, 1⟩, ⟨0, .pinned, 2⟩] ∧
      device.ledger.Exact Float 0 (living [freed, second, pinned, first]) ∧
      (∃ reason, refused.outcome = .error reason) ∧ refused.after = freed.after := by
  intro opened first pinned second freed refused
  have run : Run [freed, second, pinned, first] freed.after :=
    .performed _ (.performed _ (.performed _ (.performed _
      (.opened .sequential 0 (.start #[]) rfl))))
  have keeps : ∀ moment ∈ [freed, second, pinned, first], moment.step.KeepsLengths := by
    simp [Step.KeepsLengths, freed, second, pinned, first]
  have bounded : ∀ earlier, earlier <:+ [freed, second, pinned, first] →
      totalBytes Float (living earlier) ≤ Word.greatestObject := by
    intro earlier part
    simp only [List.suffix_cons_iff, List.suffix_nil] at part
    rcases part with rfl | rfl | rfl | rfl | rfl <;> decide +kernel
  have books : freed.after.state.devices[0]?.map (·.ledger) = some ⟨17179869184, 8, 16, 2⟩ := by
    decide +kernel
  have lives : living [freed, second, pinned, first] =
      [⟨0, .resident .deviceOnly, 1⟩, ⟨0, .pinned, 2⟩] := by
    decide +kernel
  rcases Option.map_eq_some_iff.mp books with ⟨device, there, ledger⟩
  rcases books_follow_live_buffers run keeps bounded there with ⟨exact, -, -, -, -, requests⟩
  rcases requests (.allocate 0 2147483648 .managed) _ _ rfl with ⟨unchanged, refuses, -⟩
  have failed := (refuses .managed rfl).mpr (.inr ⟨rfl, by rw [ledger]; decide⟩)
  rcases failed with ⟨reason, failed⟩
  exact ⟨device, there, ledger, lives, exact, ⟨reason, failed⟩, unchanged reason failed⟩

end Machine

end Bandwidth
