import Bandwidth.Buffer
import Bandwidth.Proofs.Action

/-!
# What actions do to a device

A synchronization empties the queue and tells how many launches it retired. The host sees a buffer in
place only if it is in host memory and nothing is in flight on the device that is handed in; it is
refused otherwise, and a transfer is refused if the lengths differ. A buffer that is provided changes
nothing but the books. Whatever is refused leaves the device as it was and tells nothing; only the
books may keep bytes that could not be counted.
-/

namespace Bandwidth

theorem Element.bytes_pos (α : Type) [Element α] : 0 < Element.bytes α := by
  unfold Element.bytes Precision.bytes
  split <;> omega

theorem Element.bytes_le (α : Type) [Element α] : Element.bytes α ≤ 8 := by
  unfold Element.bytes Precision.bytes
  split <;> omega

namespace Device

def idle (device : Device) : Device := { device with inFlight := 0 }

/-- The log after a synchronization: launches that were in flight are told. -/
def logRetired (device : Device) (log : Array Event) : Array Event :=
  if 0 < device.inFlight then
    log.push (.synchronized device.description.index device.inFlight)
  else
    log

theorem synchronize_run (device : Device) (log : Array Event) :
    synchronize.run ⟨device, log⟩ = (.ok (), ⟨device.idle, device.logRetired log⟩) := by
  rw [synchronize, Action.get_bind_run, Action.modify_bind_run, logRetired]
  dsimp only
  split <;> rfl

theorem idle_of_inFlight {device : Device} (none : device.inFlight = 0) : device.idle = device := by
  rcases device with ⟨description, host, ledger, inFlight, launches⟩
  simp only at none
  rw [idle, none]

theorem ensureIdle_run {device : Device} (idle : device.inFlight = 0) (access : String)
    (log : Array Event) : (ensureIdle access).run ⟨device, log⟩ = (.ok (), ⟨device, log⟩) := by
  rw [ensureIdle, Action.get_bind_run]
  simp only [isIdle, idle, beq_self_eq_true, if_true]
  rfl

theorem ensureIdle_run_of_busy {device : Device} (busy : device.inFlight ≠ 0) (access : String)
    (log : Array Event) :
    (ensureIdle access).run ⟨device, log⟩ =
      (.error (.failure (.deviceOperation (.notSynchronized access))), ⟨device, log⟩) := by
  rw [ensureIdle, Action.get_bind_run]
  simp only [isIdle, busy, beq_iff_eq, if_false]
  rfl

theorem ensureIdle_run_snd (access : String) (device : Device) (log : Array Event) :
    ((ensureIdle access).run ⟨device, log⟩).2 = ⟨device, log⟩ := by
  by_cases idle : device.inFlight = 0
  · rw [ensureIdle_run idle]
  · rw [ensureIdle_run_of_busy idle]

theorem of_enter_run_ok {entry : Ledger.Entry} {logged after : Logged Device}
    (ran : (enter entry).run logged = (.ok (), after)) :
    after.state.description = logged.state.description := by
  simp only [Procedure.run, enter, Procedure.within, Prod.mk.injEq] at ran
  rw [← ran.2]

end Device

namespace Ledger

/-- Makes an entry, if there is one to make. -/
def book : Option Entry → Procedure Abort Ledger Unit
  | some entry => enter entry
  | none => pure ()

variable {ledger after : Ledger} {bytes : Nat}

theorem of_count_run_ok (ran : count.run ledger = (.ok (), after)) :
    ledger.live + 1 < Word.bound ∧ after = { ledger with live := ledger.live + 1 } := by
  by_cases room : ledger.live + 1 < Word.bound
  · rw [count_run room] at ran
    exact ⟨room, (Prod.mk.inj ran).2.symm⟩
  · rw [count_run_of_full room] at ran
    simp at ran

/-- A reservation of device memory succeeds only if the budget covers it and it can be counted. -/
theorem of_reserveDevice_run_ok (ran : (reserveDevice bytes).run ledger = (.ok (), after)) :
    bytes ≤ ledger.available ∧ ledger.live + 1 < Word.bound ∧
      after = { ledger with device := ledger.device + bytes, live := ledger.live + 1 } := by
  by_cases covered : bytes ≤ ledger.available
  · rw [reserveDevice_run covered] at ran
    exact ⟨covered, of_count_run_ok ran⟩
  · rw [reserveDevice_run_of_short (Nat.not_le.mp covered)] at ran
    simp at ran

theorem of_reservePinned_run_ok (ran : (reservePinned bytes).run ledger = (.ok (), after)) :
    ledger.pinned + bytes < Word.bound ∧ ledger.live + 1 < Word.bound ∧
      after = { ledger with pinned := ledger.pinned + bytes, live := ledger.live + 1 } := by
  by_cases fits : ledger.pinned + bytes < Word.bound
  · rw [reservePinned_run fits] at ran
    exact ⟨fits, of_count_run_ok ran⟩
  · rw [reservePinned_run_of_overflow fits] at ran
    simp at ran

/-- Books that refuse an entry stay as they are, if another live allocation can be counted. -/
theorem book_run_of_error {entry : Option Entry} {reason : Abort}
    (room : ledger.live + 1 < Word.bound)
    (refused : (book entry).run ledger = (.error reason, after)) : after = ledger := by
  rcases entry with _ | ⟨bytes | bytes | bytes | bytes⟩
  · simp [book] at refused
  · by_cases covered : bytes ≤ ledger.available
    · simp [book, enter, reserveDevice_run covered, count_run, room] at refused
    · rw [book, enter, reserveDevice_run_of_short (Nat.not_le.mp covered)] at refused
      exact (Prod.mk.inj refused).2.symm
  · simp [book, enter] at refused
  · by_cases fits : ledger.pinned + bytes < Word.bound
    · simp [book, enter, reservePinned_run fits, count_run, room] at refused
    · rw [book, enter, reservePinned_run_of_overflow fits] at refused
      exact (Prod.mk.inj refused).2.symm
  · simp [book, enter] at refused

/-- A release is never refused. -/
theorem book_release_run (placement : Placement) (bytes : Nat) (ledger : Ledger) :
    ∃ after, (book (placement.release bytes)).run ledger = (.ok (), after) := by
  rcases placement with (_ | _ | _) | _ <;> exact ⟨_, rfl⟩

end Ledger

namespace Buffer

variable {α : Type} {buffer : Buffer α} {device : Device} {log : Array Event}

theorem checkView_run (visible : buffer.placement.requiresTransfer = false)
    (idle : device.inFlight = 0) (access : String) :
    (buffer.checkView access).run ⟨device, log⟩ = (.ok (), ⟨device, log⟩) := by
  unfold checkView
  split
  · rename_i residency placed
    have inPlace : residency.requiresTransfer = false := by
      rw [placed] at visible
      exact visible
    simp only [inPlace]
    exact Device.ensureIdle_run idle access log
  · exact Device.ensureIdle_run idle _ log

/-- A view is refused for one of two reasons, and then nothing has happened. -/
theorem checkView_run_of_refused
    (refused : ¬(buffer.placement.requiresTransfer = false ∧ device.inFlight = 0))
    (access : String) :
    ∃ cause, (buffer.checkView access).run ⟨device, log⟩ =
      (.error (.failure (.deviceOperation cause)), ⟨device, log⟩) := by
  unfold checkView
  split
  · rename_i residency placed
    rw [placed] at refused
    cases transfers : residency.requiresTransfer with
    | true => exact ⟨.notHostAccessible access, rfl⟩
    | false =>
        have busy : device.inFlight ≠ 0 := fun idle => refused ⟨transfers, idle⟩
        exact ⟨.notSynchronized access, Device.ensureIdle_run_of_busy busy access log⟩
  · rename_i placed
    rw [placed] at refused
    have busy : device.inFlight ≠ 0 := fun idle => refused ⟨rfl, idle⟩
    exact ⟨_, Device.ensureIdle_run_of_busy busy _ log⟩

theorem view_run (visible : buffer.placement.requiresTransfer = false)
    (idle : device.inFlight = 0) (log : Array Event) :
    buffer.view.run ⟨device, log⟩ = (.ok buffer.contents, ⟨device, log⟩) :=
  Procedure.bind_run_of_ok (checkView_run visible idle "read") _

theorem view_run_of_refused
    (refused : ¬(buffer.placement.requiresTransfer = false ∧ device.inFlight = 0)) :
    ∃ cause, buffer.view.run ⟨device, log⟩ =
      (.error (.failure (.deviceOperation cause)), ⟨device, log⟩) := by
  rcases checkView_run_of_refused refused "read" with ⟨cause, checked⟩
  exact ⟨cause, Procedure.bind_run_of_error checked _⟩

/-- However it ends, a view leaves the device as it was. -/
theorem view_run_snd (buffer : Buffer α) (device : Device) (log : Array Event) :
    (buffer.view.run ⟨device, log⟩).2 = ⟨device, log⟩ := by
  by_cases granted : buffer.placement.requiresTransfer = false ∧ device.inFlight = 0
  · rw [view_run granted.1 granted.2 log]
  · rcases view_run_of_refused granted with ⟨cause, refused⟩
    rw [refused]

theorem edit_run {change : Array α → Checked (Array α)} {contents : Array α}
    (changed : change buffer.contents = .ok contents)
    (visible : buffer.placement.requiresTransfer = false) (idle : device.inFlight = 0)
    (log : Array Event) :
    (buffer.edit change).run ⟨device, log⟩ =
      (.ok { buffer with contents := contents }, ⟨device, log⟩) := by
  rw [edit, Procedure.bind_run_of_ok (checkView_run visible idle "write"), changed]
  rfl

theorem edit_run_of_fault {change : Array α → Checked (Array α)} {fault : Fault}
    (faulted : change buffer.contents = .error fault)
    (visible : buffer.placement.requiresTransfer = false) (idle : device.inFlight = 0) :
    (buffer.edit change).run ⟨device, log⟩ = (.error (.fault fault), ⟨device, log⟩) := by
  rw [edit, Procedure.bind_run_of_ok (checkView_run visible idle "write"), faulted]
  rfl

theorem edit_run_of_refused {change : Array α → Checked (Array α)}
    (refused : ¬(buffer.placement.requiresTransfer = false ∧ device.inFlight = 0)) :
    ∃ cause, (buffer.edit change).run ⟨device, log⟩ =
      (.error (.failure (.deviceOperation cause)), ⟨device, log⟩) := by
  rcases checkView_run_of_refused refused "write" with ⟨cause, checked⟩
  exact ⟨cause, Procedure.bind_run_of_error checked _⟩

/-- However it ends, an edit leaves the device as it was. -/
theorem edit_run_cases (buffer : Buffer α) (change : Array α → Checked (Array α)) (device : Device)
    (log : Array Event) :
    (∃ reason, (buffer.edit change).run ⟨device, log⟩ = (.error reason, ⟨device, log⟩)) ∨
      ∃ contents, change buffer.contents = .ok contents ∧
        (buffer.edit change).run ⟨device, log⟩ =
          (.ok { buffer with contents := contents }, ⟨device, log⟩) := by
  by_cases granted : buffer.placement.requiresTransfer = false ∧ device.inFlight = 0
  · cases changed : change buffer.contents with
    | error fault => exact .inl ⟨_, edit_run_of_fault changed granted.1 granted.2⟩
    | ok contents => exact .inr ⟨contents, rfl, edit_run changed granted.1 granted.2 log⟩
  · rcases edit_run_of_refused granted with ⟨cause, refused⟩
    exact .inl ⟨_, refused⟩

theorem download_run {target : Array α} (size_eq : target.size = buffer.contents.size)
    (log : Array Event) :
    (buffer.download target).run ⟨device, log⟩ =
      (.ok buffer.contents, ⟨device.idle, device.logRetired log⟩) := by
  have fits : buffer.checkTransfer target.size = .ok () := if_pos size_eq
  rw [download, fits, Action.check_ok, pure_bind,
    Procedure.bind_run_of_ok (Device.synchronize_run _ _)]
  rfl

theorem download_run_of_mismatch {target : Array α}
    (mismatch : target.size ≠ buffer.contents.size) (log : Array Event) :
    (buffer.download target).run ⟨device, log⟩ =
      (.error (.failure (.lengthMismatch buffer.length target.size)), ⟨device, log⟩) := by
  have refused : buffer.checkTransfer target.size =
      .error (.lengthMismatch buffer.length target.size) :=
    if_neg mismatch
  rw [download, refused]
  rfl

theorem upload_run {source : Array α} (size_eq : source.size = buffer.contents.size)
    (log : Array Event) :
    (buffer.upload source).run ⟨device, log⟩ =
      (.ok { buffer with contents := source }, ⟨device.idle, device.logRetired log⟩) := by
  have fits : buffer.checkTransfer source.size = .ok () := if_pos size_eq
  rw [upload, fits, Action.check_ok, pure_bind,
    Procedure.bind_run_of_ok (Device.synchronize_run _ _)]
  rfl

theorem upload_run_of_mismatch {source : Array α}
    (mismatch : source.size ≠ buffer.contents.size) (log : Array Event) :
    (buffer.upload source).run ⟨device, log⟩ =
      (.error (.failure (.lengthMismatch buffer.length source.size)), ⟨device, log⟩) := by
  have refused : buffer.checkTransfer source.size =
      .error (.lengthMismatch buffer.length source.size) :=
    if_neg mismatch
  rw [upload, refused]
  rfl

theorem book_run {entry : Option Ledger.Entry} {outcome : Except Abort Unit} {ledger : Ledger}
    (booked : (Ledger.book entry).run device.ledger = (outcome, ledger)) :
    (book entry).run ⟨device, log⟩ = (outcome, ⟨{ device with ledger := ledger }, log⟩) := by
  cases entry with
  | none =>
      rcases Prod.mk.inj booked with ⟨rfl, rfl⟩
      rfl
  | some entry =>
      simp only [Procedure.run, Ledger.book] at booked ⊢
      simp only [book, Device.enter, Procedure.within, booked]

variable [Element α] {length : Nat} {placement : Placement}

theorem provide_run {ledger : Ledger} (granted : checkBlock α device.host length = .ok ())
    (booked : (Ledger.book (placement.reservation (length * Element.bytes α))).run device.ledger =
      (.ok (), ledger)) :
    (provide length placement).run ⟨device, log⟩ =
      (.ok (zeroed length placement : Buffer α), ⟨{ device with ledger := ledger }, log⟩) := by
  rw [provide, Action.get_bind_run]
  dsimp only
  rw [granted, Action.check_ok, pure_bind, Procedure.bind_run_of_ok (book_run booked)]
  rfl

/-- A block that the host does not grant is not booked. -/
theorem provide_run_of_exhausted {failure : Failure}
    (exhausted : checkBlock α device.host length = .error failure) :
    (provide length placement : Action Device (Buffer α)).run ⟨device, log⟩ =
      (.error (.failure failure), ⟨device, log⟩) := by
  rw [provide, Action.get_bind_run]
  dsimp only
  rw [exhausted]
  rfl

/-- A block that the books refuse leaves the device as the books leave it. -/
theorem provide_run_of_refused {reason : Abort} {ledger : Ledger}
    (granted : checkBlock α device.host length = .ok ())
    (refused : (Ledger.book (placement.reservation (length * Element.bytes α))).run device.ledger =
      (.error reason, ledger)) :
    (provide length placement : Action Device (Buffer α)).run ⟨device, log⟩ =
      (.error reason, ⟨{ device with ledger := ledger }, log⟩) := by
  rw [provide, Action.get_bind_run]
  dsimp only
  rw [granted, Action.check_ok, pure_bind, Procedure.bind_run_of_error (book_run refused)]

/-- An allocation is provided like any block, and told. -/
theorem allocate_run {residency : Residency} {after : Device} {told : Array Event}
    (provided : (provide length (.resident residency)).run ⟨device, log⟩ =
      (.ok buffer, ⟨after, told⟩)) :
    (allocate length residency).run ⟨device, log⟩ =
      (.ok buffer, ⟨after, told.push (.allocated buffer.bytes residency after.description.index)⟩) := by
  rw [allocate, Procedure.bind_run_of_ok provided]
  rfl

theorem allocate_run_of_error {residency : Residency} {reason : Abort} {after : Logged Device}
    (refused : (provide length (.resident residency) : Action Device (Buffer α)).run
      ⟨device, log⟩ = (.error reason, after)) :
    (allocate length residency : Action Device (Buffer α)).run ⟨device, log⟩ =
      (.error reason, after) :=
  Procedure.bind_run_of_error refused _

theorem free_run {ledger : Ledger}
    (booked : (Ledger.book (buffer.placement.release buffer.bytes)).run device.ledger =
      (.ok (), ledger)) (log : Array Event) :
    buffer.free.run ⟨device, log⟩ = (.ok (), ⟨{ device with ledger := ledger }, log⟩) :=
  book_run booked

variable {logged last : Logged Device}

theorem of_book_run_ok {entry : Option Ledger.Entry}
    (ran : (book entry).run logged = (.ok (), last)) :
    last.state.description = logged.state.description := by
  cases entry with
  | none =>
      simp only [book, Procedure.pure_run, Prod.mk.injEq] at ran
      rw [← ran.2]
  | some entry => exact Device.of_enter_run_ok ran

theorem of_checkBlock_eq_ok {host : Host} (granted : checkBlock α host length = .ok ()) :
    0 < length ∧ length * Element.bytes α ≤ Word.greatestObject := by
  unfold checkBlock at granted
  split at granted
  · simp at granted
  · split at granted
    · simp at granted
    · omega

/-- A block that was provided is zeroed, and no larger than any object. -/
theorem of_provide_run_ok (ran : (provide length placement).run logged = (.ok buffer, last)) :
    buffer = zeroed length placement ∧ 0 < length ∧ length * Element.bytes α ≤ Word.greatestObject ∧
      last.state.description = logged.state.description := by
  rcases Action.of_check_bind_run_ok (Action.of_get_bind_run_ok ran) with ⟨_, granted, rest⟩
  rcases Procedure.of_bind_run_ok rest with ⟨_, between, booked, done⟩
  have described := of_book_run_ok booked
  obtain ⟨rfl, rfl⟩ : zeroed length placement = buffer ∧ between = last := by simpa using done
  rcases of_checkBlock_eq_ok granted with ⟨positive, bytes_le⟩
  exact ⟨rfl, positive, bytes_le, described⟩

theorem of_allocate_run_ok {residency : Residency}
    (ran : (allocate length residency).run logged = (.ok buffer, last)) :
    buffer = zeroed length (.resident residency) ∧ 0 < length ∧
      length * Element.bytes α ≤ Word.greatestObject ∧
      last.state.description = logged.state.description := by
  rcases Procedure.of_bind_run_ok ran with ⟨provided, between, given, rest⟩
  have found := Action.of_get_bind_run_ok rest
  have done := Action.of_emit_bind_run_ok found
  have facts := of_provide_run_ok given
  simp only [Procedure.pure_run, Prod.mk.injEq, Except.ok.injEq] at done
  rcases done with ⟨rfl, rfl⟩
  exact facts

end Buffer

end Bandwidth
