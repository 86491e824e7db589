import Bandwidth.Element.Native
import Bandwidth.Proofs.Machine.Ledger
import Bandwidth.Proofs.Stream.Kernels

/-!
# The creation of a stream

Three checks decide whether a stream is created: that its arrays have elements, that there is such a
device, and that the memory of the device holds three arrays. The last one is made in 128 bits before
anything is allocated. Once it has passed, no block leaves the address space, and the books of the
device cover every array, so nothing can be refused any more but by the host.

Buffers are booked one after the other and given back in the opposite order, so each release undoes
the booking that came last, and the device ends as it was opened.
-/

namespace Bandwidth

namespace Platform

variable {platform : Platform} {index : Nat} {device : Description}

theorem getElem?_devices (platform : Platform) (index : Nat) :
    platform.devices[index]? = platform.profiles[index]?.map (·.describe index) := by
  simp [devices]

theorem device_eq (platform : Platform) (index : Nat) :
    platform.device index =
      match platform.devices[index]? with
      | some device => .ok device
      | none => .error (.invalidDevice index platform.deviceCount) := by
  rw [Platform.device, getElem?_devices]
  cases platform.profiles[index]? <;> rfl

theorem openDevice_run {σ : Type} (found : platform.devices[index]? = some device)
    (logged : Logged σ) :
    (platform.openDevice index).run logged =
      (.ok (.fresh device platform.host),
        ⟨logged.state, logged.log.push (.deviceOpened device)⟩) := by
  rw [openDevice, device_eq, found]
  rfl

theorem openDevice_run_of_none {σ : Type} (missing : platform.devices[index]? = none)
    (logged : Logged σ) :
    (platform.openDevice index).run logged =
      (.error (.failure (.invalidDevice index platform.deviceCount)), logged) := by
  rw [openDevice, device_eq, missing]
  rfl

theorem driver_eq_ok (found : platform.devices[index]? = some device) :
    platform.driver index = .ok driverVersion := by
  rw [driver, device_eq, found]
  rfl

theorem units_pos (found : platform.devices[index]? = some device) : 0 < device.units := by
  rw [getElem?_devices] at found
  rcases Option.map_eq_some_iff.mp found with ⟨profile, _, rfl⟩
  exact Nat.le_max_right _ 1

end Platform

theorem StreamConfig.validate_eq_ok {config : StreamConfig} (positive : 0 < config.arraySize) :
    config.validate = .ok () :=
  if_neg (Nat.ne_of_gt positive)

namespace Description

variable (device : Description) {arraySize elementBytes : Nat}

/-- The memory check compares unbounded sizes: a product of two words with three has 128 bits. -/
theorem checkCapacity_eq (isWord : arraySize < Word.bound) (small : elementBytes ≤ 8) :
    device.checkCapacity arraySize elementBytes =
      if device.memory < 3 * arraySize * elementBytes then
        .error (.failure (.insufficientMemory (min (3 * arraySize * elementBytes) Word.greatest)
          device.memory))
      else .ok (3 * arraySize * elementBytes) := by
  have bounded : arraySize * elementBytes ≤ Word.bound * 8 :=
    Nat.mul_le_mul (Nat.le_of_lt isWord) small
  have three : arraySize * elementBytes * 3 = 3 * arraySize * elementBytes := by
    rw [Nat.mul_comm _ 3, Nat.mul_assoc]
  have one : Word.mulWide arraySize elementBytes = .ok (arraySize * elementBytes) := by
    apply if_pos
    simp only [Word.bound] at bounded
    simp only [Word.wideBound]
    omega
  have all : Word.mulWide (arraySize * elementBytes) 3 = .ok (3 * arraySize * elementBytes) := by
    rw [← three]
    apply if_pos
    simp only [Word.bound] at bounded
    simp only [Word.wideBound]
    omega
  simp only [checkCapacity, one, all, Except.mapError, bind, Except.bind]
  split <;> rfl

theorem dotBlocks_eq (positive : 0 < device.units) (few : device.units < 2 ^ 52) :
    device.dotBlocks = .ok (4 * device.units) := by
  rw [Nat.mul_comm, dotBlocks, Bandwidth.dotBlocks, Nat.max_eq_left positive]
  apply Word.mul_eq_ok
  simp only [dotGroupsPerUnit, Word.bound]
  omega

end Description

namespace Ledger

variable {placement : Placement} {bytes : Nat} {ledger : Ledger}

/-- The books with one more buffer. -/
def holding (placement : Placement) (bytes : Nat) (ledger : Ledger) : Ledger :=
  match placement with
  | .resident residency =>
      if residency.usesDeviceMemory then
        { ledger with device := ledger.device + bytes, live := ledger.live + 1 }
      else ledger
  | .pinned => { ledger with pinned := ledger.pinned + bytes, live := ledger.live + 1 }

/-- Whether a booking is covered by the budget, and counted in words. -/
def Room (placement : Placement) (bytes : Nat) (ledger : Ledger) : Prop :=
  ledger.live + 1 < Word.bound ∧
    match placement with
    | .resident residency => residency.usesDeviceMemory = true → bytes ≤ ledger.available
    | .pinned => ledger.pinned + bytes < Word.bound

@[simp]
theorem total_holding (placement : Placement) (bytes : Nat) (ledger : Ledger) :
    (ledger.holding placement bytes).total = ledger.total := by
  rcases placement with (_ | _ | _) | _ <;> rfl

theorem device_holding_le (residency : Residency) (bytes : Nat) (ledger : Ledger) :
    (ledger.holding (.resident residency) bytes).device ≤ ledger.device + bytes := by
  cases residency with
  | hostPagefault => exact Nat.le_add_right _ _
  | _ => exact Nat.le_refl _

theorem live_holding_le (placement : Placement) (bytes : Nat) (ledger : Ledger) :
    (ledger.holding placement bytes).live ≤ ledger.live + 1 := by
  rcases placement with (_ | _ | _) | _
  · exact Nat.le_refl _
  · exact Nat.le_refl _
  · exact Nat.le_add_right _ _
  · exact Nat.le_refl _

theorem room_of_le {residency : Residency} (countable : ledger.live + 1 < Word.bound)
    (covered : ledger.device + bytes ≤ ledger.total) :
    ledger.Room (.resident residency) bytes := by
  refine ⟨countable, fun _ => ?_⟩
  rw [available]
  omega

/-- A budget that covers three arrays has room for each of them in turn. -/
theorem room_of_three (residency : Residency) (countable : ledger.live + 3 < Word.bound)
    (covered : ledger.device + 3 * bytes ≤ ledger.total) :
    ledger.Room (.resident residency) bytes ∧
      (ledger.holding (.resident residency) bytes).Room (.resident residency) bytes ∧
      ((ledger.holding (.resident residency) bytes).holding (.resident residency) bytes).Room
        (.resident residency) bytes := by
  have one_le := device_holding_le residency bytes ledger
  have two_le := device_holding_le residency bytes (ledger.holding (.resident residency) bytes)
  have live_le := live_holding_le (.resident residency) bytes ledger
  have lives_le := live_holding_le (.resident residency) bytes
    (ledger.holding (.resident residency) bytes)
  refine ⟨room_of_le ?_ ?_, room_of_le ?_ ?_, room_of_le ?_ ?_⟩
  · omega
  · omega
  · omega
  · rw [total_holding]
    omega
  · omega
  · rw [total_holding, total_holding]
    omega

theorem book_reservation_run (room : ledger.Room placement bytes) :
    (book (placement.reservation bytes)).run ledger =
      (.ok (), ledger.holding placement bytes) := by
  rcases placement with residency | _
  · cases uses : residency.usesDeviceMemory with
    | true =>
        simp only [Placement.reservation, holding, uses, if_true]
        exact (reserveDevice_run (room.2 uses)).trans (count_run room.1)
    | false =>
        simp only [Placement.reservation, holding, uses, Bool.false_eq_true, if_false]
        rfl
  · exact (reservePinned_run room.2).trans (count_run room.1)

/-- A release undoes the booking that came last. -/
theorem book_release_holding_run (placement : Placement) (bytes : Nat) (ledger : Ledger) :
    (book (placement.release bytes)).run (ledger.holding placement bytes) = (.ok (), ledger) := by
  rcases ledger with ⟨total, device, pinned, live⟩
  rcases placement with (_ | _ | _) | _
  · simp [Placement.release, Residency.usesDeviceMemory, holding, book, enter, releaseDevice]
  · simp [Placement.release, Residency.usesDeviceMemory, holding, book, enter, releaseDevice]
  · rfl
  · simp [Placement.release, holding, book, enter, releasePinned]

/-- The books of a device on which only the buffers of one stream live. -/
def ofStream (total : Nat) (residency : Residency) (arrayBytes sumsBytes : Nat) : Ledger :=
  ((((empty total).holding .pinned sumsBytes).holding (.resident residency) arrayBytes).holding
    (.resident residency) arrayBytes).holding (.resident residency) arrayBytes

theorem ofStream_eq (total : Nat) (residency : Residency) (arrayBytes sumsBytes : Nat) :
    ofStream total residency arrayBytes sumsBytes =
      { total
        device := if residency.usesDeviceMemory then 3 * arrayBytes else 0
        pinned := sumsBytes
        live := if residency.usesDeviceMemory then 4 else 1 } := by
  cases residency <;>
    simp [ofStream, holding, empty, Residency.usesDeviceMemory] <;>
    omega

end Ledger

/-- A device with other books. -/
def Device.booking (device : Device) (ledger : Ledger) : Device := { device with ledger := ledger }

@[simp]
theorem Device.description_fresh (description : Description) (host : Host) :
    (Device.fresh description host).description = description := rfl

namespace Buffer

variable {α : Type} [Element α] {length : Nat}

theorem checkBlock_eq_ok {host : Host} (positive : 0 < length)
    (inAddressSpace : length * Element.bytes α ≤ Word.greatestObject)
    (granted : length * Element.bytes α < host.blockLimit) :
    checkBlock α host length = .ok () := by
  rw [checkBlock, if_neg (Nat.ne_of_gt positive), if_neg (Nat.not_lt.mpr inAddressSpace),
    if_neg (Nat.not_le.mpr granted)]

theorem bytes_zeroed (length : Nat) (placement : Placement) :
    (zeroed length placement : Buffer α).bytes = length * Element.bytes α := by
  rw [bytes, Buffer.length, zeroed, Array.size_replicate]

variable (device : Device) {ledger : Ledger} {placement : Placement}

theorem provide_run_of_room (granted : checkBlock α device.host length = .ok ())
    (room : ledger.Room placement (length * Element.bytes α)) (log : Array Event) :
    (provide length placement).run ⟨device.booking ledger, log⟩ =
      (.ok (zeroed length placement : Buffer α),
        ⟨device.booking (ledger.holding placement (length * Element.bytes α)), log⟩) := by
  apply provide_run
  · exact granted
  · exact Ledger.book_reservation_run room

theorem allocate_run_of_room {residency : Residency}
    (granted : checkBlock α device.host length = .ok ())
    (room : ledger.Room (.resident residency) (length * Element.bytes α)) (log : Array Event) :
    ∃ told, (allocate length residency).run ⟨device.booking ledger, log⟩ =
      (.ok (zeroed length (.resident residency) : Buffer α),
        ⟨device.booking (ledger.holding (.resident residency) (length * Element.bytes α)), told⟩) :=
  ⟨_, allocate_run (provide_run_of_room device granted room log)⟩

theorem free_zeroed_run (length : Nat) (placement : Placement) (ledger : Ledger)
    (log : Array Event) :
    (zeroed length placement : Buffer α).free.run
        ⟨device.booking (ledger.holding placement (length * Element.bytes α)), log⟩ =
      (.ok (), ⟨device.booking ledger, log⟩) := by
  apply free_run
  rw [bytes_zeroed]
  exact Ledger.book_release_holding_run placement _ ledger

end Buffer

/-- What a platform has to offer for three arrays of a length, by sizes alone: one of its devices, or
the reason why there is none. -/
def Platform.offer (platform : Platform) (arraySize index elementBytes : Nat) :
    Except Failure Description :=
  if arraySize = 0 then
    .error (.invalidConfig .emptyArrays)
  else
    match platform.devices[index]? with
    | none => .error (.invalidDevice index platform.deviceCount)
    | some device =>
        if device.memory < 3 * arraySize * elementBytes then
          .error (.insufficientMemory (min (3 * arraySize * elementBytes) (2 ^ 64 - 1))
            device.memory)
        else .ok device

theorem Platform.of_offer_eq_ok {platform : Platform} {arraySize index elementBytes : Nat}
    {device : Description} (offered : platform.offer arraySize index elementBytes = .ok device) :
    0 < arraySize ∧ platform.devices[index]? = some device ∧
      3 * arraySize * elementBytes ≤ device.memory := by
  unfold offer at offered
  split at offered
  · cases offered
  · rename_i nonempty
    split at offered
    · cases offered
    · rename_i found
      split at offered
      · cases offered
      · rename_i covered
        cases offered
        exact ⟨Nat.pos_of_ne_zero nonempty, found, Nat.not_lt.mp covered⟩

/-- What a platform is assumed to be like: sizes are words, a device has not too many units, and the
host grants the blocks of a stream that fits on its device. -/
structure Platform.Serves (α : Type) [Element α] (platform : Platform)
    (config : StreamConfig) : Prop where
  isWord : config.arraySize < 2 ^ 64
  memory_isWord : ∀ device, platform.devices[config.deviceIndex]? = some device →
    device.memory < 2 ^ 64
  units_lt : ∀ device, platform.devices[config.deviceIndex]? = some device → device.units < 2 ^ 52
  arrays_granted : ∀ device, platform.devices[config.deviceIndex]? = some device →
    3 * config.arraySize * Element.bytes α ≤ device.memory →
      config.arraySize * Element.bytes α < platform.host.blockLimit
  sums_granted : ∀ device, platform.devices[config.deviceIndex]? = some device →
    4 * max device.units 1 * Element.bytes α < platform.host.blockLimit

section Grants

variable {α : Type} [Element α] {platform : Platform} {config : StreamConfig}
  {device : Description}

/-- An array that fits on its device does not leave the address space: a third of a word is less
than half of it. -/
theorem Platform.Serves.arrays_checked (serves : platform.Serves α config)
    (positive : 0 < config.arraySize) (found : platform.devices[config.deviceIndex]? = some device)
    (covered : 3 * config.arraySize * Element.bytes α ≤ device.memory) :
    Buffer.checkBlock α platform.host config.arraySize = .ok () := by
  have memory_lt := serves.memory_isWord device found
  have granted := serves.arrays_granted device found covered
  refine Buffer.checkBlock_eq_ok positive ?_ granted
  rw [Nat.mul_assoc] at covered
  simp only [Word.greatestObject]
  omega

theorem Platform.Serves.sums_checked (serves : platform.Serves α config)
    (found : platform.devices[config.deviceIndex]? = some device) :
    Buffer.checkBlock α platform.host (4 * device.units) = .ok () ∧
      4 * device.units * Element.bytes α < Word.bound := by
  have units_lt := serves.units_lt device found
  have units_pos := Platform.units_pos found
  have granted := serves.sums_granted device found
  rw [Nat.max_eq_left units_pos] at granted
  have small : 4 * device.units * Element.bytes α ≤ 4 * device.units * 8 :=
    Nat.mul_le_mul_left _ (Element.bytes_le α)
  constructor
  · refine Buffer.checkBlock_eq_ok (by omega) ?_ granted
    simp only [Word.greatestObject]
    omega
  · simp only [Word.bound]
    omega

end Grants

namespace Stream

variable {α : Type} [Element α]

/-- A stream on a device that was opened for it. -/
structure Created (device : Description) (host : Host) (config : StreamConfig)
    (stream : Stream α) : Prop where
  description_eq : stream.device.description = device
  isIdle : stream.device.isIdle = true
  launches_eq : stream.device.launches = 0
  arraySize_eq : stream.arraySize = config.arraySize
  residency_eq : stream.residency = config.residency
  blocks_eq : stream.blocks = 4 * max device.units 1
  sums_length : stream.sums.length = stream.blocks
  ledger_eq : stream.device.ledger =
    { total := device.memory
      device :=
        if config.residency = .hostPagefault then 0
        else 3 * config.arraySize * Element.bytes α
      pinned := stream.blocks * Element.bytes α
      live := if config.residency = .hostPagefault then 1 else 4 }
  /-- Without its buffers the stream leaves the device as it was opened. -/
  released : ∀ log, ∃ after, release.run ⟨stream, log⟩ = (.ok (), ⟨after, log⟩) ∧
    after.device = .fresh device host

theorem closingOnFailure_run {σ β : Type} {device last : Device} {action : Action Device β}
    {value : β} {log told : Array Event} (state : σ)
    (ran : action.run ⟨device, log⟩ = (.ok value, ⟨last, told⟩)) :
    (closingOnFailure device action).run ⟨state, log⟩ = (.ok (value, last), ⟨state, told⟩) := by
  simp only [Procedure.run] at ran ⊢
  simp only [closingOnFailure, ran]

theorem closingOnFailure_run_of_error {σ β : Type} {device : Device} {action : Action Device β}
    {reason : Abort} {log : Array Event} {after : Logged Device} (state : σ)
    (stopped : action.run ⟨device, log⟩ = (.error reason, after)) :
    ∃ told, (closingOnFailure device action).run ⟨state, log⟩ = (.error reason, ⟨state, told⟩) := by
  simp only [Procedure.run] at stopped ⊢
  simp only [closingOnFailure, stopped]
  exact ⟨_, rfl⟩

section Allocation

variable {platform : Platform} {device : Description} {host : Host} {arraySize index : Nat}

/-- On a fresh device a budget for three arrays suffices, whether or not they count against it. -/
theorem allocateBuffers_run {required blocks : Nat}
    (driven : platform.driver index = .ok driverVersion)
    (capacity : device.checkCapacity arraySize (Element.bytes α) = .ok required)
    (gridded : device.dotBlocks = .ok blocks)
    (sumsGranted : Buffer.checkBlock α host blocks = .ok ())
    (arraysGranted : Buffer.checkBlock α host arraySize = .ok ())
    (counted : blocks * Element.bytes α < Word.bound)
    (covered : 3 * (arraySize * Element.bytes α) ≤ device.memory)
    (residency : Residency) (log : Array Event) :
    ∃ told, (allocateBuffers platform arraySize index residency).run ⟨.fresh device host, log⟩ =
      (.ok (blocks, ⟨.zeroed arraySize (.resident residency),
          .zeroed arraySize (.resident residency), .zeroed arraySize (.resident residency)⟩,
          (.zeroed blocks .pinned : Buffer α)),
        ⟨(Device.fresh device host).booking (.ofStream device.memory residency
          (arraySize * Element.bytes α) (blocks * Element.bytes α)), told⟩) := by
  let opened := Device.fresh device host
  let empty := Ledger.empty device.memory
  let pinned := empty.holding .pinned (blocks * Element.bytes α)
  let described := ((log.push (.deviceChosen device.name)).push (.driverFound driverVersion)).push
    (.residencyChosen residency)
  have roomSums : empty.Room .pinned (blocks * Element.bytes α) := by
    refine ⟨(by decide : 0 + 1 < Word.bound), ?_⟩
    simpa [empty, Ledger.empty] using counted
  have countable : pinned.live + 3 < Word.bound := (by decide : 1 + 3 < Word.bound)
  have budget : pinned.device + 3 * (arraySize * Element.bytes α) ≤ pinned.total := by
    simpa [pinned, empty, Ledger.holding, Ledger.empty] using covered
  rcases Ledger.room_of_three residency countable budget with ⟨roomA, roomB, roomC⟩
  have sumsRan : (Buffer.provide blocks .pinned).run ⟨opened, described⟩ =
      (.ok (.zeroed blocks .pinned : Buffer α), ⟨opened.booking pinned, described⟩) :=
    Buffer.provide_run_of_room opened sumsGranted roomSums described
  rcases Buffer.allocate_run_of_room opened arraysGranted roomA described with ⟨toldA, ranA⟩
  rcases Buffer.allocate_run_of_room opened arraysGranted roomB toldA with ⟨toldB, ranB⟩
  rcases Buffer.allocate_run_of_room opened arraysGranted roomC toldB with ⟨toldC, ranC⟩
  refine ⟨toldC.push (.streamReady arraySize (Element.precision α) required blocks), ?_⟩
  rw [allocateBuffers, Action.get_bind_run, Action.emit_bind_run, driven, Action.check_ok,
    pure_bind, Action.emit_bind_run, Action.emit_bind_run]
  simp only [Device.description_fresh, capacity, Procedure.ofExcept_ok, gridded,
    Action.checked_ok, pure_bind, Buffer.pin]
  rw [Procedure.bind_run_of_ok sumsRan, Procedure.bind_run_of_ok ranA,
    Procedure.bind_run_of_ok ranB, Procedure.bind_run_of_ok ranC]
  rfl

theorem allocateBuffers_run_of_short {reason : Abort}
    (driven : platform.driver index = .ok driverVersion)
    (short : device.checkCapacity arraySize (Element.bytes α) = .error reason)
    (host : Host) (residency : Residency) (log : Array Event) :
    ∃ told, (allocateBuffers platform arraySize index residency :
        Action Device (Nat × Triple (Buffer α) × Buffer α)).run ⟨.fresh device host, log⟩ =
      (.error reason, ⟨.fresh device host, told⟩) := by
  rw [allocateBuffers, Action.get_bind_run, Action.emit_bind_run, driven, Action.check_ok,
    pure_bind, Action.emit_bind_run, Action.emit_bind_run]
  simp only [Device.description_fresh, short]
  exact ⟨_, rfl⟩

end Allocation

/-- The stream that is created on a device: its arrays and partial sums are zeroed and booked. -/
def onFresh (device : Description) (host : Host) (arraySize : Nat) (residency : Residency)
    (blocks : Nat) : Stream α where
  device := (Device.fresh device host).booking (.ofStream device.memory residency
    (arraySize * Element.bytes α) (blocks * Element.bytes α))
  arraySize := arraySize
  residency := residency
  blocks := blocks
  arrays := ⟨.zeroed arraySize (.resident residency), .zeroed arraySize (.resident residency),
    .zeroed arraySize (.resident residency)⟩
  sums := .zeroed blocks .pinned

section Release

variable {device : Description} {host : Host} {arraySize blocks : Nat} {residency : Residency}

theorem release_run (log : Array Event) :
    ∃ after, release.run ⟨(onFresh device host arraySize residency blocks : Stream α), log⟩ =
        (.ok (), ⟨after, log⟩) ∧ after.device = .fresh device host := by
  let opened := Device.fresh device host
  refine ⟨{ (onFresh device host arraySize residency blocks : Stream α) with
    device := opened.booking (.empty device.memory) }, ?_, rfl⟩
  have freeArray := @Buffer.free_zeroed_run α _ opened arraySize (.resident residency)
  have freeSums := @Buffer.free_zeroed_run α _ opened blocks .pinned (.empty device.memory) log
  rw [release, Action.get_bind_run]
  rw [Procedure.bind_run_of_ok (onDevice_run (freeArray _ log))]
  rw [Procedure.bind_run_of_ok (onDevice_run (freeArray _ log))]
  rw [Procedure.bind_run_of_ok (onDevice_run (freeArray _ log))]
  exact onDevice_run freeSums

end Release

section Creation

variable {σ : Type} {platform : Platform} {config : StreamConfig} {device : Description}
  (start : Logged σ)

theorem create_run_of_empty (empty : config.arraySize = 0) :
    (create platform config : Action σ (Stream α)).run start =
      (.error (.failure (.invalidConfig .emptyArrays)), start) := by
  rw [create, StreamConfig.validate, if_pos empty]
  rfl

theorem create_run_of_missing (positive : 0 < config.arraySize)
    (missing : platform.devices[config.deviceIndex]? = none) :
    (create platform config : Action σ (Stream α)).run start =
      (.error (.failure (.invalidDevice config.deviceIndex platform.deviceCount)), start) := by
  rw [create, StreamConfig.validate_eq_ok positive, Action.check_ok, pure_bind]
  exact Procedure.bind_run_of_error (Platform.openDevice_run_of_none missing start) _

theorem create_run_of_short {failure : Failure} (positive : 0 < config.arraySize)
    (found : platform.devices[config.deviceIndex]? = some device)
    (short : device.checkCapacity config.arraySize (Element.bytes α) = .error (.failure failure)) :
    ∃ log, (create platform config : Action σ (Stream α)).run start =
      (.error (.failure failure), ⟨start.state, log⟩) := by
  rcases allocateBuffers_run_of_short (Platform.driver_eq_ok found) short platform.host
    config.residency (start.log.push (.deviceOpened device)) with ⟨_, stopped⟩
  rcases closingOnFailure_run_of_error start.state stopped with ⟨log, closed⟩
  refine ⟨log, ?_⟩
  rw [create, StreamConfig.validate_eq_ok positive, Action.check_ok, pure_bind,
    Procedure.bind_run_of_ok (Platform.openDevice_run found start)]
  exact Procedure.bind_run_of_error closed _

theorem create_run {required blocks : Nat} (positive : 0 < config.arraySize)
    (found : platform.devices[config.deviceIndex]? = some device)
    (capacity : device.checkCapacity config.arraySize (Element.bytes α) = .ok required)
    (gridded : device.dotBlocks = .ok blocks)
    (sumsGranted : Buffer.checkBlock α platform.host blocks = .ok ())
    (arraysGranted : Buffer.checkBlock α platform.host config.arraySize = .ok ())
    (counted : blocks * Element.bytes α < Word.bound)
    (covered : 3 * (config.arraySize * Element.bytes α) ≤ device.memory) :
    ∃ log, (create platform config : Action σ (Stream α)).run start =
      (.ok (onFresh device platform.host config.arraySize config.residency blocks),
        ⟨start.state, log⟩) := by
  rcases allocateBuffers_run (Platform.driver_eq_ok found) capacity gridded sumsGranted
    arraysGranted counted covered config.residency (start.log.push (.deviceOpened device)) with
    ⟨log, allocated⟩
  refine ⟨log, ?_⟩
  rw [create, StreamConfig.validate_eq_ok positive, Action.check_ok, pure_bind,
    Procedure.bind_run_of_ok (Platform.openDevice_run found start),
    Procedure.bind_run_of_ok (closingOnFailure_run start.state allocated)]
  rfl

end Creation

theorem created_onFresh {platform : Platform} {config : StreamConfig} {device : Description}
    (found : platform.devices[config.deviceIndex]? = some device) :
    Created device platform.host config (onFresh device platform.host config.arraySize
      config.residency (4 * device.units) : Stream α) where
  description_eq := rfl
  isIdle := rfl
  launches_eq := rfl
  arraySize_eq := rfl
  residency_eq := rfl
  blocks_eq := by
    rw [Nat.max_eq_left (Platform.units_pos found)]
    rfl
  sums_length := Array.size_replicate
  ledger_eq := by
    simp only [onFresh, Device.booking, Ledger.ofStream_eq, Nat.mul_assoc]
    cases config.residency <;> rfl
  released := release_run

/-- Whether a stream is created is decided by sizes alone, in one order and for every residency: a
platform that offers no device refuses for the reason it gives, and one that offers a device always
creates a stream on it, with the books that belong to it. -/
theorem create_decided {σ : Type} {platform : Platform} {config : StreamConfig}
    (serves : platform.Serves α config) (start : Logged σ) :
    (∀ failure,
      platform.offer config.arraySize config.deviceIndex (Element.bytes α) = .error failure →
        ∃ log, (create platform config : Action σ (Stream α)).run start =
          (.error (.failure failure), ⟨start.state, log⟩)) ∧
    ∀ device,
      platform.offer config.arraySize config.deviceIndex (Element.bytes α) = .ok device →
        ∃ stream log, (create platform config : Action σ (Stream α)).run start =
            (.ok stream, ⟨start.state, log⟩) ∧
          platform.devices[config.deviceIndex]? = some device ∧
          Created device platform.host config stream := by
  constructor
  · intro failure refused
    unfold Platform.offer at refused
    split at refused
    · rename_i empty
      rcases Except.error.inj refused with rfl
      exact ⟨start.log, create_run_of_empty start empty⟩
    · rename_i nonempty
      have positive : 0 < config.arraySize := Nat.pos_of_ne_zero nonempty
      split at refused
      · rename_i missing
        rcases Except.error.inj refused with rfl
        exact ⟨start.log, create_run_of_missing start positive missing⟩
      · rename_i device found
        split at refused
        · rename_i short
          rcases Except.error.inj refused with rfl
          apply create_run_of_short start positive found
          rw [Description.checkCapacity_eq device serves.isWord (Element.bytes_le α), if_pos short]
          rfl
        · cases refused
  · intro device offered
    rcases Platform.of_offer_eq_ok offered with ⟨positive, found, covered⟩
    have three : 3 * (config.arraySize * Element.bytes α) ≤ device.memory := by
      rwa [← Nat.mul_assoc]
    have units_pos := Platform.units_pos found
    have capacity : device.checkCapacity config.arraySize (Element.bytes α) =
        .ok (3 * config.arraySize * Element.bytes α) := by
      rw [Description.checkCapacity_eq device serves.isWord (Element.bytes_le α),
        if_neg (Nat.not_lt.mpr covered)]
    have gridded := device.dotBlocks_eq units_pos (serves.units_lt device found)
    rcases serves.sums_checked found with ⟨sums, counted⟩
    rcases create_run start positive found capacity gridded sums
      (serves.arrays_checked positive found covered) counted three with ⟨log, created⟩
    exact ⟨_, log, created, found, created_onFresh found⟩

/-- Three arrays of five elements fill the memory of a device to the last byte, and six elements are
too many, also where arrays are not booked on the device. -/
theorem five_elements_fit_and_six_do_not :
    let pair : Platform := ⟨[⟨"pair", 2, 60⟩], .standard⟩
    (∀ arraySize, arraySize ≤ 6 → pair.Serves Float32 ⟨arraySize, 0, .hostPagefault⟩) ∧
      (∃ (stream : Stream Float32) (log : Array Event),
        (create pair ⟨5, 0, .hostPagefault⟩).run (⟨(), #[]⟩ : Logged Unit) =
            (.ok stream, ⟨(), log⟩) ∧
          stream.blocks = 8 ∧ stream.device.ledger = ⟨60, 0, 32, 1⟩) ∧
      ∃ log, (create pair ⟨6, 0, .hostPagefault⟩ : Action Unit (Stream Float32)).run ⟨(), #[]⟩ =
        (.error (.failure (.insufficientMemory 72 60)), ⟨(), log⟩) := by
  intro pair
  have only : ∀ device, pair.devices[0]? = some device → device = ⟨0, "pair", 2, 60⟩ :=
    fun _ found => (Option.some.inj found).symm
  have serves : ∀ arraySize, arraySize ≤ 6 →
      pair.Serves Float32 ⟨arraySize, 0, .hostPagefault⟩ := by
    intro arraySize few
    have bytes : Element.bytes Float32 = 4 := rfl
    have limit : pair.host.blockLimit = 34359738368 := rfl
    constructor
    · dsimp only
      omega
    · intro device found
      rw [only device found]
      decide
    · intro device found
      rw [only device found]
      decide
    · intro device found _
      rw [bytes, limit]
      dsimp only
      omega
    · intro device found
      rw [only device found]
      decide
  refine ⟨serves, ?_, ?_⟩
  · rcases (create_decided (serves 5 (by decide)) (⟨(), #[]⟩ : Logged Unit)).2
      ⟨0, "pair", 2, 60⟩ rfl with ⟨stream, log, created, -, made⟩
    refine ⟨stream, log, created, made.blocks_eq, ?_⟩
    rw [made.ledger_eq, made.blocks_eq]
    rfl
  · exact (create_decided (serves 6 (by decide)) (⟨(), #[]⟩ : Logged Unit)).1
      (.insufficientMemory 72 60) rfl

end Stream

end Bandwidth
