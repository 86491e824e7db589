import Bandwidth.Proofs.Machine.Parts
import Mathlib.Algebra.BigOperators.Group.List.Basic
import Mathlib.Algebra.GroupWithZero.Nat
import Mathlib.Algebra.Order.BigOperators.Group.List
import Mathlib.Algebra.Order.Group.Nat

/-!
# Exact books

Books are exact for a device if the device memory in use is that of the live arrays that were
allocated on this device and count against it, and the pinned memory that of its live pinned buffers.
They stay exact when a buffer is booked and when one is released, and what is released they hold, so
that it is never cut off at zero.

A buffer that comes is put before the live ones, and a buffer that goes was one of them. The order
does not matter to sums and counts, so the live buffers are compared up to a permutation.
-/

namespace Bandwidth

def Placement.usesDeviceMemory : Placement → Bool
  | resident residency => residency.usesDeviceMemory
  | pinned => false

namespace Outline

def bytes (α : Type) [Element α] (outline : Outline) : Nat :=
  outline.length * Element.bytes α

/-- The bytes of all buffers of a list. -/
def totalBytes (α : Type) [Element α] (outlines : List Outline) : Nat :=
  (outlines.map (bytes α)).sum

/-- The arrays that count against the memory of a device. -/
def arraysOn (position : Nat) (outlines : List Outline) : List Outline :=
  outlines.filter fun outline => outline.owner == position && outline.placement.usesDeviceMemory

def pinnedOn (position : Nat) (outlines : List Outline) : List Outline :=
  outlines.filter fun outline => outline.owner == position && outline.placement == .pinned

variable {α : Type} [Element α] {outline : Outline} {outlines others : List Outline}
  {position length : Nat}

theorem bytes_mk (owner : Nat) (placement : Placement) (length : Nat) :
    bytes α ⟨owner, placement, length⟩ = length * Element.bytes α := rfl

@[simp]
theorem totalBytes_cons :
    totalBytes α (outline :: outlines) = outline.bytes α + totalBytes α outlines := by
  simp [totalBytes]

theorem totalBytes_perm (same : outlines.Perm others) :
    totalBytes α outlines = totalBytes α others :=
  (same.map _).sum_eq

theorem totalBytes_sublist (part : outlines.Sublist others) :
    totalBytes α outlines ≤ totalBytes α others :=
  (part.map _).sum_le_sum fun _ _ => Nat.zero_le _

end Outline

namespace Ledger

open Outline

variable {α : Type} [Element α] {ledger after : Ledger} {position length : Nat}
  {placement : Placement} {outline : Outline} {live others : List Outline}

variable (α) in
/-- Books that show what the live buffers of a device take. -/
structure Exact (ledger : Ledger) (position : Nat) (live : List Outline) : Prop where
  device : ledger.device = totalBytes α (arraysOn position live)
  pinned : ledger.pinned = totalBytes α (pinnedOn position live)
  live : ledger.live = (arraysOn position live).length + (pinnedOn position live).length
  within : ledger.device ≤ ledger.total

/-- Whether the books hold what an entry takes out of them. -/
def Covers (ledger : Ledger) : Option Entry → Prop
  | some (.releaseDevice bytes) => bytes ≤ ledger.device ∧ 1 ≤ ledger.live
  | some (.releasePinned bytes) => bytes ≤ ledger.pinned ∧ 1 ≤ ledger.live
  | _ => True

theorem Exact.perm (exact : ledger.Exact α position live) (same : live.Perm others) :
    ledger.Exact α position others where
  device := exact.device.trans (totalBytes_perm (same.filter _))
  pinned := exact.pinned.trans (totalBytes_perm (same.filter _))
  live := by
    rw [exact.live, arraysOn, pinnedOn, (same.filter _).length_eq, (same.filter _).length_eq]
    rfl
  within := exact.within

/-- Empty books are exact for a device of which no buffer lives. -/
theorem exact_empty (total : Nat) (none : ∀ outline ∈ live, outline.owner ≠ position) :
    (empty total).Exact α position live := by
  have arrays : arraysOn position live = [] := by
    rw [arraysOn, List.filter_eq_nil_iff]
    intro outline mem
    simp [none outline mem]
  have pinned : pinnedOn position live = [] := by
    rw [pinnedOn, List.filter_eq_nil_iff]
    intro outline mem
    simp [none outline mem]
  exact ⟨by rw [arrays]; rfl, by rw [pinned]; rfl, by rw [arrays, pinned]; rfl, Nat.zero_le _⟩

theorem Exact.congr (exact : ledger.Exact α position live)
    (arrays : arraysOn position others = arraysOn position live)
    (pinned : pinnedOn position others = pinnedOn position live) :
    ledger.Exact α position others :=
  ⟨by rw [arrays, exact.device], by rw [pinned, exact.pinned], by rw [arrays, pinned, exact.live],
    exact.within⟩

/-- A buffer of another device does not matter to the books. -/
theorem exact_cons_iff_of_other (other : outline.owner ≠ position) :
    ledger.Exact α position (outline :: live) ↔ ledger.Exact α position live := by
  have arrays : arraysOn position (outline :: live) = arraysOn position live := by
    simp [arraysOn, other]
  have pinned : pinnedOn position (outline :: live) = pinnedOn position live := by
    simp [pinnedOn, other]
  exact ⟨fun exact => exact.congr arrays.symm pinned.symm, fun exact => exact.congr arrays pinned⟩

/-- No array that counts against device memory is pinned. -/
theorem Exact.live_le (exact : ledger.Exact α position live) : ledger.live ≤ live.length := by
  rw [exact.live, arraysOn, pinnedOn, ← List.countP_eq_length_filter,
    ← List.countP_eq_length_filter, List.length_eq_countP_add_countP
      fun outline : Outline => outline.owner == position && outline.placement.usesDeviceMemory]
  refine Nat.add_le_add_left (List.countP_mono_left fun outline _ isPinned => ?_) _
  have placed : outline.placement = .pinned := by simp_all
  simp [placed, Placement.usesDeviceMemory]

/-- The parts of the live buffers that a buffer of the device belongs to. -/
theorem parts_cons (position : Nat) (placement : Placement) (length : Nat) (live : List Outline) :
    (arraysOn position (⟨position, placement, length⟩ :: live) =
        if placement.usesDeviceMemory then ⟨position, placement, length⟩ :: arraysOn position live
        else arraysOn position live) ∧
      (pinnedOn position (⟨position, placement, length⟩ :: live) =
        if placement = .pinned then ⟨position, placement, length⟩ :: pinnedOn position live
        else pinnedOn position live) := by
  simp [arraysOn, pinnedOn, List.filter_cons]

/-- The entries that book a buffer and take it out again, by where the buffer is. -/
theorem book_cases (placement : Placement) (bytes : Nat) :
    (placement.usesDeviceMemory = true ∧ placement ≠ .pinned ∧
        placement.reservation bytes = some (.reserveDevice bytes) ∧
        placement.release bytes = some (.releaseDevice bytes)) ∨
      (placement = .pinned ∧ placement.reservation bytes = some (.reservePinned bytes) ∧
        placement.release bytes = some (.releasePinned bytes)) ∨
      (placement.usesDeviceMemory = false ∧ placement ≠ .pinned ∧
        placement.reservation bytes = none ∧ placement.release bytes = none) := by
  rcases placement with (_ | _ | _) | _ <;>
    simp [Placement.usesDeviceMemory, Placement.reservation, Placement.release,
      Residency.usesDeviceMemory]

/-- Device memory is refused exactly if the budget does not cover it, for as long as live
allocations can be counted. -/
theorem book_resident_fails_iff {residency : Residency} {bytes : Nat}
    (room : ledger.live + 1 < Word.bound) :
    (∃ reason after, (book ((Placement.resident residency).reservation bytes)).run ledger =
        (.error reason, after)) ↔
      residency.usesDeviceMemory = true ∧ ledger.available < bytes := by
  cases uses : residency.usesDeviceMemory with
  | false => simp [Placement.reservation, uses, book]
  | true =>
      simp only [Placement.reservation, uses, if_true, book, enter, true_and]
      by_cases covered : bytes ≤ ledger.available
      · simp [reserveDevice_run covered, count_run, room, covered]
      · have short := Nat.not_le.mp covered
        simp [reserveDevice_run_of_short short, short]

theorem Exact.reserve (exact : ledger.Exact α position live)
    (booked : (book (placement.reservation (length * Element.bytes α))).run ledger =
      (.ok (), after)) :
    after.Exact α position (⟨position, placement, length⟩ :: live) ∧
      after.total = ledger.total := by
  rcases parts_cons position placement length live with ⟨arrays, pinned⟩
  rcases book_cases placement (length * Element.bytes α) with
    ⟨uses, notPinned, reserves, -⟩ | ⟨rfl, reserves, -⟩ | ⟨uses, notPinned, reserves, -⟩
  · rw [reserves] at booked
    rcases of_reserveDevice_run_ok booked with ⟨covered, -, rfl⟩
    rw [if_pos uses] at arrays
    rw [if_neg notPinned] at pinned
    have within := exact.within
    rw [available] at covered
    refine ⟨⟨?_, ?_, ?_, ?_⟩, rfl⟩
    · rw [arrays, totalBytes_cons, ← exact.device, bytes_mk, Nat.add_comm]
    · rw [pinned, ← exact.pinned]
    · rw [arrays, pinned, List.length_cons, Nat.add_right_comm, ← exact.live]
    · simp only
      omega
  · rw [reserves] at booked
    rcases of_reservePinned_run_ok booked with ⟨-, -, rfl⟩
    rw [if_neg (by decide)] at arrays
    rw [if_pos rfl] at pinned
    refine ⟨⟨?_, ?_, ?_, exact.within⟩, rfl⟩
    · rw [arrays, ← exact.device]
    · rw [pinned, totalBytes_cons, ← exact.pinned, bytes_mk, Nat.add_comm]
    · rw [arrays, pinned, List.length_cons, ← Nat.add_assoc, ← exact.live]
  · rw [reserves] at booked
    rcases Prod.mk.inj booked with ⟨-, rfl⟩
    rw [if_neg (by simp [uses])] at arrays
    rw [if_neg notPinned] at pinned
    exact ⟨exact.congr arrays pinned, rfl⟩

/-- Books that show a buffer hold what its release takes out. -/
theorem Exact.covers (exact : ledger.Exact α position (⟨position, placement, length⟩ :: live)) :
    ledger.Covers (placement.release (length * Element.bytes α)) := by
  rcases parts_cons position placement length live with ⟨arrays, pinned⟩
  have deviceEq := exact.device
  have pinnedEq := exact.pinned
  have liveEq := exact.live
  rcases book_cases placement (length * Element.bytes α) with
    ⟨uses, notPinned, -, releases⟩ | ⟨rfl, -, releases⟩ | ⟨uses, notPinned, -, releases⟩
  · rw [if_pos uses] at arrays
    rw [arrays, totalBytes_cons, bytes_mk] at deviceEq
    rw [arrays, List.length_cons] at liveEq
    rw [releases]
    exact ⟨by omega, by omega⟩
  · rw [if_pos rfl] at pinned
    rw [pinned, totalBytes_cons, bytes_mk] at pinnedEq
    rw [pinned, List.length_cons] at liveEq
    rw [releases]
    exact ⟨by omega, by omega⟩
  · rw [releases]
    trivial

theorem Exact.release (exact : ledger.Exact α position (⟨position, placement, length⟩ :: live))
    (booked : (book (placement.release (length * Element.bytes α))).run ledger = (.ok (), after)) :
    after.Exact α position live ∧ after.total = ledger.total := by
  rcases parts_cons position placement length live with ⟨arrays, pinned⟩
  have deviceEq := exact.device
  have pinnedEq := exact.pinned
  have liveEq := exact.live
  have within := exact.within
  rcases book_cases placement (length * Element.bytes α) with
    ⟨uses, notPinned, -, releases⟩ | ⟨rfl, -, releases⟩ | ⟨uses, notPinned, -, releases⟩
  · rw [releases] at booked
    rcases Prod.mk.inj booked with ⟨-, rfl⟩
    rw [if_pos uses] at arrays
    rw [if_neg notPinned] at pinned
    rw [arrays, totalBytes_cons, bytes_mk] at deviceEq
    rw [pinned] at pinnedEq
    rw [arrays, pinned, List.length_cons] at liveEq
    refine ⟨⟨?_, ?_, ?_, ?_⟩, rfl⟩ <;> simp only [releaseDevice] <;> omega
  · rw [releases] at booked
    rcases Prod.mk.inj booked with ⟨-, rfl⟩
    rw [if_neg (by decide)] at arrays
    rw [if_pos rfl] at pinned
    rw [arrays] at deviceEq
    rw [pinned, totalBytes_cons, bytes_mk] at pinnedEq
    rw [arrays, pinned, List.length_cons] at liveEq
    refine ⟨⟨?_, ?_, ?_, ?_⟩, rfl⟩ <;> simp only [releasePinned] <;> omega
  · rw [releases] at booked
    rcases Prod.mk.inj booked with ⟨-, rfl⟩
    rw [if_neg (by simp [uses])] at arrays
    rw [if_neg notPinned] at pinned
    exact ⟨exact.congr arrays.symm pinned.symm, rfl⟩

end Ledger

end Bandwidth
