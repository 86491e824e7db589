import Bandwidth.Procedure
import Bandwidth.Word

/-!
# The memory ledger of a device

A device books the buffers that were allocated on it. Device memory is a budget: a reservation that is not covered is
refused and leaves the books as they were. Pinned host memory is only counted. Releases are never refused; a release
that matches no reservation stops at zero.

A reservation books its bytes first and is counted then. If the number of live allocations is at its end, the count
faults and the bytes stay booked.
-/

namespace Bandwidth

structure Ledger where
  total : Nat
  /-- The bytes of device memory in use. -/
  device : Nat
  pinned : Nat
  /-- The number of reservations that were not released. -/
  live : Nat
  deriving DecidableEq, Repr

namespace Ledger

def empty (total : Nat) : Ledger := ⟨total, 0, 0, 0⟩

def available (ledger : Ledger) : Nat := ledger.total - ledger.device

/-- Counts one more live allocation; a number that is no word is a fault. -/
def count : Procedure Abort Ledger Unit := do
  let ledger ← Procedure.get
  let live ← Procedure.ofExcept ((Word.add ledger.live 1).mapError .fault)
  Procedure.modify fun ledger => { ledger with live := live }

/-- Books device memory, if the budget covers it. What the budget covers is a word, as the budget is. -/
def reserveDevice (bytes : Nat) : Procedure Abort Ledger Unit := do
  let ledger ← Procedure.get
  if ledger.available < bytes then
    Procedure.stop (.failure (.deviceOperation (.outOfMemory bytes ledger.available)))
  else
    Procedure.modify fun ledger => { ledger with device := ledger.device + bytes }
    count

/-- Books pinned host memory; a sum that is no word is a fault. -/
def reservePinned (bytes : Nat) : Procedure Abort Ledger Unit := do
  let ledger ← Procedure.get
  let pinned ← Procedure.ofExcept ((Word.add ledger.pinned bytes).mapError .fault)
  Procedure.modify fun ledger => { ledger with pinned := pinned }
  count

def releaseDevice (ledger : Ledger) (bytes : Nat) : Ledger :=
  { ledger with device := ledger.device - bytes, live := ledger.live - 1 }

def releasePinned (ledger : Ledger) (bytes : Nat) : Ledger :=
  { ledger with pinned := ledger.pinned - bytes, live := ledger.live - 1 }

inductive Entry where
  | reserveDevice (bytes : Nat)
  | releaseDevice (bytes : Nat)
  | reservePinned (bytes : Nat)
  | releasePinned (bytes : Nat)
  deriving DecidableEq, Repr

def enter : Entry → Procedure Abort Ledger Unit
  | .reserveDevice bytes => reserveDevice bytes
  | .releaseDevice bytes => Procedure.modify (·.releaseDevice bytes)
  | .reservePinned bytes => reservePinned bytes
  | .releasePinned bytes => Procedure.modify (·.releasePinned bytes)

variable {ledger : Ledger} {bytes : Nat}

theorem count_run (room : ledger.live + 1 < Word.bound) :
    count.run ledger = (.ok (), { ledger with live := ledger.live + 1 }) := by
  rw [count, Procedure.get_bind_run, Word.add_eq_ok room]
  rfl

theorem count_run_of_full (full : ¬ledger.live + 1 < Word.bound) :
    count.run ledger = (.error (.fault .addOverflow), ledger) := by
  rw [count, Procedure.get_bind_run, Word.add, if_neg full]
  rfl

theorem reserveDevice_run (covered : bytes ≤ ledger.available) :
    (reserveDevice bytes).run ledger =
      count.run { ledger with device := ledger.device + bytes } := by
  rw [reserveDevice, Procedure.get_bind_run, if_neg (Nat.not_lt.mpr covered),
    Procedure.modify_bind_run]

theorem reserveDevice_run_of_short (short : ledger.available < bytes) :
    (reserveDevice bytes).run ledger =
      (.error (.failure (.deviceOperation (.outOfMemory bytes ledger.available))), ledger) := by
  rw [reserveDevice, Procedure.get_bind_run, if_pos short, Procedure.stop_run]

theorem reservePinned_run (fits : ledger.pinned + bytes < Word.bound) :
    (reservePinned bytes).run ledger =
      count.run { ledger with pinned := ledger.pinned + bytes } := by
  rw [reservePinned, Procedure.get_bind_run, Word.add_eq_ok fits]
  rfl

theorem reservePinned_run_of_overflow (overflow : ¬ledger.pinned + bytes < Word.bound) :
    (reservePinned bytes).run ledger = (.error (.fault .addOverflow), ledger) := by
  rw [reservePinned, Procedure.get_bind_run, Word.add, if_neg overflow]
  rfl

end Ledger

end Bandwidth
