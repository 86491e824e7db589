import Bandwidth.Proofs.Machine.Ledger
import Mathlib.Algebra.BigOperators.Group.Multiset.Basic

/-!
# Books under any entries

Entries may come in any order, and a release need not match anything. The books are guarded by what
they hold alone: device memory in use never exceeds the budget, whatever was entered before.

An entry that is not made is as if it had not been tried, with one exception. A reservation books its
bytes before it is counted, so if the count is at its end the bytes stay booked. Such a reservation
overfills the books; it takes 2^64 - 1 live allocations to make one possible.

If nothing overfills the books and each release takes back a reservation that is outstanding then,
nothing is cut off at zero and the books show what is outstanding. What that is does not depend on
the order: it is what was reserved without what was taken back.
-/

namespace Bandwidth

namespace Ledger

namespace Entry

/-- The reservation that a release takes back. -/
def takesBack : Entry → Option Entry
  | releaseDevice bytes => some (reserveDevice bytes)
  | releasePinned bytes => some (reservePinned bytes)
  | reserveDevice _ => none
  | reservePinned _ => none

def isReservation (entry : Entry) : Bool := entry.takesBack.isNone

/-- Whether an entry is about device memory, and not about pinned memory. -/
def onDevice : Entry → Bool
  | reserveDevice _ => true
  | releaseDevice _ => true
  | reservePinned _ => false
  | releasePinned _ => false

/-- The device memory that is in use while a reservation is outstanding. -/
def deviceBytes : Entry → Nat
  | reserveDevice bytes => bytes
  | _ => 0

def pinnedBytes : Entry → Nat
  | reservePinned bytes => bytes
  | _ => 0

/-- Whether the bytes of a reservation are granted, but no more live allocations can be counted. -/
def Overfills (ledger : Ledger) : Entry → Prop
  | reserveDevice bytes => bytes ≤ ledger.available ∧ ¬ledger.live + 1 < Word.bound
  | reservePinned bytes => ledger.pinned + bytes < Word.bound ∧ ¬ledger.live + 1 < Word.bound
  | releaseDevice _ => False
  | releasePinned _ => False

end Entry

/-- The books after entries were tried one after the other. -/
def afterAll (ledger : Ledger) : List Entry → Ledger
  | [] => ledger
  | entry :: entries => ((enter entry).run ledger).2.afterAll entries

/-- No entry overfills the books that it meets. -/
def Counted (ledger : Ledger) : List Entry → Prop
  | [] => True
  | entry :: entries =>
      ¬entry.Overfills ledger ∧ ((enter entry).run ledger).2.Counted entries

/-- Those of the entries that are made. -/
def made (ledger : Ledger) : List Entry → List Entry
  | [] => []
  | entry :: entries =>
      match (enter entry).run ledger with
      | (.ok (), after) => entry :: after.made entries
      | (.error _, after) => after.made entries

/-- Entries that are all made, from the books before to the books after. -/
inductive Entered : Ledger → List Entry → Ledger → Prop
  | nil (ledger : Ledger) : Entered ledger [] ledger
  | cons {before between after : Ledger} {entry : Entry} {entries : List Entry}
      (first : (enter entry).run before = (.ok (), between))
      (rest : Entered between entries after) : Entered before (entry :: entries) after

/-- Each release takes back a reservation that is outstanding when it comes. The reservations are
those outstanding before the entries and those outstanding after them. -/
inductive Matched : Multiset Entry → List Entry → Multiset Entry → Prop
  | nil (outstanding : Multiset Entry) : Matched outstanding [] outstanding
  | reserve {before after : Multiset Entry} {entry : Entry} {entries : List Entry}
      (reserves : entry.takesBack = none) (rest : Matched (entry ::ₘ before) entries after) :
      Matched before (entry :: entries) after
  | release {before after : Multiset Entry} {entry reservation : Entry} {entries : List Entry}
      (releases : entry.takesBack = some reservation) (held : reservation ∈ before)
      (rest : Matched (before.erase reservation) entries after) :
      Matched before (entry :: entries) after

/-- Books that show the reservations that are outstanding. -/
structure Accounts (ledger : Ledger) (outstanding : Multiset Entry) : Prop where
  device : ledger.device = (outstanding.map Entry.deviceBytes).sum
  pinned : ledger.pinned = (outstanding.map Entry.pinnedBytes).sum
  live : ledger.live = outstanding.card

/-- Books that keep to a budget, with no more live allocations than reservations were made. -/
structure Within (total reservations : Nat) (ledger : Ledger) : Prop where
  total_eq : ledger.total = total
  device_le : ledger.device ≤ total
  live_le : ledger.live ≤ reservations

variable {ledger before after : Ledger} {entry reservation : Entry} {entries : List Entry}
  {outstanding final : Multiset Entry} {total reservations bytes : Nat} {reason : Abort}

/-- The books with the bytes of a reservation, which is not counted yet. -/
def withBytes (ledger : Ledger) (entry : Entry) : Ledger :=
  ⟨ledger.total, ledger.device + entry.deviceBytes, ledger.pinned + entry.pinnedBytes, ledger.live⟩

theorem not_overfills (room : ledger.live + 1 < Word.bound) : ¬entry.Overfills ledger := by
  cases entry with
  | reserveDevice bytes => exact fun overfills => overfills.2 room
  | reservePinned bytes => exact fun overfills => overfills.2 room
  | releaseDevice bytes => exact id
  | releasePinned bytes => exact id

theorem enter_run_of_overfills (overfills : entry.Overfills ledger) :
    (enter entry).run ledger = (.error (.fault .addOverflow), ledger.withBytes entry) := by
  cases entry with
  | reserveDevice bytes =>
      rw [enter, reserveDevice_run overfills.1]
      exact count_run_of_full overfills.2
  | reservePinned bytes =>
      rw [enter, reservePinned_run overfills.1]
      exact count_run_of_full overfills.2
  | releaseDevice bytes => exact overfills.elim
  | releasePinned bytes => exact overfills.elim

theorem deviceBytes_le_of_overfills (overfills : entry.Overfills ledger) :
    entry.deviceBytes ≤ ledger.available := by
  cases entry with
  | reserveDevice bytes => exact overfills.1
  | _ => exact Nat.zero_le _

theorem enter_run_of_error (counted : ¬entry.Overfills ledger)
    (refused : (enter entry).run ledger = (.error reason, after)) : after = ledger := by
  by_cases room : ledger.live + 1 < Word.bound
  · exact @book_run_of_error _ _ (some entry) _ room refused
  · -- The count is at its end, so it was the bytes that were not granted.
    cases entry with
    | reserveDevice bytes =>
        have short := Nat.not_le.mp fun covered => counted ⟨covered, room⟩
        rw [enter, reserveDevice_run_of_short short] at refused
        exact (Prod.mk.inj refused).2.symm
    | reservePinned bytes =>
        have overflow := fun fits => counted ⟨fits, room⟩
        rw [enter, reservePinned_run_of_overflow overflow] at refused
        exact (Prod.mk.inj refused).2.symm
    | releaseDevice bytes => simp [enter] at refused
    | releasePinned bytes => simp [enter] at refused

/-- A reservation is made only if its bytes are granted and it can be counted. -/
theorem of_reserved (reserves : entry.takesBack = none)
    (ran : (enter entry).run ledger = (.ok (), after)) :
    entry.deviceBytes ≤ ledger.available ∧
      after = ⟨ledger.total, ledger.device + entry.deviceBytes, ledger.pinned + entry.pinnedBytes,
        ledger.live + 1⟩ := by
  cases entry with
  | reserveDevice bytes =>
      rcases of_reserveDevice_run_ok ran with ⟨covered, -, rfl⟩
      exact ⟨covered, rfl⟩
  | reservePinned bytes =>
      rcases of_reservePinned_run_ok ran with ⟨-, -, rfl⟩
      exact ⟨Nat.zero_le _, rfl⟩
  | releaseDevice bytes => simp [Entry.takesBack] at reserves
  | releasePinned bytes => simp [Entry.takesBack] at reserves

/-- A release takes out what its reservation booked, as far as it is there. -/
theorem of_released (releases : entry.takesBack = some reservation)
    (ran : (enter entry).run ledger = (.ok (), after)) :
    after = ⟨ledger.total, ledger.device - reservation.deviceBytes,
      ledger.pinned - reservation.pinnedBytes, ledger.live - 1⟩ := by
  cases entry with
  | releaseDevice bytes =>
      rcases Option.some.inj releases with rfl
      exact (Prod.mk.inj ran).2.symm
  | releasePinned bytes =>
      rcases Option.some.inj releases with rfl
      exact (Prod.mk.inj ran).2.symm
  | reserveDevice bytes => simp [Entry.takesBack] at releases
  | reservePinned bytes => simp [Entry.takesBack] at releases

/-- If nothing overfills the books, entries that are not made leave no trace. -/
theorem entered_made (counted : ledger.Counted entries) :
    Entered ledger (ledger.made entries) (ledger.afterAll entries) := by
  induction entries generalizing ledger with
  | nil => exact .nil ledger
  | cons entry entries ih =>
      rcases counted with ⟨first, rest⟩
      rw [made, afterAll]
      rcases tried : (enter entry).run ledger with ⟨reason | ⟨⟩, after⟩
      · -- The books are as they were, so the entries that follow meet the same books.
        rw [tried] at rest
        rcases enter_run_of_error first tried with rfl
        exact ih rest
      · rw [tried] at rest
        exact .cons tried (ih rest)

theorem within_empty (total : Nat) : (empty total).Within total 0 :=
  ⟨rfl, Nat.zero_le _, Nat.le_refl _⟩

theorem Within.made (within : ledger.Within total reservations)
    (ran : (enter entry).run ledger = (.ok (), after)) :
    after.Within total (reservations + if entry.isReservation then 1 else 0) := by
  have total_eq := within.total_eq
  have device_le := within.device_le
  have live_le := within.live_le
  cases kind : entry.takesBack with
  | none =>
      rcases of_reserved kind ran with ⟨covered, rfl⟩
      rw [available] at covered
      simp only [Entry.isReservation, kind, Option.isNone_none, if_true]
      exact ⟨total_eq, by simp only; omega, by simp only; omega⟩
  | some reservation =>
      rcases of_released kind ran with rfl
      exact ⟨total_eq, by simp only; omega, by simp only; omega⟩

/-- The bytes that an entry leaves behind when it overfills the books are within the budget too. -/
theorem Within.failed (within : ledger.Within total reservations)
    (refused : (enter entry).run ledger = (.error reason, after)) :
    after.Within total reservations := by
  by_cases overfills : entry.Overfills ledger
  · rw [enter_run_of_overfills overfills] at refused
    rcases Prod.mk.inj refused with ⟨-, rfl⟩
    have total_eq := within.total_eq
    have device_le := within.device_le
    have covered := deviceBytes_le_of_overfills overfills
    rw [available] at covered
    exact ⟨total_eq, by simp only [withBytes]; omega, within.live_le⟩
  · rcases enter_run_of_error overfills refused with rfl
    exact within

theorem Within.afterAll (within : ledger.Within total reservations) (entries : List Entry) :
    (ledger.afterAll entries).Within total
      (reservations + (ledger.made entries).countP Entry.isReservation) := by
  induction entries generalizing ledger reservations with
  | nil => exact within
  | cons entry entries ih =>
      rw [Ledger.made, Ledger.afterAll]
      rcases tried : (enter entry).run ledger with ⟨reason | ⟨⟩, after⟩
      · exact ih (within.failed tried)
      · rw [List.countP_cons, Nat.add_comm (List.countP _ _), ← Nat.add_assoc]
        exact ih (within.made tried)

theorem accounts_empty (total : Nat) : (empty total).Accounts 0 := ⟨rfl, rfl, rfl⟩

theorem Accounts.reserve (accounts : ledger.Accounts outstanding)
    (reserves : entry.takesBack = none) (ran : (enter entry).run ledger = (.ok (), after)) :
    after.Accounts (entry ::ₘ outstanding) := by
  rcases of_reserved reserves ran with ⟨-, rfl⟩
  refine ⟨?_, ?_, ?_⟩
  · rw [Multiset.map_cons, Multiset.sum_cons, ← accounts.device]
    exact Nat.add_comm _ _
  · rw [Multiset.map_cons, Multiset.sum_cons, ← accounts.pinned]
    exact Nat.add_comm _ _
  · rw [Multiset.card_cons, ← accounts.live]

/-- Books that show a reservation hold what its release takes out. -/
theorem Accounts.release (accounts : ledger.Accounts outstanding)
    (releases : entry.takesBack = some reservation) (held : reservation ∈ outstanding)
    (ran : (enter entry).run ledger = (.ok (), after)) :
    after.Accounts (outstanding.erase reservation) := by
  rcases of_released releases ran with rfl
  have device := accounts.device
  have pinned := accounts.pinned
  have live := accounts.live
  -- The sums are split at the reservation, so that no difference is cut off at zero.
  rw [← Multiset.cons_erase held] at device pinned live
  rw [Multiset.map_cons, Multiset.sum_cons] at device pinned
  rw [Multiset.card_cons] at live
  refine ⟨?_, ?_, ?_⟩ <;> simp only <;> omega

theorem Accounts.entered (run : Entered before entries after)
    (accounts : before.Accounts outstanding) (matched : Matched outstanding entries final) :
    after.Accounts final := by
  induction run generalizing outstanding with
  | nil ledger =>
      cases matched
      exact accounts
  | cons first rest ih =>
      cases matched with
      | reserve reserves matched => exact ih (accounts.reserve reserves first) matched
      | release releases held matched => exact ih (accounts.release releases held first) matched

/-- What is outstanding and what was taken back are what was reserved. -/
theorem Matched.balance (matched : Matched outstanding entries final) :
    outstanding + (entries.filter Entry.isReservation : Multiset Entry) =
      final + (entries.filterMap Entry.takesBack : Multiset Entry) := by
  induction matched with
  | nil outstanding => rfl
  | @reserve before after entry entries reserves rest ih =>
      have kept : entry.isReservation = true := by
        rw [Entry.isReservation, reserves]
        rfl
      rw [List.filter_cons_of_pos kept, List.filterMap_cons_none reserves, ← Multiset.cons_coe,
        Multiset.add_cons, ← Multiset.cons_add, ih]
  | @release before after entry reservation entries releases held rest ih =>
      have dropped : ¬entry.isReservation = true := by
        rw [Entry.isReservation, releases]
        simp
      rw [List.filter_cons_of_neg dropped, List.filterMap_cons_some releases, ← Multiset.cons_coe,
        Multiset.add_cons, ← ih, ← Multiset.cons_add, Multiset.cons_erase held]

/-- In whatever order entries are made, the same reservations are outstanding after them. -/
theorem Matched.eq_of_perm {others : List Entry} {otherFinal : Multiset Entry}
    (matched : Matched outstanding entries final)
    (otherMatched : Matched outstanding others otherFinal) (same : entries.Perm others) :
    final = otherFinal := by
  have reserved : (entries.filter Entry.isReservation : Multiset Entry) =
      others.filter Entry.isReservation :=
    Multiset.coe_eq_coe.mpr (same.filter _)
  have takenBack : (entries.filterMap Entry.takesBack : Multiset Entry) =
      others.filterMap Entry.takesBack :=
    Multiset.coe_eq_coe.mpr (same.filterMap _)
  -- Both balances have the same reservations, less the same that were taken back.
  have balance := matched.balance
  rw [reserved, takenBack, otherMatched.balance] at balance
  exact (Multiset.add_left_inj.mp balance).symm

theorem Accounts.eq {other : Ledger} (accounts : ledger.Accounts outstanding)
    (otherAccounts : other.Accounts outstanding) (sameTotal : ledger.total = other.total) :
    ledger = other := by
  rcases ledger with ⟨total, device, pinned, live⟩
  rcases other with ⟨otherTotal, otherDevice, otherPinned, otherLive⟩
  rw [mk.injEq]
  exact ⟨sameTotal, accounts.device.trans otherAccounts.device.symm,
    accounts.pinned.trans otherAccounts.pinned.symm, accounts.live.trans otherAccounts.live.symm⟩

theorem reserveDevice_succeeds_iff :
    (∃ after, (enter (.reserveDevice bytes)).run ledger = (.ok (), after)) ↔
      bytes ≤ ledger.total - ledger.device ∧ ledger.live < Word.greatest := by
  constructor
  · rintro ⟨after, ran⟩
    rcases of_reserveDevice_run_ok ran with ⟨covered, room, -⟩
    exact ⟨covered, Nat.lt_of_succ_lt_succ room⟩
  · rintro ⟨covered, below⟩
    have room : ledger.live + 1 < Word.bound := Nat.succ_lt_succ below
    exact ⟨_, (reserveDevice_run covered).trans (count_run room)⟩

theorem reservePinned_succeeds_iff :
    (∃ after, (enter (.reservePinned bytes)).run ledger = (.ok (), after)) ↔
      ledger.pinned + bytes < Word.bound ∧ ledger.live < Word.greatest := by
  constructor
  · rintro ⟨after, ran⟩
    rcases of_reservePinned_run_ok ran with ⟨fits, room, -⟩
    exact ⟨fits, Nat.lt_of_succ_lt_succ room⟩
  · rintro ⟨fits, below⟩
    have room : ledger.live + 1 < Word.bound := Nat.succ_lt_succ below
    exact ⟨_, (reservePinned_run fits).trans (count_run room)⟩

/-- What an entry leaves of the other kind of memory: device memory and pinned memory are booked
apart. -/
theorem enter_run_stays (entry : Entry) (ledger : Ledger) :
    if entry.onDevice then ((enter entry).run ledger).2.pinned = ledger.pinned
    else ((enter entry).run ledger).2.device = ledger.device := by
  rcases tried : (enter entry).run ledger with ⟨reason | ⟨⟩, after⟩
  · by_cases overfills : entry.Overfills ledger
    · rw [enter_run_of_overfills overfills] at tried
      rcases Prod.mk.inj tried with ⟨-, rfl⟩
      cases entry <;> rfl
    · rcases enter_run_of_error overfills tried with rfl
      cases entry <;> rfl
  · cases entry with
    | reserveDevice bytes =>
        rcases of_reserveDevice_run_ok tried with ⟨-, -, rfl⟩
        rfl
    | reservePinned bytes =>
        rcases of_reservePinned_run_ok tried with ⟨-, -, rfl⟩
        rfl
    | releaseDevice bytes =>
        rcases Prod.mk.inj tried with ⟨-, rfl⟩
        rfl
    | releasePinned bytes =>
        rcases Prod.mk.inj tried with ⟨-, rfl⟩
        rfl

/--
After any entries device memory in use is within the budget, and there are no more live allocations
than reservations were made. A reservation is made exactly if its bytes are granted and the number of
live allocations is not at its end; those of device memory are granted if what is left of the budget
covers them, those of pinned memory if their sum is a word. The sum of device memory always is one.

An entry that is not made leaves the books as they were, unless it overfills them, and then it leaves
its bytes. For as long as fewer than 2^64 - 1 reservations were made nothing overfills the books. An
entry on device memory never changes pinned memory, nor the other way round.

If nothing overfills the books, and each release among the entries that are made takes back a
reservation that is outstanding, the books show the bytes and the number of those outstanding, and it
does not matter in which order the entries were made.
-/
theorem budget_kept_after_any_entries {total : Nat} (isWord : total < Word.bound) :
    (∀ entries, let ledger := (empty total).afterAll entries
      let reservations := ((empty total).made entries).countP Entry.isReservation
      ledger.device ≤ total ∧ ledger.live ≤ reservations ∧
      (∀ bytes, (∃ after, (enter (.reserveDevice bytes)).run ledger = (.ok (), after)) ↔
        bytes ≤ total - ledger.device ∧ ledger.live < Word.greatest) ∧
      (∀ bytes, bytes ≤ total - ledger.device →
        Word.add ledger.device bytes = .ok (ledger.device + bytes)) ∧
      (∀ bytes, (∃ after, (enter (.reservePinned bytes)).run ledger = (.ok (), after)) ↔
        ledger.pinned + bytes < Word.bound ∧ ledger.live < Word.greatest) ∧
      (∀ bytes, Word.bound ≤ ledger.pinned + bytes →
        (enter (.reservePinned bytes)).run ledger = (.error (.fault .addOverflow), ledger)) ∧
      (∀ entry reason after, (enter entry).run ledger = (.error reason, after) →
        ¬entry.Overfills ledger → after = ledger) ∧
      (∀ entry : Entry, entry.Overfills ledger → (enter entry).run ledger =
        (.error (.fault .addOverflow), ledger.withBytes entry)) ∧
      (reservations < Word.greatest → ∀ entry : Entry, ¬entry.Overfills ledger) ∧
      (∀ entry, if entry.onDevice then ((enter entry).run ledger).2.pinned = ledger.pinned
        else ((enter entry).run ledger).2.device = ledger.device)) ∧
    (∀ entries outstanding, (empty total).Counted entries →
      Matched 0 ((empty total).made entries) outstanding →
      ((empty total).afterAll entries).Accounts outstanding) ∧
    (∀ first second firstOutstanding secondOutstanding,
      (empty total).Counted first → (empty total).Counted second →
      Matched 0 ((empty total).made first) firstOutstanding →
      Matched 0 ((empty total).made second) secondOutstanding →
      ((empty total).made first).Perm ((empty total).made second) →
      (empty total).afterAll first = (empty total).afterAll second) := by
  have withinAll : ∀ entries, ((empty total).afterAll entries).Within total
      (((empty total).made entries).countP Entry.isReservation) := by
    intro entries
    have within := (within_empty total).afterAll entries
    rwa [Nat.zero_add] at within
  have accountsAll : ∀ entries outstanding, (empty total).Counted entries →
      Matched 0 ((empty total).made entries) outstanding →
      ((empty total).afterAll entries).Accounts outstanding := by
    intro entries outstanding counted matched
    exact (accounts_empty total).entered (entered_made counted) matched
  refine ⟨?_, accountsAll, ?_⟩
  · intro entries ledger reservations
    have within : ledger.Within total reservations := withinAll entries
    refine ⟨within.device_le, within.live_le, ?_, ?_, fun bytes => reservePinned_succeeds_iff, ?_, ?_,
      fun entry => enter_run_of_overfills, ?_, fun entry => enter_run_stays entry ledger⟩
    · intro bytes
      rw [reserveDevice_succeeds_iff, within.total_eq]
    · intro bytes covered
      have device_le := within.device_le
      apply Word.add_eq_ok
      omega
    · intro bytes overflow
      exact reservePinned_run_of_overflow (Nat.not_lt.mpr overflow)
    · intro entry reason after refused counted
      exact enter_run_of_error counted refused
    · intro few entry
      exact not_overfills (Nat.succ_lt_succ (within.live_le.trans_lt few))
  · intro first second outstanding secondOutstanding counted secondCounted matched secondMatched same
    rcases matched.eq_of_perm secondMatched same with rfl
    apply (accountsAll first outstanding counted matched).eq
      (accountsAll second outstanding secondCounted secondMatched)
    rw [(withinAll first).total_eq, (withinAll second).total_eq]

/-- A refused reservation and the order of the others make no difference. After releases that match
nothing, and with pinned memory that is used up, the whole budget can still be reserved. -/
theorem same_books_in_two_orders :
    let first : List Entry :=
      [.reserveDevice 60, .reserveDevice 41, .reservePinned 8, .releaseDevice 60]
    let second : List Entry := [.reservePinned 8, .reserveDevice 60, .releaseDevice 60]
    let unmatched : List Entry := [.releasePinned 7, .reservePinned 18446744073709551615,
      .reservePinned 1, .reserveDevice 60, .releaseDevice 90]
    let outstanding : Multiset Entry := {.reservePinned 8}
    100 < Word.bound ∧
      ((empty 100).Counted first ∧ (empty 100).Counted second) ∧
      Matched 0 ((empty 100).made first) outstanding ∧
      Matched 0 ((empty 100).made second) outstanding ∧
      ((empty 100).made first).Perm ((empty 100).made second) ∧
      (empty 100).afterAll first = (empty 100).afterAll second ∧
      ((empty 100).afterAll first).Accounts outstanding ∧
      (empty 100).afterAll unmatched = ⟨100, 0, 18446744073709551615, 1⟩ ∧
      ∃ after, (enter (.reserveDevice 100)).run ((empty 100).afterAll unmatched) =
        (.ok (), after) := by
  intro first second unmatched outstanding
  have isWord : 100 < Word.bound := by decide
  have firstCounted : (empty 100).Counted first :=
    ⟨not_overfills (by decide), not_overfills (by decide), not_overfills (by decide), id, trivial⟩
  have secondCounted : (empty 100).Counted second :=
    ⟨not_overfills (by decide), not_overfills (by decide), id, trivial⟩
  have firstMatched : Matched 0 ((empty 100).made first) outstanding := by
    change Matched 0 [.reserveDevice 60, .reservePinned 8, .releaseDevice 60] outstanding
    apply Matched.reserve rfl
    apply Matched.reserve rfl
    apply Matched.release rfl (by decide)
    exact .nil _
  have secondMatched : Matched 0 ((empty 100).made second) outstanding := by
    change Matched 0 [.reservePinned 8, .reserveDevice 60, .releaseDevice 60] outstanding
    apply Matched.reserve rfl
    apply Matched.reserve rfl
    apply Matched.release rfl (by decide)
    exact .nil _
  have same : ((empty 100).made first).Perm ((empty 100).made second) := .swap _ _ _
  rcases budget_kept_after_any_entries isWord with ⟨kept, shown, ordered⟩
  rcases kept unmatched with ⟨-, -, reserves, -⟩
  exact ⟨isWord, ⟨firstCounted, secondCounted⟩, firstMatched, secondMatched, same,
    ordered first second outstanding outstanding firstCounted secondCounted firstMatched
      secondMatched same,
    shown first outstanding firstCounted firstMatched, rfl, (reserves 100).mpr (by decide)⟩

/-- Reservations of nothing are counted and nothing else. -/
theorem afterAll_replicate {number : Nat} (room : ledger.live + number < Word.bound) :
    ledger.afterAll (List.replicate number (.reserveDevice 0)) =
      { ledger with live := ledger.live + number } := by
  induction number generalizing ledger with
  | zero => rfl
  | succ number ih =>
      have one : ledger.live + 1 < Word.bound := by omega
      have others : ledger.live + 1 + number < Word.bound := by omega
      have first : (enter (.reserveDevice 0)).run ledger =
          (.ok (), { ledger with live := ledger.live + 1 }) :=
        (reserveDevice_run (Nat.zero_le _)).trans (count_run one)
      have rest := @ih { ledger with live := ledger.live + 1 } others
      rw [List.replicate_succ, afterAll, first, rest]
      simp only [Nat.add_right_comm, Nat.add_assoc]

/-- After 2^64 - 1 reservations of nothing, a byte of device memory is not reserved although the
budget covers it, and stays booked; and so does a byte of pinned memory. -/
theorem full_count_keeps_bytes :
    let ledger := (empty 1).afterAll (List.replicate Word.greatest (.reserveDevice 0))
    ¬((∃ after, (enter (.reserveDevice 1)).run ledger = (.ok (), after)) ↔
        1 ≤ 1 - ledger.device) ∧
      (enter (.reserveDevice 1)).run ledger =
        (.error (.fault .addOverflow), { ledger with device := ledger.device + 1 }) ∧
      (enter (.reservePinned 1)).run ledger =
        (.error (.fault .addOverflow), { ledger with pinned := ledger.pinned + 1 }) := by
  have full : (empty 1).afterAll (List.replicate Word.greatest (.reserveDevice 0)) =
      ⟨1, 0, 0, Word.greatest⟩ :=
    (afterAll_replicate (by decide)).trans (by rfl)
  rw [full]
  refine ⟨?_, rfl, rfl⟩
  rw [reserveDevice_succeeds_iff]
  decide

end Ledger

end Bandwidth
