import Bandwidth.Element.Native
import Bandwidth.Proofs.Dot.Schedule
import Bandwidth.Proofs.Launch.Dispatch
import Mathlib.Algebra.Order.BigOperators.Group.Finset
import Mathlib.Algebra.Order.Group.Multiset

/-!
# Which slots a halving tree adds

The halving loop can be run over any number of slots, and which slots end up in the first one does not
depend on what they hold. So it is told by a formula: a sum of slots with its brackets. Every halving
doubles the number of slots in the formula, and no slot gets into it twice. After all halvings that
number is the greatest power of two that the size reaches. So no slot is left out if the size is a
power of two, and otherwise some slot is: there are more slots than places in the formula.
-/

namespace Bandwidth

namespace Dot

/-- A sum of slots, with its brackets. -/
inductive Bracketing where
  | slot (place : Nat)
  | sum (left right : Bracketing)
  deriving DecidableEq, Repr

namespace Bracketing

/-- The slots of a sum, from left to right. -/
def places : Bracketing → List Nat
  | slot place => [place]
  | sum left right => left.places ++ right.places

variable {α : Type}

def value [Add α] (values : Nat → α) : Bracketing → α
  | slot place => values place
  | sum left right => left.value values + right.value values

/-- The halving tree over the first slots, for what these hold. -/
def halved (size : Nat) (held : Nat → Bracketing) : Bracketing :=
  if size < 2 then held 0
  else halved (size / 2) fun slot => .sum (held slot) (held (slot + size / 2))
termination_by size

end Bracketing

open Bracketing

/-- All slots of a group, added in order. -/
def slotTotal {α : Type} [Add α] (size : Nat) (values : Nat → α) : α :=
  (List.range' 1 (size - 1)).foldl (fun sum slot => sum + values slot) (values 0)

namespace Bracketing

section Places

variable {size : Nat} {held : Nat → Bracketing}

theorem length_places_halved {places : Nat} (positive : 0 < size)
    (lengths : ∀ slot, (held slot).places.length = places) :
    (halved size held).places.length = 2 ^ Nat.log2 size * places := by
  fun_induction halved size held generalizing places with
  | case1 size held small =>
      have one : size = 1 := by omega
      subst one
      simpa [Nat.log2_def] using lengths 0
  | case2 size held large ih =>
      have doubled : ∀ slot, (Bracketing.sum (held slot) (held (slot + size / 2))).places.length =
          2 * places := by
        intro slot
        rw [Bracketing.places, List.length_append, lengths, lengths, Nat.two_mul]
      rw [ih (by omega) doubled, Nat.log2_def size, if_pos (by omega), Nat.pow_succ, Nat.mul_assoc]

/-- A slot gets into the tree at most as often as into what is held before it. -/
theorem places_halved_le (positive : 0 < size) :
    ((halved size held).places : Multiset Nat) ≤
      ∑ slot ∈ Finset.range size, ((held slot).places : Multiset Nat) := by
  fun_induction halved size held with
  | case1 size held small =>
      have one : size = 1 := by omega
      subst one
      rw [Finset.sum_range_one]
  | case2 size held large ih =>
      have halves : size / 2 + size / 2 ≤ size := by omega
      calc
        _ ≤ ∑ slot ∈ Finset.range (size / 2),
              ((held slot).places ++ (held (slot + size / 2)).places : Multiset Nat) :=
            ih (by omega)
        _ = ∑ slot ∈ Finset.range (size / 2 + size / 2), ((held slot).places : Multiset Nat) := by
            rw [Finset.sum_range_add, ← Finset.sum_add_distrib]
            apply Finset.sum_congr rfl
            intro slot _
            rw [← Multiset.coe_add, Nat.add_comm slot]
        _ ≤ _ := Finset.sum_le_sum_of_subset (Finset.range_mono halves)

theorem places_halved_slot_le (positive : 0 < size) :
    ((halved size .slot).places : Multiset Nat) ≤ Multiset.range size := by
  have bounded : ((halved size .slot).places : Multiset Nat) ≤
      ∑ slot ∈ Finset.range size, ((Bracketing.slot slot).places : Multiset Nat) :=
    places_halved_le positive
  have singles : ∑ slot ∈ Finset.range size, ((Bracketing.slot slot).places : Multiset Nat) =
      Multiset.range size :=
    Finset.sum_multiset_singleton (Finset.range size)
  rwa [singles] at bounded

theorem length_places_halved_slot (positive : 0 < size) :
    (halved size .slot).places.length = 2 ^ Nat.log2 size := by
  have singles : ∀ slot, (Bracketing.slot slot).places.length = 1 := fun _ => rfl
  rw [length_places_halved positive singles, Nat.mul_one]

/-- Over a power of two of slots the tree takes each slot once. -/
theorem places_halved_perm (power : 2 ^ Nat.log2 size = size) :
    (halved size .slot).places.Perm (List.range size) := by
  have positive : 0 < size := by
    rw [← power]
    exact Nat.two_pow_pos _
  have enough : (Multiset.range size).card ≤
      ((halved size .slot).places : Multiset Nat).card := by
    rw [Multiset.card_range, Multiset.coe_card, length_places_halved_slot positive, power]
  exact Multiset.coe_eq_coe.mp
    (Multiset.eq_of_le_of_card_le (places_halved_slot_le positive) enough)

/-- Over any other number of slots it misses one. -/
theorem exists_not_mem_places_halved (short : 2 ^ Nat.log2 size < size) :
    ∃ lost < size, lost ∉ (halved size .slot).places := by
  have positive : 0 < size := Nat.zero_lt_of_lt short
  by_contra complete
  push Not at complete
  have covered : Multiset.range size ≤ ((halved size .slot).places : Multiset Nat) := by
    rw [Multiset.le_iff_subset (Multiset.nodup_range size)]
    intro slot below
    exact complete slot (Multiset.mem_range.mp below)
  have longer := Multiset.card_le_card covered
  rw [Multiset.card_range, Multiset.coe_card, length_places_halved_slot positive] at longer
  omega

end Places

section Values

variable {α : Type} [Add α] {values : Nat → α}

theorem places_eq_cons (bracketing : Bracketing) :
    ∃ first rest, bracketing.places = first :: rest := by
  induction bracketing with
  | slot place => exact ⟨place, [], rfl⟩
  | sum left right ihLeft _ =>
      rcases ihLeft with ⟨first, rest, leftEq⟩
      exact ⟨first, rest ++ right.places, by rw [places, leftEq, List.cons_append]⟩

theorem foldl_add_start (assoc : ∀ x y z : α, x + y + z = x + (y + z)) (slots : List Nat)
    (start more : α) :
    slots.foldl (fun sum slot => sum + values slot) (start + more) =
      start + slots.foldl (fun sum slot => sum + values slot) more := by
  induction slots generalizing more with
  | nil => rfl
  | cons slot slots ih => rw [List.foldl_cons, assoc, ih, List.foldl_cons]

/-- If addition is associative the brackets do not show. -/
theorem value_eq_foldl (assoc : ∀ x y z : α, x + y + z = x + (y + z)) {bracketing : Bracketing}
    {first : Nat} {rest : List Nat} (placesEq : bracketing.places = first :: rest) :
    bracketing.value values = rest.foldl (fun sum slot => sum + values slot) (values first) := by
  induction bracketing generalizing first rest with
  | slot place =>
      rcases List.cons.inj placesEq with ⟨rfl, rfl⟩
      rfl
  | sum left right ihLeft ihRight =>
      rcases left.places_eq_cons with ⟨leftFirst, leftRest, leftEq⟩
      rcases right.places_eq_cons with ⟨rightFirst, rightRest, rightEq⟩
      rw [places, leftEq, rightEq, List.cons_append] at placesEq
      rcases List.cons.inj placesEq with ⟨rfl, rfl⟩
      rw [value, ihLeft leftEq, ihRight rightEq, List.foldl_append, List.foldl_cons,
        foldl_add_start assoc]

/-- If it is commutative too, their order does not show either. -/
theorem foldl_eq_of_perm (assoc : ∀ x y z : α, x + y + z = x + (y + z))
    (comm : ∀ x y : α, x + y = y + x) {first other : Nat} {rest others : List Nat}
    (same : (first :: rest).Perm (other :: others)) :
    rest.foldl (fun sum slot => sum + values slot) (values first) =
      others.foldl (fun sum slot => sum + values slot) (values other) := by
  have swap : ∀ slots more : List Nat, slots.Perm more → ∀ start,
      slots.foldl (fun sum slot => sum + values slot) start =
        more.foldl (fun sum slot => sum + values slot) start := by
    intro slots more perm start
    refine perm.foldl_eq' ?_ start
    intro x _ y _ sum
    rw [assoc, assoc, comm (values x)]
  by_cases equal : first = other
  · subst equal
    exact swap rest others same.cons_inv (values first)
  · have otherMem : other ∈ rest := by
      have := same.mem_iff.mpr List.mem_cons_self
      simpa [Ne.symm equal] using this
    -- Each of the two comes first in one of the lists, and second in the other one.
    have restPerm : rest.Perm (other :: rest.erase other) := List.perm_cons_erase otherMem
    have othersPerm : others.Perm (first :: rest.erase other) := by
      apply List.Perm.cons_inv (a := other)
      exact same.symm.trans ((restPerm.cons first).trans (List.Perm.swap other first _))
    rw [swap _ _ restPerm, swap _ _ othersPerm, List.foldl_cons, List.foldl_cons, comm]

theorem value_eq_slotTotal {size : Nat} (power : 2 ^ Nat.log2 size = size)
    (assoc : ∀ x y z : α, x + y + z = x + (y + z)) (comm : ∀ x y : α, x + y = y + x) :
    (halved size .slot).value values = slotTotal size values := by
  have positive : 0 < size := by
    rw [← power]
    exact Nat.two_pow_pos _
  rcases (halved size .slot).places_eq_cons with ⟨first, rest, placesEq⟩
  have same := places_halved_perm power
  have range_eq : List.range size = 0 :: List.range' 1 (size - 1) := by
    have count : size = size - 1 + 1 := by omega
    rw [List.range_eq_range', count, List.range'_succ]
    simp
  rw [placesEq, range_eq] at same
  rw [value_eq_foldl assoc placesEq]
  exact foldl_eq_of_perm assoc comm same

end Values

section Lost

variable {α : Type} [Element α] {lost : Nat} {element : α}

/-- Contents in which all slots but one hold zero. -/
def only (lost : Nat) (element : α) (slot : Nat) : α :=
  if slot = lost then element else Element.zero

/-- An element that is not zero, and that zeros do not change. -/
structure Visible (element : α) : Prop where
  ne_zero : element ≠ Element.zero
  zero_add_zero : Element.zero + Element.zero = (Element.zero : α)
  zero_add : Element.zero + element = element
  add_zero : element + Element.zero = element

theorem value_only_of_not_mem (visible : Visible element) {bracketing : Bracketing}
    (missing : lost ∉ bracketing.places) :
    bracketing.value (only lost element) = Element.zero := by
  induction bracketing with
  | slot place =>
      have different : place ≠ lost := fun same => missing (by simp [places, same])
      rw [value, only, if_neg different]
  | sum left right ihLeft ihRight =>
      rw [places, List.mem_append, not_or] at missing
      rw [value, ihLeft missing.1, ihRight missing.2, visible.zero_add_zero]

theorem foldl_only_of_not_mem {slots : List Nat} (missing : lost ∉ slots) {start : α}
    (unchanged : start + Element.zero = start) :
    slots.foldl (fun sum slot => sum + only lost element slot) start = start := by
  induction slots with
  | nil => rfl
  | cons slot slots ih =>
      rw [List.mem_cons, not_or] at missing
      rw [List.foldl_cons, only, if_neg (Ne.symm missing.1), unchanged, ih missing.2]

theorem slotTotal_only (visible : Visible element) {size : Nat} (below : lost < size) :
    slotTotal size (only lost element) = element := by
  by_cases first : lost = 0
  · subst first
    exact foldl_only_of_not_mem (by simp) visible.add_zero
  · have later : lost ∈ List.range' 1 (size - 1) := by
      rw [List.mem_range'_1]
      omega
    rcases List.append_of_mem later with ⟨before, after, split⟩
    have nodup : (before ++ lost :: after).Nodup := split ▸ List.nodup_range'
    have notAfter : lost ∉ after := (List.nodup_cons.mp (List.nodup_append.mp nodup).2.1).1
    have notBefore : lost ∉ before := by
      intro found
      exact (List.nodup_append.mp nodup).2.2 lost found lost List.mem_cons_self rfl
    have start : only lost element 0 = Element.zero := if_neg (Ne.symm first)
    have own : only lost element lost = element := if_pos rfl
    rw [slotTotal, split, List.foldl_append, start,
      foldl_only_of_not_mem notBefore visible.zero_add_zero, List.foldl_cons, own,
      visible.zero_add, foldl_only_of_not_mem notAfter visible.add_zero]

end Lost

end Bracketing

variable {α : Type} [Element α] {group : Group}

/-- The tree leaves its formula in the first slot, in whatever order the workers of a step add, and
issues a barrier for each halving. -/
theorem treeIn_halved_run (state : GroupState α (Memory α)) {orders : Nat → List Nat}
    (same : ∀ offset, (orders offset).Perm (List.range group.geometry.group)) {size : Nat}
    {held : Nat → Bracketing} {values : Nat → α} (positive : 0 < size)
    (within : size ≤ group.geometry.group) (size_eq : state.slots.size = group.geometry.group)
    (holds : ∀ slot < size, state.slots[slot]? = some ((held slot).value values)) :
    ∃ slots : Array α,
      (treeIn orders group (size / 2)).run state =
        (.ok (), ⟨slots, state.barriers + Nat.log2 size, state.outside⟩) ∧
        slots[0]? = some ((halved size held).value values) := by
  fun_induction halved size held generalizing state with
  | case1 size held small =>
      have one : size = 1 := by omega
      subst one
      refine ⟨state.slots, ?_, holds 0 (by decide)⟩
      rw [treeIn, if_pos (by decide)]
      rfl
  | case2 size held large ih =>
      have paired : ∀ slot < 2 * (size / 2),
          state.slots[slot]? = some ((held slot).value values) :=
        fun slot below => holds slot (by omega)
      rcases region_foldStep_run { state with barriers := state.barriers + 1 } (same (size / 2))
          (by omega) size_eq paired with
        ⟨between, ran, between_size, folded⟩
      rcases ih ⟨between, state.barriers + 1, state.outside⟩ (by omega) (by omega) between_size
          folded with
        ⟨slots, finished, first⟩
      refine ⟨slots, ?_, first⟩
      have synced : (Group.sync : Procedure Fault (GroupState α (Memory α)) Unit).run state =
          (.ok (), { state with barriers := state.barriers + 1 }) := rfl
      have barriers : state.barriers + 1 + Nat.log2 (size / 2) =
          state.barriers + Nat.log2 size := by
        rw [Nat.log2_def size, if_pos (by omega)]
        omega
      rw [treeIn, if_neg (by omega), Procedure.bind_run_of_ok synced,
        Procedure.bind_run_of_ok ran, finished, barriers]

theorem tree_run (state : GroupState α (Memory α)) (positive : 0 < group.geometry.group)
    (size_eq : state.slots.size = group.geometry.group) {values : Nat → α}
    (holds : ∀ slot < group.geometry.group, state.slots[slot]? = some (values slot)) :
    ∃ slots : Array α,
      (tree group (group.geometry.group / 2)).run state =
        (.ok (), ⟨slots, state.barriers + Nat.log2 group.geometry.group, state.outside⟩) ∧
        slots[0]? = some ((halved group.geometry.group .slot).value values) := by
  have ascending := RegionOrders.ascending_valid group.geometry.group
  rw [tree_eq_treeIn]
  exact treeIn_halved_run state ascending.foldStep positive (Nat.le_refl _) size_eq holds

/--
The tree over the slots of a group is a sum of slots that depends on their number alone. If the
geometry of the group is accepted, the tree takes every slot once and in as many steps as the geometry
says; so where addition is associative and commutative its sum is the total. If the geometry is refused,
the tree misses a slot, and its sum is wrong where only this slot does not hold zero.
-/
theorem tree_exact_iff_accepted (positive : 0 < group.geometry.group)
    (isWord : group.geometry.group < Word.bound) :
    let size := group.geometry.group
    ∃ (steps : Nat) (bracketing : Bracketing),
      (∀ {α : Type} [Element α] (values : Nat → α) (state : GroupState α (Memory α)),
        state.slots.size = size → (∀ slot < size, state.slots[slot]? = some (values slot)) →
        ∃ slots : Array α,
          (tree group (size / 2)).run state =
            (.ok (), ⟨slots, state.barriers + steps, state.outside⟩) ∧
          slots[0]? = some (bracketing.value values)) ∧
      (group.geometry.validateCooperative = .ok () →
        steps = group.geometry.reductionSteps ∧ bracketing.places.Perm (List.range size) ∧
        ∀ {α : Type} [Add α], (∀ x y z : α, x + y + z = x + (y + z)) →
          (∀ x y : α, x + y = y + x) →
          ∀ values : Nat → α, bracketing.value values = slotTotal size values) ∧
      (∀ failure, group.geometry.validateCooperative = .error failure →
        ∃ lost < size, lost ∉ bracketing.places ∧
          ∀ {α : Type} [Element α] (element : α), Visible element →
            bracketing.value (only lost element) ≠ slotTotal size (only lost element)) := by
  intro size
  refine ⟨Nat.log2 size, halved size .slot, ?_, ?_, ?_⟩
  · intro α _ values state size_eq holds
    exact tree_run state positive size_eq holds
  · intro accepted
    have power := Geometry.two_pow_log2_eq_of_accepted accepted
    refine ⟨(Geometry.reductionSteps_eq accepted isWord).symm, places_halved_perm power, ?_⟩
    intro α _ assoc comm values
    exact value_eq_slotTotal power assoc comm
  · intro failure refused
    rcases exists_not_mem_places_halved (Geometry.two_pow_log2_lt_of_refused positive refused) with
      ⟨lost, below, missing⟩
    refine ⟨lost, below, missing, ?_⟩
    intro α _ element visible
    rw [value_only_of_not_mem visible missing, slotTotal_only visible below]
    exact visible.ne_zero.symm

/-- Of twelve slots the tree misses one: where this holds 1 and the others 0, it does not end in the
total. Eight slots are accepted and take three steps. -/
theorem twelve_slots_lose_one_and_eight_none :
    (0 < 12 ∧ 12 < Word.bound ∧ ∃ lost < 12, ∀ state : GroupState Float (Memory Float),
      state.slots.size = 12 → (∀ slot < 12, state.slots[slot]? = some (only lost 1.0 slot)) →
        ∃ barriers, ∃ slots : Array Float,
          (tree ⟨0, ⟨1, 12⟩⟩ 6).run state = (.ok (), ⟨slots, barriers, state.outside⟩) ∧
          slots[0]? ≠ some (slotTotal 12 (only lost 1.0))) ∧
    (0 < 8 ∧ 8 < Word.bound ∧ ∀ (values : Nat → Float) (state : GroupState Float (Memory Float)),
      state.slots.size = 8 → (∀ slot < 8, state.slots[slot]? = some (values slot)) →
        ∃ slots : Array Float, (tree ⟨0, ⟨1, 8⟩⟩ 4).run state =
          (.ok (), ⟨slots, state.barriers + 3, state.outside⟩)) := by
  constructor
  · have isWord : 12 < Word.bound := by decide
    refine ⟨by decide, isWord, ?_⟩
    rcases @tree_exact_iff_accepted ⟨0, ⟨1, 12⟩⟩ (by decide) isWord with
      ⟨steps, bracketing, runs, _, refused⟩
    rcases refused (.invalidConfig (.unevenGroup 12)) (by decide) with ⟨lost, below, _, wrong⟩
    refine ⟨lost, below, ?_⟩
    intro state size_eq holds
    rcases runs _ state size_eq holds with ⟨slots, ran, first⟩
    have visible : Visible (1.0 : Float) := ⟨by decide, by decide, by decide, by decide⟩
    refine ⟨_, slots, ran, ?_⟩
    rw [first]
    exact fun equal => wrong 1.0 visible (Option.some.inj equal)
  · have isWord : 8 < Word.bound := by decide
    refine ⟨by decide, isWord, ?_⟩
    intro values state size_eq holds
    rcases @tree_exact_iff_accepted ⟨0, ⟨1, 8⟩⟩ (by decide) isWord with
      ⟨steps, bracketing, runs, accepted, _⟩
    have three : steps = 3 := (accepted (by decide)).1
    rcases runs values state size_eq holds with ⟨slots, ran, _⟩
    exact ⟨slots, three ▸ ran⟩

end Dot

end Bandwidth
