import Bandwidth.Proofs.Benchmark.Exact
import Bandwidth.Proofs.Stream.Kernels

/-!
# Inner products

A launch of the dot product takes up the product at each index exactly once. Which products a partial
sum takes up, and in which order and brackets, holds for every addition and multiplication: a worker
adds from left to right along its stride, and the tree adds the upper half of what is left of the
slots to the lower half until one slot is left.

Where addition is associative and commutative none of this shows, and the sum of the partial sums is
the inner product. A group that is wider than shared memory can be, or a grid that is longer than the
list of its answers can be, is never run.
-/

namespace Bandwidth

/-- Whether shared memory and the answers of the groups are objects that can exist. -/
def Geometry.Addressable (α : Type) [Element α] (geometry : Geometry) : Prop :=
  geometry.grid * Word.bytes ≤ Word.greatestObject ∧
    geometry.group * Element.bytes α ≤ Word.greatestObject

namespace Dot

variable {α : Type} [Element α]

/-- The values of so many slots after some halvings: each adds to a slot the one that lies half of
what is left further. -/
def halvings (size : Nat) (values : Nat → α) : Nat → Nat → α
  | 0 => values
  | steps + 1 => fun slot =>
      halvings size values steps slot + halvings size values steps (slot + size / 2 ^ (steps + 1))

/-- After the first halving the rest works on the sums of pairs, in half as many slots. -/
theorem halvings_succ_size (levels : Nat) (values : Nat → α) (steps slot : Nat) :
    halvings (2 ^ (levels + 1)) values (steps + 1) slot =
      halvings (2 ^ levels) (fun slot => values slot + values (slot + 2 ^ levels)) steps slot := by
  induction steps generalizing slot with
  | zero =>
      have half : 2 ^ (levels + 1) / 2 ^ 1 = 2 ^ levels := by
        rw [Nat.pow_succ, Nat.pow_one, Nat.mul_div_cancel _ (by decide)]
      simp only [halvings, Nat.zero_add, half]
  | succ steps ih =>
      have offset : 2 ^ (levels + 1) / 2 ^ (steps + 1 + 1) = 2 ^ levels / 2 ^ (steps + 1) := by
        rw [Nat.pow_succ, Nat.pow_succ 2 (steps + 1), Nat.mul_div_mul_right _ _ (by decide)]
      change halvings (2 ^ (levels + 1)) values (steps + 1) slot +
        halvings (2 ^ (levels + 1)) values (steps + 1) (slot + 2 ^ (levels + 1) /
          2 ^ (steps + 1 + 1)) = _
      rw [ih, ih, offset]
      rfl

theorem treeSum_eq_halvings (levels : Nat) (values : Nat → α) :
    treeSum levels values = halvings (2 ^ levels) values levels 0 := by
  induction levels generalizing values with
  | zero => rfl
  | succ levels ih => rw [treeSum, ih, halvings_succ_size]

/-- What the first region leaves in a slot: the products along the stride of its worker. -/
def slotSum (geometry : Geometry) (x y : List α) (arraySize groupId localId : Nat) : α :=
  productSum x y
    (GridWalk.strided (groupId * geometry.group + localId) geometry.size arraySize)

theorem treeSum_congr {levels : Nat} {values others : Nat → α}
    (equal : ∀ slot < 2 ^ levels, values slot = others slot) :
    treeSum levels values = treeSum levels others := by
  induction levels generalizing values others with
  | zero => exact equal 0 (by decide)
  | succ levels ih =>
      apply ih
      intro slot below
      rw [Nat.pow_succ] at equal
      rw [equal slot (by omega), equal (slot + 2 ^ levels) (by omega)]

theorem groupSum_eq_halvings {geometry : Geometry} {levels : Nat} {x y : List α}
    {arraySize groupId : Nat} (powerOfTwo : geometry.group = 2 ^ levels)
    (inGrid : groupId < geometry.grid) (isWord : arraySize < Word.bound) :
    groupSum levels x y arraySize geometry groupId =
      halvings geometry.group (slotSum geometry x y arraySize groupId) levels 0 := by
  rw [powerOfTwo, ← treeSum_eq_halvings]
  apply treeSum_congr
  intro localId below
  rw [workerSum, Worker.indices_eq_strided ⟨inGrid, by rwa [powerOfTwo]⟩ isWord]
  rfl

variable (α) in
/-- The laws under which the order of a sum does not matter. -/
structure Laws : Prop where
  add_assoc : ∀ x y z : α, x + y + z = x + (y + z)
  add_comm : ∀ x y : α, x + y = y + x
  zero_add : ∀ x : α, Element.zero + x = x

/-- Elements that obey the laws are themselves numbers that are added exactly. -/
@[reducible]
def Laws.addCommMonoid (laws : Laws α) : AddCommMonoid α :=
  letI : Zero α := ⟨Element.zero⟩
  { add := fun x y => x + y
    zero := Element.zero
    add_assoc := laws.add_assoc
    add_comm := laws.add_comm
    zero_add := laws.zero_add
    add_zero := fun x => (laws.add_comm x Element.zero).trans (laws.zero_add x)
    nsmul := nsmulRec }

theorem Laws.additive (laws : Laws α) :
    letI := laws.addCommMonoid
    Additive (id : α → α) :=
  letI := laws.addCommMonoid
  ⟨rfl, fun _ _ => rfl⟩

/-- The partial sums, added in order, are the products of all indices, added in order. -/
theorem Laws.foldl_groupSum (laws : Laws α) {geometry : Geometry} {levels : Nat} {x y : List α}
    {arraySize : Nat} (powerOfTwo : geometry.group = 2 ^ levels) (positive : 0 < geometry.grid) :
    ((List.range geometry.grid).map (groupSum levels x y arraySize geometry)).foldl (· + ·)
        Element.zero =
      productSum x y (List.range arraySize) := by
  let _ := laws.addCommMonoid
  have additive : Additive (id : α → α) := laws.additive
  have folded := additive.foldl (groupSum levels x y arraySize geometry) (List.range geometry.grid)
    Element.zero
  have products := additive.foldl (fun index => x.getD index Element.zero * y.getD index Element.zero)
    (List.range arraySize) Element.zero
  rw [List.foldl_map]
  apply folded.trans
  apply Eq.trans _ products.symm
  congr 1
  exact sum_value_groupSum additive powerOfTwo positive

/-- A group alone takes up all products. -/
theorem Laws.groupSum_eq (laws : Laws α) {geometry : Geometry} {levels : Nat} (x y : List α)
    (arraySize : Nat) (powerOfTwo : geometry.group = 2 ^ levels) (alone : geometry.grid = 1) :
    groupSum levels x y arraySize geometry 0 = productSum x y (List.range arraySize) := by
  have positive : 0 < geometry.grid := by omega
  rw [← laws.foldl_groupSum powerOfTwo positive, alone, List.range_one, List.map_singleton,
    List.foldl_cons, List.foldl_nil, laws.zero_add]

section Launch

variable {geometry : Geometry} {levels a b sums arraySize : Nat} {memory : Memory α}

/-- The first entries of the buffer of partial sums are those of the groups. -/
theorem take_partialSums (contract : Contract geometry levels a b sums arraySize memory) :
    ((published sums (partialSum geometry levels a b arraySize memory)
        (List.range geometry.grid) memory).contents sums).toList.take geometry.grid =
      (List.range geometry.grid).map (partialSum geometry levels a b arraySize memory) := by
  apply List.ext_getElem?
  intro index
  rw [List.getElem?_take, List.getElem?_map, Array.getElem?_toList, getElem?_partialSums contract]
  by_cases below : index < geometry.grid <;> simp [below]

theorem launch_run_of_overflow (contract : Contract geometry levels a b sums arraySize memory)
    (tooLarge : ¬geometry.Addressable α) (device : Device) (log : Array Event) :
    (launch geometry a b sums arraySize).run ⟨(device, memory), log⟩ =
      (.error (.fault .capacityOverflow), ⟨(device.beginLaunch, memory),
        log.push (.groupsLaunched device.description.index geometry)⟩) :=
  Device.launchGroups_run_of_overflow contract.powerOfTwo tooLarge

/-- The dot product of a sound stream is the inner product of its arrays. -/
theorem stream_dot_run (laws : Laws α) {stream : Stream α} (sound : stream.Sound)
    (fits : stream.blocks * standardGroup < Word.bound) (log : Array Event) :
    ∃ after, (Stream.dot : Action (Stream α) α).run ⟨stream, log⟩ =
      (.ok (productSum stream.lists.a stream.lists.b (List.range stream.arraySize)), after) := by
  have length : stream.lists.a.length = stream.arraySize := sound.a_size
  have listSum_eq : listSum stream.blocks stream.lists.a stream.lists.b =
      productSum stream.lists.a stream.lists.b (List.range stream.arraySize) := by
    rw [listSum, length]
    exact @Laws.foldl_groupSum _ _ laws ⟨stream.blocks, standardGroup⟩ standardLevels _ _ _ rfl
      sound.blocks_pos
  rcases Stream.dot_run sound fits log with ⟨told, ran⟩
  rw [listSum_eq] at ran
  exact ⟨_, ran⟩

/--
A launch leaves in the entry of each group the sum of its products in the brackets of the halving
tree, and changes nothing else. If addition obeys the laws, the sum of these entries in order is the
inner product, and so is the dot product of a stream. A launch that would need too large an object
ends in a fault and changes nothing.
-/
theorem launch_takes_each_product_once
    (contract : Contract geometry levels a b sums arraySize memory) (positive : 0 < geometry.grid)
    (device : Device) (log : Array Event) :
    let told := log.push (.groupsLaunched device.description.index geometry)
    let x := (memory.contents a).toList
    let y := (memory.contents b).toList
    (geometry.Addressable α →
      ∃ after : Memory α,
        (launch geometry a b sums arraySize).run ⟨(device, memory), log⟩ =
          (.ok ⟨geometry.grid, geometry.size, levels⟩, ⟨(device.beginLaunch, after), told⟩) ∧
        (∀ groupId < geometry.grid, (after.contents sums)[groupId]? =
          some (halvings geometry.group (slotSum geometry x y arraySize groupId) levels 0)) ∧
        (∀ index ≥ geometry.grid, (after.contents sums)[index]? = (memory.contents sums)[index]?) ∧
        (∀ buffer, buffer ≠ sums → after.contents buffer = memory.contents buffer) ∧
        (Laws α → ((after.contents sums).toList.take geometry.grid).foldl (· + ·) Element.zero =
          productSum x y (List.range arraySize))) ∧
    (¬geometry.Addressable α →
      (launch geometry a b sums arraySize).run ⟨(device, memory), log⟩ =
        (.error (.fault .capacityOverflow), ⟨(device.beginLaunch, memory), told⟩)) ∧
    (Laws α → ∀ stream : Stream α, stream.Sound → stream.blocks * standardGroup < Word.bound →
      ∀ before, ∃ after, (Stream.dot : Action (Stream α) α).run ⟨stream, before⟩ =
        (.ok (productSum stream.lists.a stream.lists.b (List.range stream.arraySize)), after)) := by
  intro told x y
  refine ⟨?_, ?_, ?_⟩
  · rintro ⟨answers, shared⟩
    have ran := launch_run contract answers shared device log
    rw [if_neg (Nat.ne_of_gt positive)] at ran
    refine ⟨_, ran, ?_, ?_, ?_, ?_⟩
    · intro groupId inGrid
      rw [getElem?_partialSums contract, if_pos inGrid, partialSum,
        groupSum_eq_halvings contract.powerOfTwo inGrid contract.isWord]
    · intro index past
      rw [getElem?_partialSums contract, if_neg (Nat.not_lt.mpr past)]
    · intro buffer different
      exact contents_published_of_ne different
    · intro laws
      rw [take_partialSums contract]
      exact laws.foldl_groupSum contract.powerOfTwo positive
  · intro tooLarge
    exact launch_run_of_overflow contract tooLarge device log
  · intro laws stream sound fits before
    exact stream_dot_run laws sound fits before

end Launch

theorem laws_rat : Laws Rat where
  add_assoc := add_assoc
  add_comm := add_comm
  zero_add := zero_add

/-- Three products in two groups of two workers: the last worker has none. -/
theorem three_products_in_two_groups :
    let device := Device.fresh ⟨0, "device", 1, 1048576⟩ .standard
    let memory : Memory Rat := ⟨#[#[1, 2, 3], #[4, 5, 6], #[0, 0, 9]]⟩
    Contract ⟨2, 2⟩ 1 0 1 2 3 memory ∧ Geometry.Addressable Rat ⟨2, 2⟩ ∧
      ∃ after : Memory Rat, ∃ told,
        (launch ⟨2, 2⟩ 0 1 2 3).run ⟨(device, memory), #[]⟩ =
          (.ok ⟨2, 4, 1⟩, ⟨(device.beginLaunch, after), told⟩) ∧
        (after.contents 2)[0]? = some 14 ∧ (after.contents 2)[1]? = some 18 ∧
        (after.contents 2)[2]? = some 9 ∧
        ((after.contents 2).toList.take 2).foldl (· + ·) 0 = 32 := by
  intro device memory
  have contract : Contract ⟨2, 2⟩ 1 0 1 2 3 memory :=
    ⟨rfl, by decide, by decide, Nat.le_refl 3, Nat.le_refl 3, by decide, by decide, by decide⟩
  have addressable : Geometry.Addressable Rat ⟨2, 2⟩ := ⟨by decide, by decide⟩
  rcases (launch_takes_each_product_once contract (by decide) device #[]).1 addressable with
    ⟨after, ran, entries, kept, _, folded⟩
  refine ⟨contract, addressable, after, _, ran, ?_, ?_, kept 2 (by decide), ?_⟩
  · rw [entries 0 (by decide)]
    decide +kernel
  · rw [entries 1 (by decide)]
    decide +kernel
  · apply (folded laws_rat).trans
    decide +kernel

/-- One group of 2⁶⁰ workers would need more shared memory than an object can have, so the only
product is never taken up: its entry stays 0 where the tree would have left 6. -/
theorem product_lost_in_too_wide_group :
    let device := Device.fresh ⟨0, "device", 1, 1048576⟩ .standard
    let memory : Memory Rat := ⟨#[#[2], #[3], #[0]]⟩
    Contract ⟨1, 2 ^ 60⟩ 60 0 1 2 1 memory ∧
      (∃ told, (launch ⟨1, 2 ^ 60⟩ 0 1 2 1).run ⟨(device, memory), #[]⟩ =
        (.error (.fault .capacityOverflow), ⟨(device.beginLaunch, memory), told⟩)) ∧
      (memory.contents 2)[0]? = some 0 ∧
      halvings (2 ^ 60) (slotSum ⟨1, 2 ^ 60⟩ [2] [3] 1 0) 60 0 = (6 : Rat) := by
  intro device memory
  have contract : Contract ⟨1, 2 ^ 60⟩ 60 0 1 2 1 memory :=
    ⟨rfl, by decide, by decide, Nat.le_refl 1, Nat.le_refl 1, Nat.le_refl 1, by decide, by decide⟩
  have tooLarge : ¬Geometry.Addressable Rat ⟨1, 2 ^ 60⟩ := by
    rintro ⟨_, shared⟩
    exact absurd shared (by decide)
  have inGrid : 0 < (⟨1, 2 ^ 60⟩ : Geometry).grid := by decide
  have isWord : 1 < Word.bound := by decide
  refine ⟨contract, ⟨_, launch_run_of_overflow contract tooLarge device #[]⟩, rfl, ?_⟩
  rw [← @groupSum_eq_halvings Rat _ ⟨1, 2 ^ 60⟩ 60 [2] [3] 1 0 rfl inGrid isWord,
    laws_rat.groupSum_eq [2] [3] 1 rfl rfl]
  decide +kernel

end Dot

end Bandwidth
