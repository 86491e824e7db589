import Bandwidth.Proofs.Stream.Lists
import Mathlib.Algebra.BigOperators.Group.List.Basic

/-!
# Totals

Where addition is exact, the order in which a dot product adds does not show: strides, trees and
partial sums together take up the product at each index once. Exactness is a property of the numbers
that elements stand for, since the addition of elements obeys no law.
-/

namespace Bandwidth.Dot

variable {α N : Type} [Element α] [AddCommMonoid N]

/-- Elements stand for numbers that are added exactly. -/
structure Additive (value : α → N) : Prop where
  zero : value Element.zero = 0
  add : ∀ x y, value (x + y) = value x + value y

variable {value : α → N} {x y : List α} {arraySize : Nat}

theorem Additive.foldl {ι : Type} (additive : Additive value) (summand : ι → α) (items : List ι)
    (start : α) :
    value (items.foldl (fun sum item => sum + summand item) start) =
      value start + (items.map fun item => value (summand item)).sum := by
  induction items generalizing start with
  | nil => simp
  | cons item items ih => simp [ih, additive.add, add_assoc]

theorem sum_flatMap {ι : Type} (items : List ι) (pick : ι → List N) :
    (items.flatMap pick).sum = (items.map fun item => (pick item).sum).sum := by
  rw [List.flatMap_def, List.sum_flatten, List.map_map]
  rfl

/-- The number that the product at an index stands for. -/
def productValue (value : α → N) (x y : List α) (index : Nat) : N :=
  value (x.getD index Element.zero * y.getD index Element.zero)

theorem value_workerSum (additive : Additive value) (worker : Worker) :
    value (workerSum x y arraySize worker) =
      ((worker.indices arraySize).map (productValue value x y)).sum := by
  rw [workerSum, productSum, additive.foldl, additive.zero, zero_add]
  rfl

theorem value_treeSum (additive : Additive value) (levels : Nat) (values : Nat → α) :
    value (treeSum levels values) =
      ((List.range (2 ^ levels)).map fun slot => value (values slot)).sum := by
  induction levels generalizing values with
  | zero => simp [treeSum]
  | succ levels ih =>
      have halves : 2 ^ (levels + 1) = 2 ^ levels + 2 ^ levels := by
        rw [Nat.pow_succ, Nat.mul_two]
      rw [treeSum, ih, halves, List.range_add]
      simp only [additive.add, List.sum_map_add, List.map_append, List.sum_append, List.map_map]
      simp [Function.comp_def, Nat.add_comm]

variable {geometry : Geometry} {levels : Nat}

/-- A group takes up the products at the indices of its workers. -/
theorem value_groupSum (additive : Additive value) (powerOfTwo : geometry.group = 2 ^ levels)
    (groupId : Nat) :
    value (groupSum levels x y arraySize geometry groupId) =
      (((geometry.groupWorkers groupId).flatMap (Worker.indices · arraySize)).map
        (productValue value x y)).sum := by
  rw [groupSum, value_treeSum additive, ← powerOfTwo]
  simp only [value_workerSum additive, Geometry.groupWorkers, List.flatMap_map,
    List.map_flatMap, sum_flatMap]

/-- All groups together take up the product at each index. -/
theorem sum_value_groupSum (additive : Additive value) (powerOfTwo : geometry.group = 2 ^ levels)
    (positive : 0 < geometry.grid) :
    ((List.range geometry.grid).map fun groupId =>
        value (groupSum levels x y arraySize geometry groupId)).sum =
      ((List.range arraySize).map (productValue value x y)).sum := by
  have size_pos : 0 < geometry.size := Nat.mul_pos positive (powerOfTwo ▸ Nat.two_pow_pos levels)
  have visited :
      (geometry.workers.flatMap (Worker.indices · arraySize)).Perm (List.range arraySize) := by
    rw [List.perm_ext_iff_of_nodup (Geometry.nodup_flatMap_indices geometry arraySize)
      List.nodup_range]
    intro index
    rw [Geometry.mem_flatMap_indices_iff size_pos, List.mem_range]
  rw [← (visited.map (productValue value x y)).sum_eq]
  simp only [value_groupSum additive powerOfTwo, Geometry.workers, Geometry.workersFrom,
    Nat.sub_zero, List.flatMap_assoc, List.range_eq_range', List.map_flatMap, sum_flatMap]

/-- The dot product of two lists stands for the sum of their products, whatever the number of
groups. -/
theorem value_listSum (additive : Additive value) {blocks : Nat} (positive : 0 < blocks)
    (x y : List α) :
    value (listSum blocks x y) = ((List.range x.length).map (productValue value x y)).sum := by
  rw [listSum, List.foldl_map, additive.foldl, additive.zero, zero_add]
  exact @sum_value_groupSum _ _ _ _ _ _ _ _ ⟨blocks, standardGroup⟩ standardLevels additive rfl
    positive

theorem value_listSum_replicate (additive : Additive value) {blocks : Nat} (positive : 0 < blocks)
    (length : Nat) (x y : α) :
    value (listSum blocks (List.replicate length x) (List.replicate length y)) =
      length • value (x * y) := by
  have products : ∀ index ∈ List.range length,
      productValue value (List.replicate length x) (List.replicate length y) index =
        value (x * y) := by
    intro index below
    simp [productValue, List.getD_eq_getElem?_getD, List.mem_range.mp below]
  rw [value_listSum additive positive, List.length_replicate, List.map_congr_left products]
  simp

end Bandwidth.Dot
