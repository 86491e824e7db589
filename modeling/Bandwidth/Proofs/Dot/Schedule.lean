import Bandwidth.Proofs.Dot.Region

/-!
# Scheduled dot products

On a device the groups of a dot product run in some order, each finds in shared memory what was left
there, and in each region its workers run in some order. A schedule fixes all of this, and the
program of a group is the one that keeps the ascending order. The invariants below say what a region
leaves in the slots of a group, whatever the order.
-/

namespace Bandwidth

namespace Dot

variable {α : Type} [Element α]

/-- An order of the workers of a group in each of its regions. -/
structure RegionOrders where
  accumulate : List Nat
  /-- The order in the step of the tree with some offset. -/
  foldStep : Nat → List Nat
  publish : List Nat

namespace RegionOrders

/-- The order in which a launch runs the workers of a group. -/
def ascending (size : Nat) : RegionOrders :=
  ⟨List.range size, fun _ => List.range size, List.range size⟩

/-- Every worker runs once in each region. -/
structure Valid (orders : RegionOrders) (size : Nat) : Prop where
  accumulate : orders.accumulate.Perm (List.range size)
  foldStep : ∀ offset, (orders.foldStep offset).Perm (List.range size)
  publish : orders.publish.Perm (List.range size)

theorem ascending_valid (size : Nat) : (ascending size).Valid size :=
  ⟨List.Perm.refl _, fun _ => List.Perm.refl _, List.Perm.refl _⟩

end RegionOrders

/-- Runs one region for the workers of a group in some order. -/
def region (group : Group) (order : List Nat)
    (body : Worker → Procedure Fault (GroupState α (Memory α)) Unit) :
    Procedure Fault (GroupState α (Memory α)) Unit :=
  Procedure.forEach (fun localId => body ⟨localId, group.id, group.geometry⟩) order

omit [Element α] in
theorem forEachWorker_eq_region (group : Group)
    (body : Worker → Procedure Fault (GroupState α (Memory α)) Unit) :
    group.forEachWorker body = region group (List.range group.geometry.group) body :=
  group.forEachWorker_eq_forEach body

def treeIn (order : Nat → List Nat) (group : Group) (offset : Nat) :
    Procedure Fault (GroupState α (Memory α)) Unit :=
  if offset = 0 then
    pure ()
  else do
    Group.sync
    region group (order offset) (foldStep offset)
    treeIn order group (offset / 2)
termination_by offset

def programIn (orders : RegionOrders) (a b sums arraySize : Nat) :
    GroupProgram α (Memory α) := fun group => do
  region group orders.accumulate (accumulate a b arraySize)
  treeIn orders.foldStep group (group.geometry.group / 2)
  region group orders.publish (publish sums)

theorem tree_eq_treeIn (group : Group) (offset : Nat) :
    tree (α := α) group offset =
      treeIn (RegionOrders.ascending group.geometry.group).foldStep group offset := by
  induction offset using Nat.strongRecOn with
  | ind offset ih =>
      rw [tree, treeIn]
      split
      · rfl
      · rw [ih (offset / 2) (by omega), forEachWorker_eq_region]
        rfl

/-- The program of a group runs the workers in ascending order. -/
theorem program_eq_programIn (a b sums arraySize : Nat) (group : Group) :
    program (α := α) a b sums arraySize group =
      programIn (.ascending group.geometry.group) a b sums arraySize group := by
  rw [program, programIn, tree_eq_treeIn, forEachWorker_eq_region, forEachWorker_eq_region]
  rfl

section Regions

variable {group : Group} {order : List Nat} {state : GroupState α (Memory α)}
  {a b sums arraySize : Nat}

omit [Element α] in
/-- A region that works on the slots alone keeps what every worker in its turn keeps. -/
theorem region_run_of_steps {body : Worker → Procedure Fault (GroupState α (Memory α)) Unit}
    {invariant : List Nat → Array α → Prop}
    (step : ∀ localId rest slots, invariant (localId :: rest) slots →
      ∃ after, (body ⟨localId, group.id, group.geometry⟩).run { state with slots } =
          (.ok (), { state with slots := after }) ∧
        invariant rest after)
    (start : invariant order state.slots) :
    ∃ slots, (region group order body).run state = (.ok (), { state with slots }) ∧
      invariant [] slots := by
  induction order generalizing state with
  | nil => exact ⟨state.slots, rfl, start⟩
  | cons localId rest ih =>
      rcases step localId rest state.slots start with ⟨between, ran, later⟩
      rcases @ih { state with slots := between } step later with ⟨slots, finished, final⟩
      refine ⟨slots, ?_, final⟩
      rw [region, Procedure.forEach_cons, ran]
      exact finished

/-- In the first region the slots of the workers that are left may hold anything. -/
structure Accumulating (group : Group) (values : Nat → α) (left : List Nat)
    (slots : Array α) : Prop where
  within : ∀ localId ∈ left, localId < group.geometry.group
  size_eq : slots.size = group.geometry.group
  holds : ∀ slot < group.geometry.group, slot ∉ left → slots[slot]? = some (values slot)

omit [Element α] in
theorem Accumulating.step {values : Nat → α} {localId : Nat} {rest : List Nat} {slots : Array α}
    (accumulating : Accumulating group values (localId :: rest) slots) :
    Accumulating group values rest (slots.setIfInBounds localId (values localId)) where
  within other otherMem := accumulating.within other (List.mem_cons_of_mem _ otherMem)
  size_eq := by simpa using accumulating.size_eq
  holds slot below finished := by
    by_cases here : localId = slot
    · subst here
      exact Array.getElem?_setIfInBounds_self_of_lt (accumulating.size_eq ▸ below)
    · rw [Array.getElem?_setIfInBounds_ne here]
      exact accumulating.holds slot below (by simp [Ne.symm here, finished])

/-- After the first region every slot holds the sum of its worker. -/
theorem region_accumulate_run (same : order.Perm (List.range group.geometry.group))
    (inGrid : group.id < group.geometry.grid) (fits : group.geometry.size < Word.bound)
    (isWord : arraySize < Word.bound) (size_eq : state.slots.size = group.geometry.group)
    (inA : arraySize ≤ (state.outside.contents a).size)
    (inB : arraySize ≤ (state.outside.contents b).size) {values : Nat → α}
    (sums : ∀ slot, values slot = workerSum (state.outside.contents a).toList
      (state.outside.contents b).toList arraySize ⟨slot, group.id, group.geometry⟩) :
    ∃ slots : Array α,
      (region group order (accumulate a b arraySize)).run state = (.ok (), { state with slots }) ∧
        slots.size = group.geometry.group ∧
        ∀ slot < group.geometry.group, slots[slot]? = some (values slot) := by
  have start : Accumulating group values order state.slots := by
    refine ⟨fun localId localIdMem => List.mem_range.mp (same.mem_iff.mp localIdMem), size_eq, ?_⟩
    intro slot below finished
    exact absurd (same.mem_iff.mpr (List.mem_range.mpr below)) finished
  have step : ∀ localId rest slots, Accumulating group values (localId :: rest) slots →
      ∃ after, (accumulate a b arraySize ⟨localId, group.id, group.geometry⟩).run
            { state with slots } = (.ok (), { state with slots := after }) ∧
        Accumulating group values rest after := by
    intro localId rest slots accumulating
    have own : (⟨localId, group.id, group.geometry⟩ : Worker).InGrid :=
      ⟨inGrid, accumulating.within localId List.mem_cons_self⟩
    refine ⟨_, accumulate_run own fits isWord inA inB, ?_⟩
    dsimp only
    rw [← sums localId]
    exact accumulating.step
  rcases region_run_of_steps step start with ⟨slots, ran, final⟩
  exact ⟨slots, ran, final.size_eq, fun slot below => final.holds slot below (by simp)⟩

/-- In a step of the tree a slot below the offset becomes the sum of two slots when its worker
runs. -/
structure Folding (group : Group) (offset : Nat) (values : Nat → α) (left : List Nat)
    (slots : Array α) : Prop where
  nodup : left.Nodup
  size_eq : slots.size = group.geometry.group
  holds : ∀ slot < 2 * offset, slots[slot]? =
    some (if slot < offset ∧ slot ∉ left then values slot + values (slot + offset) else values slot)

theorem Folding.step {offset localId : Nat} {values : Nat → α} {rest : List Nat} {slots : Array α}
    (folding : Folding group offset values (localId :: rest) slots) :
    Folding group offset values rest
      (if localId < offset then
        slots.modify localId (· + slots.getD (localId + offset) Element.zero)
      else slots) := by
  rcases List.nodup_cons.mp folding.nodup with ⟨fresh, rest_nodup⟩
  by_cases adds : localId < offset
  · -- Neither the worker's slot nor the one that it adds has been written in this region.
    have own := folding.holds localId (by omega)
    have other := folding.holds (localId + offset) (by omega)
    rw [if_neg (by simp)] at own
    rw [if_neg (by omega)] at other
    rw [if_pos adds]
    refine ⟨rest_nodup, by simpa using folding.size_eq, ?_⟩
    intro slot below
    rw [Array.getElem?_modify]
    by_cases here : localId = slot
    · subst here
      simp [own, other, adds, fresh, Array.getD_eq_getD_getElem?]
    · rw [if_neg here, folding.holds slot below]
      simp [Ne.symm here]
  · rw [if_neg adds]
    refine ⟨rest_nodup, folding.size_eq, ?_⟩
    intro slot below
    have here : slot < offset → slot ≠ localId := by omega
    rw [folding.holds slot below]
    by_cases lower : slot < offset <;> simp [lower, here]

/-- A step of the tree adds the upper half of the slots to the lower half. -/
theorem region_foldStep_run (state : GroupState α (Memory α)) {offset : Nat} {values : Nat → α}
    (same : order.Perm (List.range group.geometry.group))
    (within : 2 * offset ≤ group.geometry.group) (size_eq : state.slots.size = group.geometry.group)
    (holds : ∀ slot < 2 * offset, state.slots[slot]? = some (values slot)) :
    ∃ slots : Array α,
      (region group order (foldStep offset)).run state = (.ok (), { state with slots }) ∧
        slots.size = group.geometry.group ∧
        ∀ slot < offset, slots[slot]? = some (values slot + values (slot + offset)) := by
  have start : Folding group offset values order state.slots := by
    refine ⟨same.nodup_iff.mpr List.nodup_range, size_eq, ?_⟩
    intro slot below
    have waiting : slot ∈ order := same.mem_iff.mpr (List.mem_range.mpr (by omega))
    rw [if_neg fun finished => finished.2 waiting, holds slot below]
  rcases region_run_of_steps
      (fun localId _ slots folding => ⟨_, foldStep_run offset _ _, folding.step⟩) start with
    ⟨slots, ran, final⟩
  refine ⟨slots, ran, final.size_eq, ?_⟩
  intro slot below
  rw [final.holds slot (by omega)]
  simp [below]

/-- In the last region the partial sum is there once the first worker has run. -/
structure Publishing (group : Group) (sums : Nat) (value : α) (before : GroupState α (Memory α))
    (left : List Nat) (now : GroupState α (Memory α)) : Prop where
  nodup : left.Nodup
  now_eq : now =
    if 0 ∈ left then before else { before with outside := before.outside.set sums group.id value }

theorem Publishing.step {value : α} {localId : Nat} {rest : List Nat}
    {now : GroupState α (Memory α)} (inSums : group.id < (state.outside.contents sums).size)
    (holds : state.slots[0]? = some value)
    (publishing : Publishing group sums value state (localId :: rest) now) :
    ∃ after, (publish sums ⟨localId, group.id, group.geometry⟩).run now = (.ok (), after) ∧
      Publishing group sums value state rest after := by
  rcases List.nodup_cons.mp publishing.nodup with ⟨fresh, rest_nodup⟩
  have nowEq := publishing.now_eq
  have inNow : group.id < (now.outside.contents sums).size := by
    rw [nowEq]
    split <;> simpa using inSums
  refine ⟨_, publish_run inNow, rest_nodup, ?_⟩
  by_cases first : localId = 0
  · subst first
    rw [if_pos List.mem_cons_self] at nowEq
    rw [if_neg fresh, nowEq]
    simp [holds, Array.getD_eq_getD_getElem?]
  · simp only [if_neg first]
    rw [nowEq]
    simp [Ne.symm first]

theorem region_publish_run {value : α} (same : order.Perm (List.range group.geometry.group))
    (positive : 0 < group.geometry.group) (inSums : group.id < (state.outside.contents sums).size)
    (holds : state.slots[0]? = some value) :
    (region group order (publish sums)).run state =
      (.ok (), { state with outside := state.outside.set sums group.id value }) := by
  have start : Publishing group sums value state order state := by
    refine ⟨same.nodup_iff.mpr List.nodup_range, ?_⟩
    rw [if_pos (same.mem_iff.mpr (List.mem_range.mpr positive))]
  rcases Procedure.forEach_of_steps (fun _ _ _ => Publishing.step inSums holds) start with
    ⟨after, ran, final⟩
  have afterEq := final.now_eq
  rw [if_neg (by simp)] at afterEq
  rw [← afterEq]
  exact ran

/-- The tree leaves its sum in the first slot and issues a barrier for each level. -/
theorem treeIn_run (state : GroupState α (Memory α)) {orders : Nat → List Nat}
    (same : ∀ offset, (orders offset).Perm (List.range group.geometry.group)) {levels : Nat}
    {values : Nat → α} (within : 2 ^ levels ≤ group.geometry.group)
    (size_eq : state.slots.size = group.geometry.group)
    (holds : ∀ slot < 2 ^ levels, state.slots[slot]? = some (values slot)) :
    ∃ slots : Array α,
      (treeIn orders group (2 ^ levels / 2)).run state =
        (.ok (), ⟨slots, state.barriers + levels, state.outside⟩) ∧
        slots.size = group.geometry.group ∧ slots[0]? = some (treeSum levels values) := by
  induction levels generalizing values state with
  | zero =>
      refine ⟨state.slots, ?_, size_eq, holds 0 (by omega)⟩
      rw [treeIn, if_pos (by omega)]
      rfl
  | succ levels ih =>
      have positive := Nat.two_pow_pos levels
      have offset : 2 ^ (levels + 1) / 2 = 2 ^ levels := by
        rw [Nat.pow_succ, Nat.mul_div_cancel _ (by omega)]
      rw [Nat.pow_succ] at within holds
      rw [Nat.mul_comm] at within holds
      rcases region_foldStep_run { state with barriers := state.barriers + 1 } (same (2 ^ levels))
          within size_eq holds with
        ⟨between, ran, between_size, folded⟩
      rcases ih ⟨between, state.barriers + 1, state.outside⟩ (by omega) between_size folded with
        ⟨slots, finished, slots_size, first⟩
      refine ⟨slots, ?_, slots_size, first⟩
      have synced : (Group.sync : Procedure Fault (GroupState α (Memory α)) Unit).run state =
          (.ok (), { state with barriers := state.barriers + 1 }) := rfl
      rw [offset, treeIn, if_neg (by omega), Procedure.bind_run_of_ok synced,
        Procedure.bind_run_of_ok ran, finished, Nat.add_assoc, Nat.add_comm 1]

/-- A group leaves its partial sum, whatever it found in its slots and in whatever order its workers
ran. -/
theorem programIn_run (group : Group) (state : GroupState α (Memory α)) (sums : Nat)
    {orders : RegionOrders} (valid : orders.Valid group.geometry.group) {levels : Nat}
    (powerOfTwo : group.geometry.group = 2 ^ levels) (inGrid : group.id < group.geometry.grid)
    (fits : group.geometry.size < Word.bound) (isWord : arraySize < Word.bound)
    (size_eq : state.slots.size = group.geometry.group)
    (inA : arraySize ≤ (state.outside.contents a).size)
    (inB : arraySize ≤ (state.outside.contents b).size)
    (inSums : group.geometry.grid ≤ (state.outside.contents sums).size) :
    ∃ slots : Array α, slots.size = group.geometry.group ∧
      (programIn orders a b sums arraySize group).run state =
        (.ok (), ⟨slots, state.barriers + levels, state.outside.set sums group.id
          (groupSum levels (state.outside.contents a).toList (state.outside.contents b).toList
            arraySize group.geometry group.id)⟩) := by
  rcases region_accumulate_run valid.accumulate inGrid fits isWord size_eq inA inB
      (fun _ => rfl) with
    ⟨between, accumulated, between_size, sums_hold⟩
  rcases treeIn_run { state with slots := between } valid.foldStep (Nat.le_of_eq powerOfTwo.symm)
    between_size (powerOfTwo ▸ sums_hold) with ⟨slots, folded, slots_size, first⟩
  refine ⟨slots, slots_size, ?_⟩
  have positive : 0 < group.geometry.group := powerOfTwo ▸ Nat.two_pow_pos levels
  rw [programIn, powerOfTwo, Procedure.bind_run_of_ok accumulated, Procedure.bind_run_of_ok folded]
  exact region_publish_run valid.publish positive (Nat.lt_of_lt_of_le inGrid inSums) first

end Regions

end Dot

end Bandwidth
