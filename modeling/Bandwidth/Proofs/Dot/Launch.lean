import Bandwidth.Element.Native
import Bandwidth.Proofs.Dot.Barriers
import Bandwidth.Proofs.Dot.Races
import Bandwidth.Proofs.Dot.Schedule
import Bandwidth.Proofs.Launch.Dispatch

/-!
# Dot products in any schedule

The groups of a dot product share nothing but the buffer of the partial sums, and each stores its
own. So the order of the groups does not matter either, nor which of them use the same shared memory
one after the other.
-/

namespace Bandwidth

namespace Memory

variable {α : Type}

theorem ext_of_contents {memory other : Memory α} (sizes : memory.buffers.size = other.buffers.size)
    (contents : ∀ buffer, memory.contents buffer = other.contents buffer) : memory = other :=
  ext_of_column sizes fun index => funext fun buffer => by rw [column, column, contents buffer]

theorem set_comm (memory : Memory α) (buffer : Nat) {index other : Nat} (different : index ≠ other)
    (value second : α) :
    (memory.set buffer index value).set buffer other second =
      (memory.set buffer other second).set buffer index value := by
  apply ext_of_contents (by simp only [size_buffers_set])
  intro place
  simp only [contents_set]
  split
  · exact Array.setIfInBounds_comm _ _ different
  · rfl

end Memory

namespace Dot

variable {α : Type}

/-- A memory in which some groups have stored their partial sums. -/
def published (sums : Nat) (value : Nat → α) (groups : List Nat) (memory : Memory α) : Memory α :=
  groups.foldl (fun memory groupId => memory.set sums groupId (value groupId)) memory

section Published

variable {sums : Nat} {value : Nat → α} {groups : List Nat} {memory : Memory α}

theorem published_perm {others : List Nat} (same : groups.Perm others) :
    published sums value groups memory = published sums value others memory := by
  refine same.foldl_eq' ?_ memory
  intro groupId _ other _ between
  by_cases equal : groupId = other
  · rw [equal]
  · exact Memory.set_comm between sums equal _ _

theorem contents_published_of_ne {buffer : Nat} (different : buffer ≠ sums) :
    (published sums value groups memory).contents buffer = memory.contents buffer := by
  induction groups generalizing memory with
  | nil => rfl
  | cons groupId groups ih =>
      rw [published, List.foldl_cons, ← published, ih, Memory.contents_set, if_neg different]

theorem size_contents_published (buffer : Nat) :
    ((published sums value groups memory).contents buffer).size =
      (memory.contents buffer).size := by
  induction groups generalizing memory with
  | nil => rfl
  | cons groupId groups ih =>
      rw [published, List.foldl_cons, ← published, ih, Memory.size_contents_set]

theorem getElem?_published (nodup : groups.Nodup)
    (inSums : ∀ groupId ∈ groups, groupId < (memory.contents sums).size) (index : Nat) :
    ((published sums value groups memory).contents sums)[index]? =
      if index ∈ groups then some (value index) else (memory.contents sums)[index]? := by
  induction groups generalizing memory with
  | nil => rfl
  | cons groupId groups ih =>
      rcases List.nodup_cons.mp nodup with ⟨fresh, rest_nodup⟩
      have own := inSums groupId List.mem_cons_self
      rw [published, List.foldl_cons, ← published, ih rest_nodup fun other otherMem => by
        rw [Memory.size_contents_set]
        exact inSums other (List.mem_cons_of_mem _ otherMem)]
      rw [Memory.contents_set, if_pos rfl]
      by_cases here : groupId = index
      · subst here
        simp [fresh, own]
      · simp [here, Ne.symm here]

end Published

variable [Element α]

/-- What a launch of the dot product relies on: its buffers reach far enough, and the partial sums
have one of their own. -/
structure Contract (geometry : Geometry) (levels a b sums arraySize : Nat)
    (memory : Memory α) : Prop where
  powerOfTwo : geometry.group = 2 ^ levels
  fits : geometry.grid * geometry.group < Word.bound
  isWord : arraySize < Word.bound
  inA : arraySize ≤ (memory.contents a).size
  inB : arraySize ≤ (memory.contents b).size
  inSums : geometry.grid ≤ (memory.contents sums).size
  sums_ne_a : sums ≠ a
  sums_ne_b : sums ≠ b

/-- A memory that differs from the one before the launch in partial sums only. -/
structure Between (a b sums : Nat) (memory now : Memory α) : Prop where
  a_eq : now.contents a = memory.contents a
  b_eq : now.contents b = memory.contents b
  size_eq : (now.contents sums).size = (memory.contents sums).size

/-- The order in which a dot product is run, and what its groups find in shared memory. -/
structure Schedule (α : Type) where
  groups : List Nat
  /-- What a group finds in its slots: what any group, or none, has left there. -/
  found : Nat → Array α
  orders : Nat → RegionOrders

namespace Schedule

/-- Every group runs once, with one slot for each of its workers. -/
structure Valid (schedule : Schedule α) (geometry : Geometry) : Prop where
  groups : schedule.groups.Perm (List.range geometry.grid)
  found : ∀ groupId < geometry.grid, (schedule.found groupId).size = geometry.group
  orders : ∀ groupId < geometry.grid, (schedule.orders groupId).Valid geometry.group

def runGroup (schedule : Schedule α) (geometry : Geometry) (a b sums arraySize groupId : Nat) :
    Procedure Fault (Memory α) Unit := fun memory =>
  match Group.runIn geometry (programIn (schedule.orders groupId) a b sums arraySize) groupId
      (schedule.found groupId, memory) with
  | (outcome, state) => (outcome.map fun _ => (), state.2)

def run (schedule : Schedule α) (geometry : Geometry) (a b sums arraySize : Nat) :
    Procedure Fault (Memory α) Unit :=
  Procedure.forEach (schedule.runGroup geometry a b sums arraySize) schedule.groups

end Schedule

section Contract

variable {geometry : Geometry} {levels a b sums arraySize groupId : Nat} {memory now : Memory α}

def partialSum (geometry : Geometry) (levels a b arraySize : Nat) (memory : Memory α)
    (groupId : Nat) : α :=
  groupSum levels (memory.contents a).toList (memory.contents b).toList arraySize geometry groupId

omit [Element α] in
theorem Between.set (contract : Contract geometry levels a b sums arraySize memory)
    (between : Between a b sums memory now) (groupId : Nat) (value : α) :
    Between a b sums memory (now.set sums groupId value) where
  a_eq := by rw [Memory.contents_set, if_neg (Ne.symm contract.sums_ne_a), between.a_eq]
  b_eq := by rw [Memory.contents_set, if_neg (Ne.symm contract.sums_ne_b), between.b_eq]
  size_eq := by rw [Memory.size_contents_set, between.size_eq]

/-- A group stores its partial sum, whatever it finds in its slots, and issues a barrier for each
level. -/
theorem runIn_run (contract : Contract geometry levels a b sums arraySize memory)
    (between : Between a b sums memory now) (inGrid : groupId < geometry.grid)
    {orders : RegionOrders} (valid : orders.Valid geometry.group) {found : Array α}
    (size_eq : found.size = geometry.group) :
    ∃ slots : Array α, slots.size = geometry.group ∧
      (Group.runIn geometry (programIn orders a b sums arraySize) groupId).run (found, now) =
        (.ok levels,
          (slots, now.set sums groupId
            (partialSum geometry levels a b arraySize memory groupId))) := by
  rcases programIn_run ⟨groupId, geometry⟩ ⟨found, 0, now⟩ sums valid contract.powerOfTwo inGrid
      contract.fits contract.isWord size_eq (between.a_eq ▸ contract.inA)
      (between.b_eq ▸ contract.inB) (between.size_eq ▸ contract.inSums) with
    ⟨slots, slots_size, ran⟩
  refine ⟨slots, slots_size, ?_⟩
  simp only [Procedure.run] at ran ⊢
  simp only [Group.runIn, ran, between.a_eq, between.b_eq, Nat.zero_add]
  rfl

/-- While some groups are left to store their partial sums, these are what separates the memory from
the goal. -/
structure Storing (geometry : Geometry) (levels a b sums arraySize : Nat) (memory : Memory α)
    (left : List Nat) (now : Memory α) : Prop where
  between : Between a b sums memory now
  within : ∀ groupId ∈ left, groupId < geometry.grid
  reaches : published sums (partialSum geometry levels a b arraySize memory) left now =
    published sums (partialSum geometry levels a b arraySize memory)
      (List.range geometry.grid) memory

theorem storing_start {groups : List Nat} (same : groups.Perm (List.range geometry.grid)) :
    Storing geometry levels a b sums arraySize memory groups memory where
  between := ⟨rfl, rfl, rfl⟩
  within _ groupMem := List.mem_range.mp (same.mem_iff.mp groupMem)
  reaches := published_perm same

theorem Storing.step (contract : Contract geometry levels a b sums arraySize memory)
    {rest : List Nat}
    (storing : Storing geometry levels a b sums arraySize memory (groupId :: rest) now)
    {orders : RegionOrders} (valid : orders.Valid geometry.group) {found : Array α}
    (size_eq : found.size = geometry.group) :
    ∃ (slots : Array α) (after : Memory α), slots.size = geometry.group ∧
      (Group.runIn geometry (programIn orders a b sums arraySize) groupId).run (found, now) =
        (.ok levels, (slots, after)) ∧
      Storing geometry levels a b sums arraySize memory rest after := by
  have inGrid := storing.within groupId List.mem_cons_self
  rcases runIn_run contract storing.between inGrid valid size_eq with ⟨slots, slots_size, ran⟩
  refine ⟨slots, _, slots_size, ran, storing.between.set contract groupId _, ?_, storing.reaches⟩
  intro other otherMem
  exact storing.within other (List.mem_cons_of_mem _ otherMem)

theorem Schedule.run_eq (contract : Contract geometry levels a b sums arraySize memory)
    {schedule : Schedule α} (valid : schedule.Valid geometry) :
    (schedule.run geometry a b sums arraySize).run memory =
      (.ok (), published sums (partialSum geometry levels a b arraySize memory)
        (List.range geometry.grid) memory) := by
  have step : ∀ groupId rest now,
      Storing geometry levels a b sums arraySize memory (groupId :: rest) now →
      ∃ after, (schedule.runGroup geometry a b sums arraySize groupId).run now = (.ok (), after) ∧
        Storing geometry levels a b sums arraySize memory rest after := by
    intro groupId rest now storing
    have inGrid := storing.within groupId List.mem_cons_self
    rcases storing.step contract (valid.orders groupId inGrid) (valid.found groupId inGrid) with
      ⟨slots, after, _, ran, later⟩
    refine ⟨after, ?_, later⟩
    simp only [Procedure.run] at ran ⊢
    simp only [Schedule.runGroup, ran]
    rfl
  rcases Procedure.forEach_of_steps step (storing_start valid.groups) with ⟨after, ran, final⟩
  rw [← final.reaches]
  exact ran

/-- Before a group runs in turn: it finds a slot for each worker, and the groups from it on have
their partial sums to store. -/
structure StoringFrom (geometry : Geometry) (levels a b sums arraySize : Nat) (memory : Memory α)
    (groupId : Nat) (found : Array α) (now : Memory α) : Prop where
  size_eq : found.size = geometry.group
  storing : Storing geometry levels a b sums arraySize memory
    (List.range' groupId (geometry.grid - groupId)) now

theorem StoringFrom.step (contract : Contract geometry levels a b sums arraySize memory)
    (below : groupId < geometry.grid) {found left : Array α} {count : Nat} {after : Memory α}
    (before : StoringFrom geometry levels a b sums arraySize memory groupId found now)
    (ran : (program a b sums arraySize ⟨groupId, geometry⟩).run ⟨found, 0, now⟩ =
      (.ok (), ⟨left, count, after⟩)) :
    count = levels ∧
      StoringFrom geometry levels a b sums arraySize memory (groupId + 1) left after := by
  have rest : geometry.grid - groupId = (geometry.grid - (groupId + 1)) + 1 := by omega
  have storing := before.storing
  rw [rest, List.range'_succ] at storing
  rw [program_eq_programIn] at ran
  rcases storing.step contract (RegionOrders.ascending_valid geometry.group) before.size_eq with
    ⟨slots, next, slots_size, ranAgain, later⟩
  rw [runIn_run_iff] at ranAgain
  rw [ran] at ranAgain
  simp only [Prod.mk.injEq, GroupState.mk.injEq, true_and] at ranAgain
  rcases ranAgain with ⟨rfl, rfl, rfl⟩
  exact ⟨rfl, slots_size, later⟩

theorem StoringFrom.blank {found : Array α}
    (before : StoringFrom geometry levels a b sums arraySize memory groupId found now) :
    StoringFrom geometry levels a b sums arraySize memory groupId
      (geometry.blankSlots (.ofElement α)) now :=
  ⟨Array.size_replicate, before.storing⟩

/-- The groups of a launch store all partial sums, however they are shared out. -/
theorem runGroups_eq (contract : Contract geometry levels a b sums arraySize memory) (units : Nat) :
    (Device.runGroups units geometry (.ofElement α) (program a b sums arraySize)).run memory =
      (.ok (Array.replicate geometry.grid levels),
        published sums (partialSum geometry levels a b arraySize memory)
          (List.range geometry.grid) memory) := by
  have reaches : Reaches geometry a b sums arraySize memory :=
    ⟨contract.inA, contract.inB, contract.inSums⟩
  rcases Device.runGroups_turns
      (program_faultFree contract.powerOfTwo contract.fits contract.isWord) units
      ⟨Array.size_replicate, reaches⟩ with
    ⟨counts, after, length, ran, turns⟩
  have start : StoringFrom geometry levels a b sums arraySize memory 0
      (geometry.blankSlots (.ofElement α)) memory :=
    ⟨Array.size_replicate, storing_start (by rw [Nat.sub_zero, List.range_eq_range'])⟩
  rcases turns.invariant (fun _ _ _ => StoringFrom.blank)
      (fun _ _ _ _ _ _ below => StoringFrom.step contract below) (by omega) start with
    ⟨same, left, _, final⟩
  rw [Nat.zero_add, length, Nat.sub_self] at final
  have reached : after = _ := final.reaches
  rw [ran, List.eq_replicate_of_mem same, length, List.toArray_replicate, ← reached]

/-- A launch stores all partial sums, is counted and told, and issues a barrier for each level of
the tree. -/
theorem launch_run (contract : Contract geometry levels a b sums arraySize memory)
    (answers : geometry.grid * Word.bytes ≤ Word.greatestObject)
    (shared : geometry.group * Element.bytes α ≤ Word.greatestObject) (device : Device)
    (log : Array Event) :
    (launch geometry a b sums arraySize).run ⟨(device, memory), log⟩ =
      (.ok ⟨geometry.grid, geometry.size, if geometry.grid = 0 then 0 else levels⟩,
        ⟨(device.beginLaunch,
          published sums (partialSum geometry levels a b arraySize memory)
            (List.range geometry.grid) memory),
          log.push (.groupsLaunched device.description.index geometry)⟩) :=
  Device.launchGroups_run contract.powerOfTwo contract.fits answers shared (runGroups_eq contract _)

theorem getElem?_partialSums (contract : Contract geometry levels a b sums arraySize memory)
    (index : Nat) :
    ((published sums (partialSum geometry levels a b arraySize memory)
        (List.range geometry.grid) memory).contents sums)[index]? =
      if index < geometry.grid then some (partialSum geometry levels a b arraySize memory index)
      else (memory.contents sums)[index]? := by
  rw [getElem?_published List.nodup_range]
  · simp only [List.mem_range]
  · intro groupId groupMem
    exact Nat.lt_of_lt_of_le (List.mem_range.mp groupMem) contract.inSums

/--
A dot product stores the same partial sums in every schedule: in every order of the groups, whatever
they find in shared memory, in every order of the workers in each region, and for every number of
units. Its workers do not race.
-/
theorem sums_independent_of_schedule
    (contract : Contract geometry levels a b sums arraySize memory) :
    ∃ after : Memory α,
      (∀ groupId < geometry.grid, (after.contents sums)[groupId]? =
        some (groupSum levels (memory.contents a).toList (memory.contents b).toList arraySize
          geometry groupId)) ∧
      (∀ index ≥ geometry.grid, (after.contents sums)[index]? = (memory.contents sums)[index]?) ∧
      (∀ buffer, buffer ≠ sums → after.contents buffer = memory.contents buffer) ∧
      (∀ schedule : Schedule α, schedule.Valid geometry →
        (schedule.run geometry a b sums arraySize).run memory = (.ok (), after)) ∧
      (∀ units,
        (Device.runGroups units geometry (.ofElement α) (program a b sums arraySize)).run memory =
          (.ok (Array.replicate geometry.grid levels), after)) ∧
      RaceFree α geometry a b sums arraySize := by
  refine ⟨published sums (partialSum geometry levels a b arraySize memory)
      (List.range geometry.grid) memory,
    ?_, ?_, ?_, fun schedule valid => Schedule.run_eq contract valid, runGroups_eq contract,
    raceFree contract.fits contract.isWord⟩
  · intro groupId below
    rw [getElem?_partialSums contract, if_pos below]
    rfl
  · intro index past
    rw [getElem?_partialSums contract, if_neg (Nat.not_lt.mpr past)]
  · intro buffer different
    exact contents_published_of_ne different

end Contract

/-- Two groups of two workers, as a launch runs them and in the opposite orders, in slots that are
not blank. -/
theorem sums_same_in_opposite_orders :
    ∃ after : Memory Float,
      (Device.runGroups 1 ⟨2, 2⟩ (.ofElement Float) (program 0 1 2 3)).run
          ⟨#[#[1.0, 2.0, 3.0], #[4.0, 5.0, 6.0], #[0.0, 0.0]]⟩ = (.ok #[1, 1], after) ∧
        (Schedule.run ⟨[1, 0], fun _ => #[7.0, 8.0], fun _ => ⟨[1, 0], fun _ => [1, 0], [1, 0]⟩⟩
            ⟨2, 2⟩ 0 1 2 3).run
          ⟨#[#[1.0, 2.0, 3.0], #[4.0, 5.0, 6.0], #[0.0, 0.0]]⟩ = (.ok (), after) := by
  have contract : Contract (α := Float) ⟨2, 2⟩ 1 0 1 2 3
      ⟨#[#[1.0, 2.0, 3.0], #[4.0, 5.0, 6.0], #[0.0, 0.0]]⟩ :=
    ⟨rfl, by decide, by decide, Nat.le_refl 3, Nat.le_refl 3, Nat.le_refl 2, by decide, by decide⟩
  rcases sums_independent_of_schedule contract with ⟨after, _, _, _, schedules, launches, _⟩
  have opposite : [1, 0].Perm (List.range 2) := List.Perm.swap 0 1 []
  exact ⟨after, launches 1,
    schedules _ ⟨opposite, fun _ _ => rfl, fun _ _ => ⟨opposite, fun _ => opposite, opposite⟩⟩⟩

end Dot

end Bandwidth
