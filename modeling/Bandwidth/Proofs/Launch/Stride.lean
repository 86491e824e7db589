import Bandwidth.Launch.Geometry
import Bandwidth.Launch.GridWalk
import Mathlib.Data.List.Nodup

/-!
# Strides through an array

A walk yields its first index and every index that lies a number of strides after it, as far as the
array reaches, and yields them in increasing order. A step that saturates does not matter: the
greatest word is no index of an array, so the walk is over where it would have left the range of
words.

The walks of the workers of a grid start at different places below the number of workers and stride
by that number. So the indices of a worker are those that leave its place as a remainder, and every
index of the array belongs to exactly one worker.
-/

namespace Bandwidth

namespace GridWalk

/-- After a step the walk stands one stride further, or at the greatest word, which no array
reaches. -/
theorem advance_next (walk : GridWalk) :
    walk.advance.next = walk.next + walk.stride ∨
      walk.stop ≤ walk.advance.next ∧ walk.stop ≤ walk.next + walk.stride := by
  have stop_le := walk.stop_le
  simp only [advance, Word.addSaturating]
  omega

/-- A walk yields what lies a number of strides after its first index, as far as the array
reaches. -/
theorem mem_indices_iff {walk : GridWalk} {index : Nat} :
    index ∈ walk.indices ↔
      index < walk.stop ∧ ∃ steps, index = walk.next + steps * walk.stride := by
  fun_induction indices walk with
  | case1 walk more ih =>
      rw [List.mem_cons, ih]
      constructor
      · rintro (rfl | ⟨below, steps, rfl⟩)
        · exact ⟨more, 0, by simp⟩
        · refine ⟨below, ?_⟩
          rcases walk.advance_next with advanced | ⟨ended, _⟩
          · exact ⟨steps + 1, by rw [advanced, Nat.succ_mul]; simp only [advance]; omega⟩
          · have := Nat.le_add_right walk.advance.next (steps * walk.advance.stride)
            simp only [advance] at below ended this
            omega
      · rintro ⟨below, steps, rfl⟩
        cases steps with
        | zero => simp
        | succ steps =>
            right
            have far : walk.next + walk.stride ≤ walk.next + (steps + 1) * walk.stride := by
              rw [Nat.succ_mul]
              omega
            rcases walk.advance_next with advanced | ⟨_, ended⟩
            · exact ⟨below, steps, by rw [advanced, Nat.succ_mul]; simp only [advance]; omega⟩
            · omega
  | case2 walk ended =>
      constructor
      · intro impossible
        simp at impossible
      · rintro ⟨below, steps, rfl⟩
        have := Nat.le_add_right walk.next (steps * walk.stride)
        omega

theorem pairwise_lt_indices (walk : GridWalk) : walk.indices.Pairwise (· < ·) := by
  fun_induction indices walk with
  | case1 walk more ih =>
      refine List.pairwise_cons.mpr ⟨?_, ih⟩
      intro index indexMem
      rcases mem_indices_iff.mp indexMem with ⟨_, steps, rfl⟩
      have further := distance_advance_lt more
      have := Nat.le_add_right walk.advance.next (steps * walk.advance.stride)
      simp only [advance] at further this ⊢
      omega
  | case2 walk ended => exact List.Pairwise.nil

/-- The numbers below `stop` that lie a number of strides after `first`, in order. -/
def strided (first stride stop : Nat) : List Nat :=
  List.range' first ((stop - first + stride - 1) / stride) stride

theorem lt_strides_iff {first stride stop steps : Nat} (positive : 0 < stride) :
    steps < (stop - first + stride - 1) / stride ↔ first + steps * stride < stop := by
  rw [Nat.lt_iff_add_one_le, Nat.le_div_iff_mul_le positive, Nat.succ_mul]
  omega

theorem mem_strided_iff {first stride stop index : Nat} (positive : 0 < stride) :
    index ∈ strided first stride stop ↔
      index < stop ∧ ∃ steps, index = first + steps * stride := by
  simp only [strided, List.mem_range', Nat.mul_comm stride]
  constructor
  · rintro ⟨steps, below, rfl⟩
    exact ⟨(lt_strides_iff positive).mp below, steps, rfl⟩
  · rintro ⟨below, steps, rfl⟩
    exact ⟨steps, (lt_strides_iff positive).mpr below, rfl⟩

/-- A walk takes full strides: that its last step saturates does not show. -/
theorem indices_eq_strided (walk : GridWalk) :
    walk.indices = strided walk.next walk.stride walk.stop := by
  have ordered := walk.pairwise_lt_indices
  have strides : (strided walk.next walk.stride walk.stop).Pairwise (· < ·) :=
    List.pairwise_lt_range' walk.stride walk.stride_pos
  have same : walk.indices.Perm (strided walk.next walk.stride walk.stop) := by
    apply (List.perm_ext_iff_of_nodup (ordered.imp Nat.ne_of_lt) (strides.imp Nat.ne_of_lt)).mpr
    intro index
    rw [mem_indices_iff, mem_strided_iff walk.stride_pos]
  exact same.eq_of_pairwise (fun _ _ _ _ up down => absurd up (Nat.lt_asymm down)) ordered strides

/-- What lies a number of strides after a place below the stride leaves that place as the
remainder. -/
theorem exists_strides_iff_mod {place stride index : Nat} (below : place < stride) :
    (∃ steps, index = place + steps * stride) ↔ index % stride = place := by
  constructor
  · rintro ⟨steps, rfl⟩
    rw [Nat.add_mul_mod_self_right, Nat.mod_eq_of_lt below]
  · intro remainder
    exact ⟨index / stride, by rw [← remainder, Nat.mul_comm, Nat.mod_add_div]⟩

/-- The walk that starts below its stride yields the indices with its start as the remainder. -/
theorem indices_eq_filter {walk : GridWalk} (start : walk.next < walk.stride) :
    walk.indices = (List.range walk.stop).filter fun index => index % walk.stride = walk.next := by
  have members : ∀ index, index ∈ walk.indices ↔
      index ∈ (List.range walk.stop).filter fun index => index % walk.stride = walk.next := by
    intro index
    simp only [mem_indices_iff, List.mem_filter, List.mem_range, decide_eq_true_eq,
      exists_strides_iff_mod start]
  have ordered := walk.pairwise_lt_indices
  have filtered :
      ((List.range walk.stop).filter fun index =>
        index % walk.stride = walk.next).Pairwise (· < ·) :=
    List.pairwise_lt_range.filter _
  have same :=
    (List.perm_ext_iff_of_nodup (ordered.imp Nat.ne_of_lt) (filtered.imp Nat.ne_of_lt)).mpr members
  exact same.eq_of_pairwise (fun _ _ _ _ up down => absurd up (Nat.lt_asymm down)) ordered filtered

end GridWalk

namespace Geometry

def size (geometry : Geometry) : Nat := geometry.grid * geometry.group

theorem totalWorkers_eq {geometry : Geometry} (fits : geometry.size < Word.bound) :
    geometry.totalWorkers = .ok geometry.size :=
  Word.mul_eq_ok fits

end Geometry

theorem Word.min_greatest {word : Nat} (isWord : word < Word.bound) :
    min word Word.greatest = word := by
  simp only [Word.bound] at isWord
  simp only [Word.greatest]
  omega

namespace Worker

/-- The place of a worker in the whole grid, as a number and not as a checked word. -/
def place (worker : Worker) : Nat := worker.groupId * worker.geometry.group + worker.localId

def indices (worker : Worker) (arraySize : Nat) : List Nat :=
  (List.range arraySize).filter fun index => index % worker.geometry.size = worker.place

structure InGrid (worker : Worker) : Prop where
  groupId_lt : worker.groupId < worker.geometry.grid
  localId_lt : worker.localId < worker.geometry.group

variable {worker : Worker}

/-- The places of a group end where those of the next group start. -/
theorem InGrid.group_end_le (inGrid : worker.InGrid) :
    worker.groupId * worker.geometry.group + worker.geometry.group ≤ worker.geometry.size := by
  rw [← Nat.succ_mul]
  exact Nat.mul_le_mul_right _ inGrid.groupId_lt

theorem InGrid.place_lt (inGrid : worker.InGrid) : worker.place < worker.geometry.size := by
  have := inGrid.group_end_le
  have := inGrid.localId_lt
  simp only [place]
  omega

theorem globalId_eq (inGrid : worker.InGrid) (fits : worker.geometry.size < Word.bound) :
    worker.globalId = .ok worker.place := by
  have place_lt := inGrid.place_lt
  have before : worker.groupId * worker.geometry.group < Word.bound := by
    simp only [place] at place_lt
    omega
  simp only [globalId, Word.mul_eq_ok before]
  exact Word.add_eq_ok (Nat.lt_trans place_lt fits)

theorem totalWorkers_eq (fits : worker.geometry.size < Word.bound) :
    worker.totalWorkers = .ok worker.geometry.size :=
  Geometry.totalWorkers_eq fits

/-- A worker in its grid can start, and its walk yields its indices. -/
theorem start_eq (inGrid : worker.InGrid) {arraySize : Nat} (isWord : arraySize < Word.bound) :
    ∃ walk, GridWalk.start worker.place worker.geometry.size arraySize = .ok walk ∧
      walk.indices = worker.indices arraySize := by
  have start := inGrid.place_lt
  refine ⟨_, dif_pos (Nat.zero_lt_of_lt start), ?_⟩
  rw [GridWalk.indices_eq_filter start]
  change (List.range (min arraySize Word.greatest)).filter
    (fun index => index % worker.geometry.size = worker.place) = _
  rw [Word.min_greatest isWord]
  rfl

/-- A worker visits its place in the grid and what lies a number of grids after it. -/
theorem indices_eq_strided (inGrid : worker.InGrid) {arraySize : Nat}
    (isWord : arraySize < Word.bound) :
    worker.indices arraySize = GridWalk.strided worker.place worker.geometry.size arraySize := by
  rcases start_eq inGrid isWord with ⟨walk, started, indices⟩
  rw [GridWalk.start, dif_pos (Nat.zero_lt_of_lt inGrid.place_lt)] at started
  rcases Except.ok.inj started with rfl
  rw [← indices, GridWalk.indices_eq_strided]
  dsimp only
  rw [Word.min_greatest isWord]

theorem mem_indices_iff {arraySize index : Nat} :
    index ∈ worker.indices arraySize ↔ index < arraySize ∧
      index % worker.geometry.size = worker.place := by
  simp [indices]

theorem eq_of_place_eq {other : Worker} (inGrid : worker.InGrid) (otherInGrid : other.InGrid)
    (sameGrid : worker.geometry = other.geometry) (samePlace : worker.place = other.place) :
    worker = other := by
  rcases worker with ⟨localId, groupId, geometry⟩
  rcases other with ⟨otherLocal, otherGroup, otherGeometry⟩
  have sameGroup : groupId = otherGroup ∧ localId = otherLocal := by
    have localId_lt : localId < geometry.group := inGrid.localId_lt
    have otherLocal_lt : otherLocal < otherGeometry.group := otherInGrid.localId_lt
    simp only [place] at samePlace sameGrid
    subst sameGrid
    have positive : 0 < geometry.group := Nat.zero_lt_of_lt localId_lt
    have quotient := congrArg (· / geometry.group) samePlace
    have remainder := congrArg (· % geometry.group) samePlace
    simp only [Nat.mul_comm _ geometry.group, Nat.mul_add_div positive, Nat.mul_add_mod,
      Nat.div_eq_of_lt localId_lt, Nat.div_eq_of_lt otherLocal_lt, Nat.mod_eq_of_lt localId_lt,
      Nat.mod_eq_of_lt otherLocal_lt, Nat.add_zero] at quotient remainder
    exact ⟨quotient, remainder⟩
  simp only at sameGrid
  rw [sameGrid, sameGroup.1, sameGroup.2]

end Worker

namespace Geometry

variable (geometry : Geometry)

def groupWorkers (groupId : Nat) : List Worker :=
  (List.range geometry.group).map fun localId => ⟨localId, groupId, geometry⟩

/-- The workers of the groups from one group on, in order. -/
def workersFrom (groupId : Nat) : List Worker :=
  (List.range' groupId (geometry.grid - groupId)).flatMap geometry.groupWorkers

def workers : List Worker := geometry.workersFrom 0

variable {geometry} {worker : Worker}

theorem mem_groupWorkers_iff {groupId : Nat} :
    worker ∈ geometry.groupWorkers groupId ↔
      worker.localId < geometry.group ∧ worker.groupId = groupId ∧ worker.geometry = geometry := by
  simp only [groupWorkers, List.mem_map, List.mem_range]
  constructor
  · rintro ⟨localId, below, rfl⟩
    exact ⟨below, rfl, rfl⟩
  · rintro ⟨below, rfl, rfl⟩
    exact ⟨worker.localId, below, rfl⟩

theorem mem_workers_iff :
    worker ∈ geometry.workers ↔ worker.InGrid ∧ worker.geometry = geometry := by
  simp only [workers, workersFrom, List.mem_flatMap, List.mem_range'_1, mem_groupWorkers_iff]
  constructor
  · rintro ⟨groupId, ⟨_, below⟩, localId_lt, rfl, rfl⟩
    exact ⟨⟨by omega, localId_lt⟩, rfl⟩
  · rintro ⟨inGrid, rfl⟩
    have := inGrid.groupId_lt
    exact ⟨worker.groupId, ⟨Nat.zero_le _, by omega⟩, inGrid.localId_lt, rfl, rfl⟩

theorem nodup_workers : geometry.workers.Nodup := by
  rw [workers, workersFrom, List.nodup_flatMap]
  refine ⟨?_, ?_⟩
  · intro groupId _
    exact List.nodup_range.map fun _ _ equal => congrArg Worker.localId equal
  · have distinct : (List.range' 0 (geometry.grid - 0)).Nodup := List.nodup_range'
    refine distinct.imp fun different worker inFirst inSecond => different ?_
    rw [← (mem_groupWorkers_iff.mp inFirst).2.1, ← (mem_groupWorkers_iff.mp inSecond).2.1]

/-- No index is visited twice. -/
theorem nodup_flatMap_indices (geometry : Geometry) (arraySize : Nat) :
    (geometry.workers.flatMap (Worker.indices · arraySize)).Nodup := by
  rw [List.nodup_flatMap]
  refine ⟨fun worker _ => List.nodup_range.filter _, ?_⟩
  apply nodup_workers.imp_of_mem
  intro worker other workerMem otherMem different index inFirst inSecond
  rcases mem_workers_iff.mp workerMem with ⟨inGrid, geometryEq⟩
  rcases mem_workers_iff.mp otherMem with ⟨otherInGrid, otherEq⟩
  have first := (Worker.mem_indices_iff.mp inFirst).2
  have second := (Worker.mem_indices_iff.mp inSecond).2
  rw [geometryEq] at first
  rw [otherEq] at second
  exact different (Worker.eq_of_place_eq inGrid otherInGrid (geometryEq.trans otherEq.symm)
    (first.symm.trans second))

/-- Every index of the array is visited. -/
theorem mem_flatMap_indices_iff (positive : 0 < geometry.size) {arraySize index : Nat} :
    index ∈ geometry.workers.flatMap (Worker.indices · arraySize) ↔ index < arraySize := by
  rw [List.mem_flatMap]
  constructor
  · rintro ⟨worker, _, indexMem⟩
    exact (Worker.mem_indices_iff.mp indexMem).1
  · intro below
    have place_lt := Nat.mod_lt index positive
    have group_pos : 0 < geometry.group := Nat.pos_of_mul_pos_left positive
    refine ⟨⟨index % geometry.size % geometry.group,
        index % geometry.size / geometry.group, geometry⟩,
      mem_workers_iff.mpr ⟨⟨?_, Nat.mod_lt _ group_pos⟩, rfl⟩,
        Worker.mem_indices_iff.mpr ⟨below, ?_⟩⟩
    · exact Nat.div_lt_of_lt_mul (by rwa [Nat.mul_comm])
    · simp only [Worker.place]
      rw [Nat.mul_comm, Nat.div_add_mod]

end Geometry

end Bandwidth
