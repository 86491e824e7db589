import Bandwidth.Element.Native
import Bandwidth.Proofs.Elementwise.Interleaving
import Bandwidth.Proofs.Elementwise.Roles
import Bandwidth.Proofs.Launch.Tasks

/-!
# Elementwise launches are pointwise

Every index of the array belongs to one worker of the grid, and every access of a body is at the
index it was started at. So a launch does at each index below the array size what the body does
there to the memory before the launch, whatever the geometry, whichever buffers play the same role,
and however the accesses of the workers are interleaved.
-/

namespace Bandwidth

open Procedure (GivesUp Settles)

namespace Elementwise

variable {α : Type} [Element α] (kernel : Elementwise α) (buffers : Triple Nat) (arraySize : Nat)

/-- What an elementwise kernel is to make of a memory. -/
structure Maps (before after : Memory α) : Prop where
  /-- Run alone at an index of the array, the body ends. -/
  ends : ∀ index < arraySize, (kernel.body.run buffers index before).1 = .ok ()
  /-- What the body leaves there is what the launch leaves there. -/
  inside : ∀ index < arraySize, ∀ buffer,
    (after.contents buffer)[index]? =
      ((kernel.body.run buffers index before).2.contents buffer)[index]?
  /-- In a buffer that the kernel writes in one role alone, this is what the kernel makes of the
  sources. -/
  computes : ∀ index < arraySize, ∀ elements : Triple α,
    (∀ source ∈ kernel.sources,
      before.column index (buffers.at source) = some (elements.at source)) →
    ∀ target ∈ kernel.targets,
      (∀ other ∈ kernel.targets, buffers.at other = buffers.at target → other = target) →
      (after.contents (buffers.at target))[index]? = some ((kernel.onElements elements).at target)
  outside : ∀ index ≥ arraySize, ∀ buffer,
    (after.contents buffer)[index]? = (before.contents buffer)[index]?
  unwritten : ∀ buffer, (∀ role, kernel.body.Writes role → buffers.at role ≠ buffer) →
    after.contents buffer = before.contents buffer

/-- Launches a kernel whose workers take turns as a schedule says; the answer is what they have yet
to do. -/
def launchInterleaved (geometry : Geometry) (schedule : List Nat) :
    Action (Device × Memory α) (LaunchStats × List (Thread α)) :=
  Device.launchWith geometry fun _ => kernel.interleaved geometry buffers arraySize schedule

variable {kernel buffers arraySize} {geometry : Geometry} {memory : Memory α}

theorem pointwise_maps
    (within : ∀ role,
      kernel.body.Touches role → arraySize ≤ (memory.contents (buffers.at role)).size) :
    kernel.Maps buffers arraySize memory (kernel.pointwise buffers arraySize memory) := by
  have inside : ∀ index < arraySize, ∀ buffer,
      ((kernel.pointwise buffers arraySize memory).contents buffer)[index]? =
        ((kernel.body.run buffers index memory).2.contents buffer)[index]? := by
    intro index below buffer
    have column := kernel.column_pointwise buffers arraySize memory index
    rw [if_pos below] at column
    exact congrFun column buffer
  have outside : ∀ index ≥ arraySize, ∀ buffer,
      ((kernel.pointwise buffers arraySize memory).contents buffer)[index]? =
        (memory.contents buffer)[index]? := by
    intro index past buffer
    have column := kernel.column_pointwise buffers arraySize memory index
    rw [if_neg (Nat.not_lt.mpr past)] at column
    exact congrFun column buffer
  refine ⟨?_, inside, ?_, outside, ?_⟩
  · intro index below
    exact kernel.body.run_ok fun role touches => Nat.lt_of_lt_of_le below (within role touches)
  · intro index below elements there target mem alone
    rw [inside index below]
    exact kernel.column_run_of_mem_targets
      (fun role touches => Nat.lt_of_lt_of_le below (within role touches)) there mem alone
  · intro buffer unwritten
    apply Array.ext_getElem?
    intro index
    rcases Nat.lt_or_ge index arraySize with below | past
    · rw [inside index below, kernel.body.contents_run_of_not_writes memory unwritten]
    · exact outside index past buffer

/-- A buffer that holds at each index what the body leaves there holds it after the launch. -/
theorem toList_pointwise
    (within : ∀ role,
      kernel.body.Touches role → arraySize ≤ (memory.contents (buffers.at role)).size)
    {buffer : Nat} {list : List α} (size_eq : (memory.contents buffer).size = arraySize)
    (length_eq : list.length = arraySize)
    (holds : ∀ index < arraySize,
      ((kernel.body.run buffers index memory).2.contents buffer)[index]? = list[index]?) :
    ((kernel.pointwise buffers arraySize memory).contents buffer).toList = list := by
  have maps := pointwise_maps within
  apply List.ext_getElem?
  intro index
  rw [Array.getElem?_toList]
  rcases Nat.lt_or_ge index arraySize with below | past
  · rw [maps.inside index below, holds index below]
  · rw [maps.outside index past, Array.getElem?_eq_none (by omega),
      List.getElem?_eq_none (by omega)]

theorem perWorker_eq {worker : Worker} (inGrid : worker.InGrid)
    (fits : worker.geometry.size < Word.bound) (isWord : arraySize < Word.bound) :
    kernel.perWorker buffers arraySize worker =
      Procedure.forEach (kernel.body.run buffers) (worker.indices arraySize) := by
  rcases Worker.start_eq inGrid isWord with ⟨walk, started, indices⟩
  rw [← indices, ← GridWalk.visitAll_eq_forEach_indices]
  simp only [perWorker, Worker.globalId_eq inGrid fits, Worker.totalWorkers_eq fits,
    Procedure.ofExcept_ok, pure_bind, started]

theorem thread_eq {worker : Worker} (inGrid : worker.InGrid)
    (fits : worker.geometry.size < Word.bound) (isWord : arraySize < Word.bound) :
    kernel.thread arraySize worker = .ok ((worker.indices arraySize).map (·, kernel.body)) := by
  rcases Worker.start_eq inGrid isWord with ⟨walk, started, indices⟩
  simp only [thread, Worker.globalId_eq inGrid fits, Worker.totalWorkers_eq fits, ← indices]
  change (do
    let walk ← GridWalk.start worker.place worker.geometry.size arraySize
    return walk.indices.map (·, kernel.body)) = _
  rw [started]
  rfl

/-- The bodies of some workers, in the order in which these come. -/
def pending (kernel : Elementwise α) (arraySize : Nat) (workers : List Worker) :
    List (Nat × Body α) :=
  workers.flatMap fun worker => (worker.indices arraySize).map (·, kernel.body)

/-- The workers of a grid, before any of them has started. -/
def crew (kernel : Elementwise α) (arraySize : Nat) (geometry : Geometry) : List (Thread α) :=
  geometry.workers.map fun worker => (worker.indices arraySize).map (·, kernel.body)

theorem progress_workers (positive : 0 < geometry.size)
    (within : ∀ role,
      kernel.body.Touches role → arraySize ≤ (memory.contents (buffers.at role)).size) :
    Progress buffers (kernel.pointwise buffers arraySize memory)
      (kernel.pending arraySize geometry.workers) memory := by
  have start := kernel.progress_start within (geometry.nodup_flatMap_indices arraySize)
    (fun index => Geometry.mem_flatMap_indices_iff positive)
  rwa [List.map_flatMap] at start

section Tasks

variable {holds : List (Nat × Body α) → Memory α → Prop} {done : Nat × Body α → Prop}
  {expected : Fault → Prop}

/-- A worker deals with its bodies as it deals with each of them. -/
theorem perWorker_settles (giveUp : GivesUp holds expected)
    (bodies : ∀ index, Settles holds done expected [(index, kernel.body)]
      (kernel.body.run buffers index))
    {worker : Worker} (inGrid : worker.InGrid) (fits : worker.geometry.size < Word.bound)
    (isWord : arraySize < Word.bound) :
    Settles holds done expected ((worker.indices arraySize).map (·, kernel.body))
      (kernel.perWorker buffers arraySize worker) := by
  rw [perWorker_eq inGrid fits isWord, List.map_eq_flatMap]
  exact Settles.forEach giveUp fun index _ => bodies index

/-- The groups deal with all bodies in any number of units. -/
theorem runGrid_settles (giveUp : GivesUp holds expected)
    (bodies : ∀ index, Settles holds done expected [(index, kernel.body)]
      (kernel.body.run buffers index))
    (units : Nat) (fits : geometry.size < Word.bound) (isWord : arraySize < Word.bound) :
    Settles holds done expected (kernel.pending arraySize geometry.workers)
      (Device.runGrid units geometry (kernel.perWorker buffers arraySize)) := by
  refine Device.runGrid_settles giveUp ?_ units
  intro worker workerMem
  rcases Geometry.mem_workers_iff.mp workerMem with ⟨inGrid, rfl⟩
  exact perWorker_settles giveUp bodies inGrid fits isWord

end Tasks

section Grid

variable {goal : Memory α}

/-- The groups bring their bodies to an end in any number of units. -/
theorem runGrid_progress (units : Nat) (fits : geometry.size < Word.bound)
    (isWord : arraySize < Word.bound)
    (progress : Progress buffers goal (kernel.pending arraySize geometry.workers) memory) :
    (Device.runGrid units geometry (kernel.perWorker buffers arraySize)).run memory =
      (.ok (), goal) := by
  have bodies : ∀ index, Settles (Progress buffers goal) (fun _ => True) (fun _ => False)
      [(index, kernel.body)] (kernel.body.run buffers index) := by
    intro index rest now progress
    rcases progress.run with ⟨after, ran, later⟩
    simp only [Procedure.run, ran]
    exact ⟨later, fun _ _ => trivial⟩
  have noFault : GivesUp (Progress buffers goal) fun _ : Fault => False :=
    fun _ impossible => impossible.elim
  rw [← List.append_nil (kernel.pending arraySize geometry.workers)] at progress
  rcases runGrid_settles noFault bodies units fits isWord [] memory progress with ⟨final, ended⟩
  rcases ran : (Device.runGrid units geometry (kernel.perWorker buffers arraySize)).run memory with
    ⟨fault | ⟨⟩, after⟩
  · rw [ran] at ended
    exact ended.elim
  · rw [ran] at final
    rw [← final.eq_goal]

theorem mapM_thread_eq (fits : geometry.size < Word.bound) (isWord : arraySize < Word.bound) :
    geometry.workers.mapM (kernel.thread arraySize) = .ok (kernel.crew arraySize geometry) := by
  have threads : ∀ workers : List Worker, (∀ worker ∈ workers, worker ∈ geometry.workers) →
      workers.mapM (kernel.thread arraySize) =
        .ok (workers.map fun worker => (worker.indices arraySize).map (·, kernel.body)) := by
    intro workers known
    induction workers with
    | nil => rfl
    | cons worker workers ih =>
        rcases Geometry.mem_workers_iff.mp (known worker List.mem_cons_self) with
          ⟨inGrid, geometryEq⟩
        rw [List.mapM_cons, thread_eq inGrid (geometryEq ▸ fits) isWord,
          ih fun other otherMem => known other (List.mem_cons_of_mem _ otherMem)]
        rfl
  exact threads _ fun _ workerMem => workerMem

theorem interleaved_run (fits : geometry.size < Word.bound) (isWord : arraySize < Word.bound)
    (schedule : List Nat) :
    (kernel.interleaved geometry buffers arraySize schedule).run memory =
      (Thread.interleave buffers schedule (kernel.crew arraySize geometry)).run memory := by
  rw [interleaved, mapM_thread_eq fits isWord, Procedure.ofExcept_ok, pure_bind]

/-- However the workers take turns, none faults, and the launch can be brought to its goal. -/
theorem interleaved_progress (fits : geometry.size < Word.bound) (isWord : arraySize < Word.bound)
    (progress : Progress buffers goal (kernel.pending arraySize geometry.workers) memory)
    (schedule : List Nat) :
    ∃ threads reached,
      (kernel.interleaved geometry buffers arraySize schedule).run memory = (.ok threads, reached) ∧
      Progress buffers goal threads.flatten reached ∧
      ∃ more idle,
        (kernel.interleaved geometry buffers arraySize (schedule ++ more)).run memory =
          (.ok idle, goal) ∧
        idle.flatten = [] := by
  simp only [interleaved_run fits isWord]
  have start : Progress buffers goal (kernel.crew arraySize geometry).flatten memory := progress
  rcases Thread.interleave_progress schedule start with ⟨threads, reached, ran, later⟩
  refine ⟨threads, reached, ran, later, ?_⟩
  rcases Thread.exists_more_idle buffers schedule (kernel.crew arraySize geometry) memory with
    ⟨more, completed⟩
  rcases Thread.interleave_progress (schedule ++ more) start with ⟨idle, after, finished, final⟩
  rw [Thread.LeadsTo, finished] at completed
  rcases completed with ⟨_, _, ⟨⟩⟩ | ⟨_, _, ⟨⟩, nothing⟩
  rw [nothing] at final
  exact ⟨more, idle, final.eq_goal ▸ finished, nothing⟩

end Grid

theorem launch_run (isWord : arraySize < Word.bound)
    (within : ∀ role,
      kernel.body.Touches role → arraySize ≤ (memory.contents (buffers.at role)).size)
    (grid_pos : 0 < geometry.grid) (group_pos : 0 < geometry.group)
    (fits : geometry.size < Word.bound) (device : Device) (log : Array Event) :
    (kernel.launch geometry buffers arraySize).run ⟨(device, memory), log⟩ =
      (.ok ⟨geometry.grid, geometry.size, 0⟩,
        ⟨(device.beginLaunch, kernel.pointwise buffers arraySize memory),
          log.push (.launched device.description.index geometry)⟩) :=
  Device.launch_run group_pos fits
    (runGrid_progress _ fits isWord (progress_workers (Nat.mul_pos grid_pos group_pos) within))

/--
The body of a kernel reads and writes the roles of the kernel. A launch leaves what the body makes of
each index, for every geometry: if its workers run one after the other, and if they take turns as any
schedule says. No schedule faults, every schedule can be completed, and a complete one ends like the
launch.
-/
theorem launch_pointwise (kernel : Elementwise α) (buffers : Triple Nat) {arraySize : Nat}
    {memory : Memory α} (isWord : arraySize < Word.bound)
    (within : ∀ role,
      kernel.body.Touches role → arraySize ≤ (memory.contents (buffers.at role)).size) :
    kernel.KeepsRoles ∧ ∃ after, kernel.Maps buffers arraySize memory after ∧
      ∀ geometry : Geometry, 1 ≤ geometry.grid → 1 ≤ geometry.group →
        geometry.grid * geometry.group < Word.bound →
        ∀ (device : Device) (log : Array Event),
          let stats : LaunchStats := ⟨geometry.grid, geometry.grid * geometry.group, 0⟩
          let told := log.push (.launched device.description.index geometry)
          (kernel.launch geometry buffers arraySize).run ⟨(device, memory), log⟩ =
              (.ok stats, ⟨(device.beginLaunch, after), told⟩) ∧
            ∀ schedule, ∃ threads reached,
              (kernel.launchInterleaved buffers arraySize geometry schedule).run
                  ⟨(device, memory), log⟩ =
                (.ok (stats, threads), ⟨(device.beginLaunch, reached), told⟩) ∧
                ((∀ thread ∈ threads, thread = []) → reached = after) ∧
                ∃ more idle,
                  (kernel.launchInterleaved buffers arraySize geometry (schedule ++ more)).run
                      ⟨(device, memory), log⟩ =
                    (.ok (stats, idle), ⟨(device.beginLaunch, after), told⟩) ∧
                  ∀ thread ∈ idle, thread = [] := by
  refine ⟨kernel.keepsRoles, kernel.pointwise buffers arraySize memory, pointwise_maps within, ?_⟩
  intro geometry grid_pos group_pos fits device log stats told
  refine ⟨launch_run isWord within grid_pos group_pos fits device log, ?_⟩
  intro schedule
  have progress : Progress buffers (kernel.pointwise buffers arraySize memory)
      (kernel.pending arraySize geometry.workers) memory :=
        progress_workers (Nat.mul_pos grid_pos group_pos) within
  rcases interleaved_progress fits isWord progress schedule with
    ⟨threads, reached, ran, later, more, idle, finished, nothing⟩
  refine ⟨threads, reached, Device.launchWith_run _ group_pos fits ran, ?_, more, idle,
    Device.launchWith_run _ group_pos fits finished, List.flatten_eq_nil_iff.mp nothing⟩
  intro done
  rw [List.flatten_eq_nil_iff.mpr done] at later
  exact later.eq_goal

/-- Nstream on three workers, with one buffer of two elements in the roles A and B. -/
theorem nstream_pointwise_shared_buffer :
    ∃ after : Memory Float,
      (nstream : Elementwise Float).Maps ⟨0, 0, 1⟩ 2 ⟨#[#[1.0, 2.0], #[3.0, 4.0]]⟩ after ∧
        (after.contents 0)[0]? = some (1.0 + (1.0 + 3.0 * 3.0)) ∧
        ((nstream : Elementwise Float).launch ⟨3, 1⟩ ⟨0, 0, 1⟩ 2).run
            ⟨(.fresh ⟨0, "", 1, 0⟩ .standard, ⟨#[#[1.0, 2.0], #[3.0, 4.0]]⟩), #[]⟩ =
          (.ok ⟨3, 3, 0⟩,
            ⟨((Device.fresh ⟨0, "", 1, 0⟩ .standard).beginLaunch, after),
              #[.launched 0 ⟨3, 1⟩]⟩) := by
  have within : ∀ role, (nstream : Elementwise Float).body.Touches role →
      2 ≤ (Memory.contents (⟨#[#[1.0, 2.0], #[3.0, 4.0]]⟩ : Memory Float)
        ((⟨0, 0, 1⟩ : Triple Nat).at role)).size := by
    rintro (_ | _ | _) _ <;> exact Nat.le_refl 2
  rcases launch_pointwise nstream ⟨0, 0, 1⟩ (by decide) within with ⟨_, after, maps, launches⟩
  have computed : (after.contents 0)[0]? = some (1.0 + (1.0 + 3.0 * 3.0)) := by
    refine maps.computes 0 (by decide) ⟨1.0, 1.0, 3.0⟩ ?_ .a (by decide) (by decide)
    rintro (_ | _ | _) _ <;> rfl
  exact ⟨after, maps, computed, (launches ⟨3, 1⟩ (by decide) (by decide) (by decide) _ #[]).1⟩

end Elementwise

end Bandwidth
