import Bandwidth.Proofs.Launch.Remaining

/-!
# An array shared out among workers

A walk may be called for its next index again and again. The calls are answered with its indices,
one after the other, and with nothing from then on: a walk that is over stays as it is. So the
answer to a call is known from the number of calls before it. It is the index as many strides after
the first, if the array reaches that far. It makes no difference that a step saturates, since the
sum that would have been no word is past the end of every array.

Workers that start at the places below their number, and stride by it, share out the array. Each
index leaves one place as its remainder, and the worker at that place visits it once.
-/

namespace Bandwidth

namespace GridWalk

variable {walk : GridWalk}

/-- The answer to a call for the next index, and the walk that the call after it finds. -/
def call (walk : GridWalk) : Option Nat × GridWalk :=
  match walk.step? with
  | some (index, after) => (some index, after)
  | none => (none, walk)

/-- What a number of calls leave of a walk, whether they are answered with an index or not. -/
def afterCalls (walk : GridWalk) : Nat → GridWalk
  | 0 => walk
  | calls + 1 => walk.call.2.afterCalls calls

/-- The answer to the call that comes after a number of calls. -/
def answer (walk : GridWalk) (calls : Nat) : Option Nat := (walk.afterCalls calls).call.1

theorem call_of_more (more : walk.next < walk.stop) :
    walk.call = (some walk.next, walk.advance) := by
  simp only [call, step?, if_pos more]

theorem call_of_ended (ended : walk.stop ≤ walk.next) : walk.call = (none, walk) := by
  simp only [call, step?, if_neg (Nat.not_lt.mpr ended)]

theorem answer_zero (walk : GridWalk) : walk.answer 0 = walk.call.1 := rfl

theorem answer_succ (walk : GridWalk) (calls : Nat) :
    walk.answer (calls + 1) = walk.call.2.answer calls := rfl

/-- Calls are answered with the indices of a walk, and with nothing after them. -/
theorem answer_eq_getElem? (walk : GridWalk) (calls : Nat) :
    walk.answer calls = walk.indices[calls]? := by
  -- The first call decides which walk the others find, so the walk changes along the induction.
  induction calls generalizing walk with
  | zero =>
      rw [answer_zero]
      by_cases more : walk.next < walk.stop
      · rw [call_of_more more, indices, dif_pos more, List.getElem?_cons_zero]
      · have ended := Nat.not_lt.mp more
        rw [call_of_ended ended, indices_of_ended ended, List.getElem?_nil]
  | succ calls ih =>
      rw [answer_succ, ih]
      by_cases more : walk.next < walk.stop
      · conv_rhs => rw [indices]
        rw [call_of_more more, dif_pos more, List.getElem?_cons_succ]
      · have ended := Nat.not_lt.mp more
        rw [call_of_ended ended, indices_of_ended ended, List.getElem?_nil, List.getElem?_nil]

/-- A walk yields these items: calls are answered with them in turn, and with nothing from then on,
and a loop over the walk visits them. -/
structure Yields (walk : GridWalk) (items : List Nat) : Prop where
  answers : ∀ calls, walk.answer calls = items[calls]?
  visits : ∀ {ε σ : Type} (visit : Nat → Procedure ε σ Unit),
    walk.visitAll visit = Procedure.forEach visit items

theorem yields_indices (walk : GridWalk) : walk.Yields walk.indices where
  answers := walk.answer_eq_getElem?
  visits := walk.visitAll_eq_forEach_indices

theorem Yields.answer_eq_none_iff {items : List Nat} (yields : walk.Yields items) {calls : Nat} :
    walk.answer calls = none ↔ items.length ≤ calls := by
  rw [yields.answers, List.getElem?_eq_none_iff]

theorem getElem?_strided {first stride stop : Nat} (positive : 0 < stride) (strides : Nat) :
    (strided first stride stop)[strides]? =
      if first + strides * stride < stop then some (first + strides * stride) else none := by
  split
  · rename_i below
    rw [strided, List.getElem?_range' ((lt_strides_iff positive).mpr below), Nat.mul_comm]
  · rename_i past
    rw [List.getElem?_eq_none_iff, strided, List.length_range', ← Nat.not_lt]
    exact fun below => past ((lt_strides_iff positive).mp below)

theorem mem_strided_iff_mod {place workers stop index : Nat} (below : place < workers) :
    index ∈ strided place workers stop ↔ index < stop ∧ index % workers = place := by
  rw [mem_strided_iff (Nat.zero_lt_of_lt below), exists_strides_iff_mod below]

theorem disjoint_strided {workers stop first second : Nat} (firstBelow : first < workers)
    (secondBelow : second < workers) (different : first ≠ second) :
    (strided first workers stop).Disjoint (strided second workers stop) := by
  intro index inFirst inSecond
  have firstRemainder := ((mem_strided_iff_mod firstBelow).mp inFirst).2
  have secondRemainder := ((mem_strided_iff_mod secondBelow).mp inSecond).2
  exact different (firstRemainder.symm.trans secondRemainder)

/-- Together the workers visit every index once. -/
theorem flatMap_strided_perm_range {workers : Nat} (positive : 0 < workers) (stop : Nat) :
    ((List.range workers).flatMap (strided · workers stop)).Perm (List.range stop) := by
  have nodup : ((List.range workers).flatMap (strided · workers stop)).Nodup := by
    rw [List.nodup_flatMap]
    refine ⟨fun place _ => List.nodup_range' workers positive, ?_⟩
    apply List.nodup_range.imp_of_mem
    intro first second firstMem secondMem different
    exact disjoint_strided (List.mem_range.mp firstMem) (List.mem_range.mp secondMem) different
  rw [List.perm_ext_iff_of_nodup nodup List.nodup_range]
  intro index
  rw [List.mem_flatMap, List.mem_range]
  constructor
  · rintro ⟨place, placeMem, indexMem⟩
    exact ((mem_strided_iff_mod (List.mem_range.mp placeMem)).mp indexMem).1
  · intro below
    have place_lt := Nat.mod_lt index positive
    exact ⟨index % workers, List.mem_range.mpr place_lt,
      (mem_strided_iff_mod place_lt).mpr ⟨below, rfl⟩⟩

/--
Every worker can start its walk, and the walk yields a finite share of the array in increasing
order: its place and all that lies a number of strides after it, as far as the array reaches. The
answer to each call is known as a number that no word bounds, and after the first call that is
answered with nothing all others are. The workers at different places visit different indices, and
together they visit each index of the array once.
-/
theorem workers_share_out_array {totalWorkers arraySize : Nat} (positive : 0 < totalWorkers)
    (isWord : arraySize < Word.bound) :
    ∃ share : Nat → List Nat,
      (∀ globalId, ∃ walk, start globalId totalWorkers arraySize = .ok walk ∧
        walk.Yields (share globalId) ∧
        (∀ calls, walk.answer calls =
          if globalId + calls * totalWorkers < arraySize then
            some (globalId + calls * totalWorkers) else none) ∧
        (∀ calls later, walk.answer calls = none → calls ≤ later → walk.answer later = none) ∧
        walk.answer (share globalId).length = none) ∧
      (∀ globalId, (share globalId).Pairwise (· < ·) ∧
        ∀ index, index ∈ share globalId ↔
          index < arraySize ∧ ∃ strides, index = globalId + strides * totalWorkers) ∧
      (∀ first second, first < totalWorkers → second < totalWorkers → first ≠ second →
        (share first).Disjoint (share second)) ∧
      ((List.range totalWorkers).flatMap share).Perm (List.range arraySize) := by
  refine ⟨(strided · totalWorkers arraySize), ?_, ?_, ?_,
    flatMap_strided_perm_range positive arraySize⟩
  · intro globalId
    have yields := yields_indices
      ⟨globalId, totalWorkers, min arraySize Word.greatest, positive, Nat.min_le_right _ _⟩
    simp only [indices_eq_strided, Word.min_greatest isWord] at yields
    refine ⟨_, dif_pos positive, ?_⟩
    simp only [Word.min_greatest isWord]
    refine ⟨yields, ?_, ?_, ?_⟩
    · intro calls
      rw [yields.answers, getElem?_strided positive]
    · intro calls later ended laterStill
      rw [yields.answer_eq_none_iff] at ended ⊢
      exact Nat.le_trans ended laterStill
    · exact yields.answer_eq_none_iff.mpr (Nat.le_refl _)
  · intro globalId
    exact ⟨List.pairwise_lt_range' totalWorkers positive, fun index => mem_strided_iff positive⟩
  · intro first second firstBelow secondBelow different
    exact disjoint_strided firstBelow secondBelow different

/-- The second step of this walk saturates, and no call is answered with where it leads. -/
theorem saturated_step_yields_nothing :
    0 < 9223372036854775808 ∧ 18446744073709551615 < Word.bound ∧
      ∃ walk, start 1 9223372036854775808 18446744073709551615 = .ok walk ∧
        walk.answer 0 = some 1 ∧ walk.answer 1 = some 9223372036854775809 ∧
        (walk.afterCalls 2).next = Word.greatest ∧
        ∀ later, 2 ≤ later → walk.answer later = none := by
  have positive : 0 < 9223372036854775808 := by decide
  have isWord : 18446744073709551615 < Word.bound := by decide
  rcases workers_share_out_array positive isWord with ⟨share, walks, -, -, -⟩
  rcases walks 1 with ⟨walk, started, -, answers, endsOnce, -⟩
  refine ⟨positive, isWord, walk, started, answers 0, answers 1, ?_, ?_⟩
  · rcases Except.ok.inj started with rfl
    rfl
  · intro later twoBefore
    exact endsOnce 2 later (answers 2) twoBefore

end GridWalk

end Bandwidth
