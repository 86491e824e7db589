import Bandwidth.Proofs.Benchmark.Exact
import Bandwidth.Proofs.Benchmark.Quotients
import Mathlib.Algebra.Order.BigOperators.Group.List

/-!
# Summaries of times

A summary is of the measured calls: all but the first, if there are several. Its least and greatest
times are equal to times of measured calls, in whatever order the calls were made, whatever time the
first one took and whichever one of two equals the machine takes. In exact arithmetic its mean lies
between them. Its rates are those of the fastest call, which no other call exceeds; a call that took
no time leaves no rate, and nothing is ever divided by zero.
-/

namespace Bandwidth

open Bandwidth.Measure

namespace Measure

variable {δ : Type} [Measure δ]

/-- Values stand for rational numbers, with which they are compared, added and divided exactly. -/
structure IsExact (value : δ → ℚ) : Prop where
  less_iff : ∀ x y, less x y = true ↔ value x < value y
  sumStart : value sumStart = 0
  add : ∀ x y, value (x + y) = value x + value y
  div : ∀ x y, value y ≠ 0 → value (x / y) = value x / value y
  ofWord : ∀ word < Word.bound, value (ofWord word) = word

/-- The same measure, but for what a quotient is. -/
abbrev withDivision (divide : δ → δ → δ) : Measure δ :=
  { (inferInstance : Measure δ) with toDiv := ⟨divide⟩ }

/-- The same measure, but for which one of two equals is taken. -/
abbrev withTies (takesFirst : δ → δ → Bool) : Measure δ :=
  { (inferInstance : Measure δ) with
    takesFirstForLeast := takesFirst
    takesFirstForGreatest := takesFirst }

/-- By whatever is greater than zero, this divides as the measure does. -/
def DividesByPositive (divide : δ → δ → δ) : Prop :=
  ∀ x y, less zero y = true → divide x y = x / y

namespace IsExact

variable {value : δ → ℚ} (exact : IsExact value)
include exact

theorem value_sum (values : List δ) : value (Measure.sum values) = (values.map value).sum := by
  have from_total : ∀ (values : List δ) (total : δ),
      value (values.foldl (· + ·) total) = value total + (values.map value).sum := by
    intro values
    induction values with
    | nil => simp
    | cons first rest ih =>
        intro total
        rw [List.foldl_cons, ih, exact.add, List.map_cons, List.sum_cons, add_assoc]
  rw [Measure.sum, from_total, exact.sumStart, zero_add]

theorem value_le {x y : δ} (atMost : AtMost x y) : value x ≤ value y := by
  apply not_lt.mp
  intro below
  simp [AtMost, (exact.less_iff y x).mpr below] at atMost

end IsExact

theorem less_rat_iff {x y : ℚ} : less x y = true ↔ x < y := decide_eq_true_iff

theorem atMost_rat_iff {x y : ℚ} : AtMost x y ↔ x ≤ y :=
  decide_eq_false_iff_not.trans not_lt

theorem isExact_rat : IsExact (id : ℚ → ℚ) where
  less_iff _ _ := less_rat_iff
  sumStart := rfl
  add _ _ := rfl
  div _ _ _ := rfl
  ofWord _ _ := rfl

theorem rates_rat : Rates ℚ where
  isNaN_zero := rfl
  less_asymm x y below := decide_eq_false (lt_asymm (less_rat_iff.mp below))
  atMost_trans x y z _ below above :=
    atMost_rat_iff.mpr (le_trans (atMost_rat_iff.mp below) (atMost_rat_iff.mp above))
  isNaN_of_finite _ _ := rfl
  less_infinity x finite :=
    less_rat_iff.mpr (lt_of_le_of_lt (le_abs_self x) (of_decide_eq_true finite))
  isAmount_ofWord word isWord := by
    refine ⟨?_, atMost_rat_iff.mpr (Nat.cast_nonneg word)⟩
    have small : word < 2 ^ 128 := Nat.lt_trans isWord (by decide)
    change decide (|(word : ℚ)| < 2 ^ 128) = true
    rw [decide_eq_true_iff, Nat.abs_cast]
    exact_mod_cast small
  ofWord_pos word positive _ := less_rat_iff.mpr (Nat.cast_pos.mpr positive)
  isAmount_billionth := ⟨by decide +kernel, by decide +kernel⟩
  unit_pos unit := by cases unit <;> decide +kernel
  mul_nonneg x y amount other := ⟨rfl, atMost_rat_iff.mpr
    (mul_nonneg (atMost_rat_iff.mp amount.nonneg) (atMost_rat_iff.mp other.nonneg))⟩
  div_nonneg x y amount positive := ⟨rfl, atMost_rat_iff.mpr
    (div_nonneg (atMost_rat_iff.mp amount.nonneg) (less_rat_iff.mp positive).le)⟩
  div_antitone x s t nonneg positive _ atMost := atMost_rat_iff.mpr
    (div_le_div_of_nonneg_left (atMost_rat_iff.mp nonneg.nonneg) (less_rat_iff.mp positive)
      (atMost_rat_iff.mp atMost))

end Measure

namespace Summary

variable {δ : Type} [Measure δ] {kernel : Kernel} {bytes flops : Nat} {timings : List δ}

omit [Measure δ] in
theorem measured_ne_nil (nonempty : timings ≠ []) : measured timings ≠ [] := by
  unfold measured
  split
  · rename_i several
    rcases timings with _ | ⟨first, _ | ⟨second, rest⟩⟩ <;> simp_all
  · exact nonempty

omit [Measure δ] in
theorem length_measured_le (timings : List δ) : (measured timings).length ≤ timings.length := by
  unfold measured
  split <;> simp

omit [Measure δ] in
/-- Only the first of several calls is not measured. -/
theorem measured_eq (nonempty : timings ≠ []) :
    measured timings = if timings.length = 1 then timings else timings.tail := by
  have some := List.length_pos_iff.mpr nonempty
  unfold measured
  split
  · rw [if_neg (by omega)]
  · rw [if_pos (by omega)]

/-- The first of several calls leaves no trace in a summary. -/
theorem ofTimings_cons_tail (several : 1 < timings.length) (other : δ) :
    ofTimings kernel bytes flops (other :: timings.tail) =
      ofTimings kernel bytes flops timings := by
  have same : measured (other :: timings.tail) = measured timings := by
    have longer : 1 < (other :: timings.tail).length := by
      simp only [List.length_cons, List.length_tail]
      omega
    rw [measured, measured, if_pos several, if_pos longer, List.tail_cons]
  rw [ofTimings, ofTimings, same]

section

variable (order : Ordered δ)
include order

theorem isExtreme_least (nonempty : timings ≠ [])
    (amounts : ∀ time ∈ measured timings, IsAmount time) :
    IsExtreme AtMost (ofTimings kernel bytes flops timings).least (measured timings) := by
  have some := measured_ne_nil nonempty
  simp only [ofTimings]
  cases listed : measured timings with
  | nil => exact absurd listed some
  | cons first rest =>
      exact order.isExtreme_least fun entry mem => (amounts entry (listed ▸ mem)).finite

theorem isGreatestAmount_greatest (nonempty : timings ≠ [])
    (amounts : ∀ time ∈ measured timings, IsAmount time) :
    IsGreatestAmount (ofTimings kernel bytes flops timings).greatest (measured timings) :=
  order.isGreatestAmount_foldl (measured_ne_nil nonempty) amounts

end

/-- What calls in another order are summarised by is not told apart by comparisons. -/
theorem bounds_of_perm (order : Ordered δ) (nonempty : timings ≠ [])
    (amounts : ∀ time ∈ measured timings, IsAmount time) {others : List δ}
    (perm : (measured others).Perm (measured timings)) :
    let summary := ofTimings kernel bytes flops timings
    let reordered := ofTimings kernel bytes flops others
    Equals reordered.least summary.least ∧ Equals reordered.greatest summary.greatest ∧
      ((∀ s ∈ measured timings, ∀ t ∈ measured timings, Equals s t → s = t) →
        reordered.least = summary.least ∧ reordered.greatest = summary.greatest) := by
  intro summary reordered
  have othersNonempty : others ≠ [] := by
    rintro rfl
    exact measured_ne_nil nonempty perm.nil_eq.symm
  have othersAmounts : ∀ time ∈ measured others, IsAmount time := fun time mem =>
    amounts time (perm.mem_iff.mp mem)
  have least : IsExtreme AtMost summary.least (measured timings) :=
    isExtreme_least order nonempty amounts
  have greatest : IsGreatestAmount summary.greatest (measured timings) :=
    isGreatestAmount_greatest order nonempty amounts
  have othersLeast : IsExtreme AtMost reordered.least (measured others) :=
    isExtreme_least order othersNonempty othersAmounts
  have othersGreatest : IsGreatestAmount reordered.greatest (measured others) :=
    isGreatestAmount_greatest order othersNonempty othersAmounts
  have leastEquals : Equals reordered.least summary.least := othersLeast.of_perm least perm
  have greatestEquals : Equals reordered.greatest summary.greatest :=
    order.equals_of_perm amounts perm greatest othersGreatest
  refine ⟨leastEquals, greatestEquals, ?_⟩
  intro separate
  refine ⟨separate _ (perm.mem_iff.mp othersLeast.mem) _ least.mem leastEquals, ?_⟩
  have zeros : (∀ time ∈ measured timings, Equals time zero) →
      reordered.greatest = summary.greatest := by
    intro zeros
    have listed := order.eq_of_perm_of_zeros perm zeros separate
    simp only [reordered, summary, ofTimings, listed]
  rcases greatest.mem with mem | ⟨-, allZero⟩
  · rcases othersGreatest.mem with othersMem | ⟨-, allZero⟩
    · exact separate _ (perm.mem_iff.mp othersMem) _ mem greatestEquals
    · exact zeros fun time mem => allZero time (perm.mem_iff.mpr mem)
  · exact zeros allZero

theorem samples_mul_mean {value : δ → ℚ} (exact : IsExact value) (nonempty : timings ≠ [])
    (isWord : timings.length < Word.bound) :
    let summary := ofTimings kernel bytes flops timings
    (summary.samples : ℚ) * value summary.mean = ((measured timings).map value).sum := by
  have some := measured_ne_nil nonempty
  have isWordMeasured := Nat.lt_of_le_of_lt (length_measured_le timings) isWord
  have counted : ((measured timings).length : ℚ) ≠ 0 := by simpa using some
  have filled : (measured timings).isEmpty = false := by simpa using some
  simp only [ofTimings, filled, Bool.false_eq_true, if_false]
  rw [exact.div _ _ (by rwa [exact.ofWord _ isWordMeasured]), exact.ofWord _ isWordMeasured,
    exact.value_sum, mul_div_cancel₀ _ counted]

section

variable {times : List δ} {summary : Summary δ}

/-- In exact arithmetic, a mean lies between the bounds of the times. -/
theorem mean_between {value : δ → ℚ} (exact : IsExact value)
    (sum : (times.length : ℚ) * value summary.mean = (times.map value).sum)
    (least : IsExtreme AtMost summary.least times)
    (greatest : ∀ time ∈ times, AtLeast summary.greatest time) :
    value summary.least ≤ value summary.mean ∧ value summary.mean ≤ value summary.greatest := by
  have positive : (0 : ℚ) < times.length := by exact_mod_cast List.length_pos_of_mem least.mem
  have lower : times.length • value summary.least ≤ (times.map value).sum := by
    have all : ∀ number ∈ times.map value, value summary.least ≤ number := by
      intro number mem
      rcases List.mem_map.mp mem with ⟨time, timeMem, rfl⟩
      exact exact.value_le (least.bound time timeMem)
    simpa using List.card_nsmul_le_sum (times.map value) _ all
  have upper : (times.map value).sum ≤ times.length • value summary.greatest := by
    have all : ∀ number ∈ times.map value, number ≤ value summary.greatest := by
      intro number mem
      rcases List.mem_map.mp mem with ⟨time, timeMem, rfl⟩
      exact exact.value_le (greatest time timeMem)
    simpa using List.sum_le_card_nsmul (times.map value) _ all
  rw [nsmul_eq_mul, ← sum] at lower upper
  exact ⟨le_of_mul_le_mul_left lower positive, le_of_mul_le_mul_left upper positive⟩

/-- The rate at the least time is a greatest one. -/
theorem isExtreme_rate (rates : Rates δ) {amount : δ} (nonneg : IsNonneg amount)
    (least : IsExtreme AtMost summary.least times)
    (finite : ∀ time ∈ times, isFinite time = true)
    (positive : less zero summary.least = true) :
    IsExtreme AtLeast (amount / summary.least) (times.map (amount / ·)) := by
  constructor
  · exact List.mem_map_of_mem least.mem
  · intro rate mem
    rcases List.mem_map.mp mem with ⟨time, timeMem, rfl⟩
    exact rates.div_antitone amount summary.least time nonneg positive (finite time timeMem)
      (least.bound time timeMem)

theorem bandwidth_of_pos (positive : less zero summary.least = true) (unit : ByteUnit) :
    summary.bandwidth unit = ofWord summary.bytes / unit.bytes / summary.least := if_pos positive

theorem gigaflops_of_pos (positive : less zero summary.least = true) :
    summary.gigaflops = ofWord summary.flops * 1.0e-9 / summary.least := if_pos positive

theorem bandwidth_of_not_pos (notPositive : less zero summary.least = false) (unit : ByteUnit) :
    summary.bandwidth unit = zero := if_neg (Bool.eq_false_iff.mp notPositive)

theorem gigaflops_of_not_pos (notPositive : less zero summary.least = false) :
    summary.gigaflops = zero := if_neg (Bool.eq_false_iff.mp notPositive)

/-- A call that took no time leaves no rate. -/
theorem rates_eq_zero (order : Ordered δ) (least : IsExtreme AtMost summary.least times)
    {time : δ} (mem : time ∈ times) (number : isNaN time = false) (none : Equals time zero) :
    (∀ unit, summary.bandwidth unit = zero) ∧ summary.gigaflops = zero := by
  have notPositive : less zero summary.least = false :=
    order.atMost_trans summary.least time zero number (least.bound time mem) none.1
  exact ⟨bandwidth_of_not_pos notPositive, gigaflops_of_not_pos notPositive⟩

end

section

variable {divide : δ → δ → δ} (agrees : DividesByPositive divide)
include agrees

theorem ofTimings_withDivision (rates : Rates δ) (nonempty : timings ≠ [])
    (isWord : timings.length < Word.bound) :
    @ofTimings δ (withDivision divide) kernel bytes flops timings =
      ofTimings kernel bytes flops timings := by
  have isWordMeasured := Nat.lt_of_le_of_lt (length_measured_le timings) isWord
  have counted := List.length_pos_iff.mpr (measured_ne_nil nonempty)
  have mean : divide (Measure.sum (measured timings)) (ofWord (measured timings).length) =
      Measure.sum (measured timings) / ofWord (measured timings).length :=
    agrees _ _ (rates.ofWord_pos _ counted isWordMeasured)
  simp only [ofTimings]
  rw [← mean]
  rfl

theorem bandwidth_withDivision (rates : Rates δ) (summary : Summary δ) (unit : ByteUnit) :
    @bandwidth δ (withDivision divide) summary unit = summary.bandwidth unit := by
  rcases positive : less zero summary.least with _ | _
  · rw [bandwidth_of_not_pos positive]
    exact @bandwidth_of_not_pos δ (withDivision divide) summary positive unit
  · rw [bandwidth_of_pos positive, ← agrees _ _ positive, ← agrees _ _ (rates.unit_pos unit)]
    exact if_pos positive

theorem gigaflops_withDivision (summary : Summary δ) :
    @gigaflops δ (withDivision divide) summary = summary.gigaflops := by
  rcases positive : less zero summary.least with _ | _
  · rw [gigaflops_of_not_pos positive]
    exact @gigaflops_of_not_pos δ (withDivision divide) summary positive
  · rw [gigaflops_of_pos positive, ← agrees _ _ positive]
    exact if_pos positive

end

/--
A summary tells exactly of the measured calls: all but the first, or the only one. It counts them,
and its least and greatest times bound them all. The least is one of them, and so is the greatest
unless all are equal to zero, when it is a zero. Calls in another order have equal bounds, and the
same ones if no two different times are equal; another time of the call that warms up changes nothing.
In exact arithmetic the mean times the number of calls is the sum of the times, and it lies between
the bounds. If every call took time, the rates are the greatest of the rates of single calls; if some
call took none, there are no rates. However a quotient by what is not greater than zero is defined,
the summary and its rates are the same, so there is no division by zero.
-/
theorem ofTimings_exact (rates : Rates δ) (kernel : Kernel) (nonempty : timings ≠ [])
    (isWord : timings.length < Word.bound) (bytesIsWord : bytes < Word.bound)
    (flopsIsWord : flops < Word.bound) (amounts : ∀ time ∈ measured timings, IsAmount time) :
    let times := measured timings
    let summary := ofTimings kernel bytes flops timings
    (times = if timings.length = 1 then timings else timings.tail) ∧
      summary.samples = times.length ∧
      IsExtreme AtMost summary.least times ∧ IsGreatestAmount summary.greatest times ∧
      (∀ others, (measured others).Perm times →
        let reordered := ofTimings kernel bytes flops others
        Equals reordered.least summary.least ∧ Equals reordered.greatest summary.greatest ∧
          ((∀ s ∈ times, ∀ t ∈ times, Equals s t → s = t) →
            reordered.least = summary.least ∧ reordered.greatest = summary.greatest)) ∧
      (1 < timings.length → ∀ warmUp,
        ofTimings kernel bytes flops (warmUp :: timings.tail) = summary) ∧
      (∀ value, IsExact value →
        (summary.samples : ℚ) * value summary.mean = (times.map value).sum ∧
          value summary.least ≤ value summary.mean ∧
          value summary.mean ≤ value summary.greatest) ∧
      ((∀ time ∈ times, less zero time = true) →
        (∀ unit : ByteUnit, IsExtreme AtLeast (summary.bandwidth unit)
          (times.map fun time => ofWord bytes / unit.bytes / time)) ∧
        IsExtreme AtLeast summary.gigaflops
          (times.map fun time => ofWord flops * 1.0e-9 / time)) ∧
      ((∃ time ∈ times, Equals time zero) →
        (∀ unit, summary.bandwidth unit = zero) ∧ summary.gigaflops = zero) ∧
      ∀ divide, DividesByPositive divide →
        @ofTimings δ (withDivision divide) kernel bytes flops timings = summary ∧
          (∀ unit, @bandwidth δ (withDivision divide) summary unit = summary.bandwidth unit) ∧
          @gigaflops δ (withDivision divide) summary = summary.gigaflops := by
  intro times summary
  have order := rates.toOrdered
  have least : IsExtreme AtMost summary.least times := isExtreme_least order nonempty amounts
  have greatest : IsGreatestAmount summary.greatest times :=
    isGreatestAmount_greatest order nonempty amounts
  have finite : ∀ time ∈ times, isFinite time = true := fun time mem => (amounts time mem).finite
  refine ⟨measured_eq nonempty, rfl, least, greatest, ?reordered, ?warmUp, ?mean, ?positive, ?zero,
    ?division⟩
  case reordered =>
    intro others perm
    exact bounds_of_perm order nonempty amounts perm
  case warmUp =>
    intro several warmUp
    exact ofTimings_cons_tail several warmUp
  case mean =>
    intro value exact
    have sum : (times.length : ℚ) * value summary.mean = (times.map value).sum :=
      samples_mul_mean exact nonempty isWord
    exact ⟨sum, mean_between exact sum least greatest.bound⟩
  case positive =>
    intro positive
    have leastPositive : less zero summary.least = true := positive summary.least least.mem
    constructor
    · intro unit
      rw [bandwidth_of_pos leastPositive]
      have moved := rates.div_nonneg _ _ (rates.isAmount_ofWord bytes bytesIsWord)
        (rates.unit_pos unit)
      exact isExtreme_rate rates moved least finite leastPositive
    · rw [gigaflops_of_pos leastPositive]
      have done := rates.mul_nonneg _ _ (rates.isAmount_ofWord flops flopsIsWord)
        rates.isAmount_billionth
      exact isExtreme_rate rates done least finite leastPositive
  case zero =>
    rintro ⟨time, mem, none⟩
    exact rates_eq_zero order least mem (order.isNaN_of_finite time (finite time mem)) none
  case division =>
    intro divide agrees
    exact ⟨ofTimings_withDivision agrees rates nonempty isWord,
      bandwidth_withDivision agrees rates summary, gigaflops_withDivision agrees summary⟩

end Summary

/-- Three measured calls after a slow first one: the fastest determines the rate. The mean of the
same times is exact if they are rational numbers. -/
theorem Summary.fastest_of_three_measured_calls :
    let timings : List Float := [10.0, 0.5, 0.25, 1.0]
    let summary := ofTimings .copy 1000000 0 timings
    let exact : Summary ℚ := ofTimings .copy 1000000 0 [10, 1 / 2, 1 / 4, 1]
    summary.samples = 3 ∧ IsExtreme AtMost summary.least [0.5, 0.25, 1.0] ∧
      IsGreatestAmount summary.greatest [0.5, 0.25, 1.0] ∧
      IsExtreme AtLeast (summary.bandwidth .megabytes)
        ([0.5, 0.25, 1.0].map fun time => ofWord 1000000 / 1.0e6 / time) ∧
      3 * exact.mean = 7 / 4 ∧ exact.least ≤ exact.mean ∧ exact.mean ≤ exact.greatest := by
  intro timings summary exact
  have amounts : ∀ time ∈ measured timings, IsAmount time := by decide +kernel
  have positive : ∀ time ∈ measured timings, less zero time = true := by decide +kernel
  have exactAmounts : ∀ time ∈ measured [10, 1 / 2, 1 / 4, (1 : ℚ)], IsAmount time := by
    decide +kernel
  rcases ofTimings_exact rates_float .copy (by simp [timings]) (by decide)
    (by decide : 1000000 < Word.bound) (by decide : 0 < Word.bound) amounts with
    ⟨-, samples, least, greatest, -, -, -, rates, -, -⟩
  rcases ofTimings_exact rates_rat .copy (by simp) (by decide)
    (by decide : 1000000 < Word.bound) (by decide : 0 < Word.bound) exactAmounts with
    ⟨-, -, -, -, -, -, mean, -, -, -⟩
  rcases mean id isExact_rat with ⟨sum, lower, upper⟩
  refine ⟨samples, least, greatest, (rates positive).1 .megabytes, sum.trans ?_, lower, upper⟩
  decide +kernel

/-- A single call that took a negative zero of time: which zero is the greatest is the machine's. -/
example :
    (Summary.ofTimings .copy 0 0 [(-0.0 : Float)]).greatest = -0.0 ∧
      (@Summary.ofTimings Float (withTies fun _ _ => true) .copy 0 0 [-0.0]).greatest = 0.0 := by
  decide +kernel

end Bandwidth
