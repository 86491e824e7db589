import Bandwidth.Benchmark.Summary
import Bandwidth.Word
import Mathlib.Data.List.Perm.Basic

/-!
# The order of times and rates

Least and greatest values of a list are found by folds that start from values which no list needs to
contain, and which one of two equals they take is left to the machine. The fold for the least starts
from infinity and forgets it at the first finite entry. The fold for the greatest starts from zero,
and keeps it at most if all entries are equal to zero: an entry may be a zero of the other sign. Both
end with a bound of all entries. Two lists with the same entries have equal bounds, though perhaps not
the same ones, as comparisons do not tell zeros of different signs apart.

This rests on comparisons that order the numbers. For rates, quotients have to respect the order as
well, which rounded quotients do.
-/

namespace Bandwidth

namespace Measure

section Choices

variable {β : Type} {relates : β → β → Prop} {choose : β → β → β}

variable (relates) in
/-- An entry of a list that is related to all entries. -/
structure IsExtreme (extreme : β) (entries : List β) : Prop where
  mem : extreme ∈ entries
  bound : ∀ entry ∈ entries, relates extreme entry

variable (relates choose) in
/-- One of two values is chosen, and it is related to both. -/
structure Chooses (x y : β) : Prop where
  chosen : choose x y = x ∨ choose x y = y
  left : relates (choose x y) x
  right : relates (choose x y) y

theorem Chooses.first {x y : β} (first : choose x y = x) (self : relates x x)
    (other : relates x y) : Chooses relates choose x y :=
  ⟨.inl first, by rwa [first], by rwa [first]⟩

theorem Chooses.second {x y : β} (second : choose x y = y) (other : relates y x)
    (self : relates y y) : Chooses relates choose x y :=
  ⟨.inr second, by rwa [second], by rwa [second]⟩

theorem IsExtreme.of_perm {x y : β} {entries others : List β}
    (extreme : IsExtreme relates x entries) (other : IsExtreme relates y others)
    (perm : entries.Perm others) : relates x y ∧ relates y x :=
  ⟨extreme.bound y (perm.mem_iff.mpr other.mem), other.bound x (perm.mem_iff.mp extreme.mem)⟩

/-- Two orders of the same entries are one if all the entries are the same. -/
theorem eq_of_perm_of_same {entries others : List β} (perm : others.Perm entries)
    (same : ∀ x ∈ entries, ∀ y ∈ entries, x = y) : others = entries := by
  rcases entries with _ | ⟨first, rest⟩
  · exact perm.eq_nil
  · have replicated : first :: rest = List.replicate (rest.length + 1) first :=
      List.eq_replicate_of_mem fun entry mem => same entry mem first List.mem_cons_self
    rw [replicated] at perm ⊢
    exact List.perm_replicate.mp perm

/-- A fold that makes such choices among good entries ends with one that is related to all. -/
theorem isExtreme_foldl {good : β → Prop}
    (chooses : ∀ x y, good y → Chooses relates choose x y) (refl : ∀ x, relates x x)
    (trans : ∀ x y z, good y → relates x y → relates y z → relates x z) {first : β} {rest : List β}
    (all : ∀ entry ∈ first :: rest, good entry) :
    IsExtreme relates (rest.foldl choose first) (first :: rest) := by
  induction rest generalizing first with
  | nil =>
      refine ⟨List.mem_cons_self, ?_⟩
      intro entry mem
      rw [List.mem_singleton.mp mem]
      exact refl first
  | cons second rest ih =>
      have step := chooses first second (all second (by simp))
      have goodChoice : good (choose first second) := by
        rcases step.chosen with same | same <;> rw [same] <;> exact all _ (by simp)
      have goodRest : ∀ entry ∈ choose first second :: rest, good entry := by
        intro entry mem
        rcases List.mem_cons.mp mem with rfl | later
        · exact goodChoice
        · exact all entry (by simp [later])
      rcases ih goodRest with ⟨mem, bound⟩
      have chosenBound := bound _ List.mem_cons_self
      constructor
      · rcases List.mem_cons.mp mem with same | later
        · rw [List.foldl_cons, same]
          rcases step.chosen with chosen | chosen <;> simp [chosen]
        · exact List.mem_cons_of_mem _ (List.mem_cons_of_mem _ later)
      · intro entry entryMem
        rcases List.mem_cons.mp entryMem with rfl | later
        · exact trans _ _ _ goodChoice chosenBound step.left
        · rcases List.mem_cons.mp later with rfl | later
          · exact trans _ _ _ goodChoice chosenBound step.right
          · exact bound entry (List.mem_cons_of_mem _ later)

end Choices

variable {δ : Type} [Measure δ]

theorem least_eq_or (x y : δ) : least x y = x ∨ least x y = y := by
  unfold least
  split_ifs <;> simp

theorem greatest_eq_or (x y : δ) : greatest x y = x ∨ greatest x y = y := by
  unfold greatest
  split_ifs <;> simp

/-- No greater, as far as comparisons tell. -/
def AtMost (x y : δ) : Prop := less y x = false

instance (x y : δ) : Decidable (AtMost x y) := inferInstanceAs (Decidable (less y x = false))

/-- No less, as far as comparisons tell. -/
def AtLeast (x y : δ) : Prop := AtMost y x

/-- Comparisons find no difference. -/
def Equals (x y : δ) : Prop := AtMost x y ∧ AtMost y x

/-- Finite and not below zero, as times and numbers of bytes are. -/
structure IsAmount (x : δ) : Prop where
  finite : isFinite x = true
  nonneg : AtMost zero x

instance (x : δ) : Decidable (IsAmount x) :=
  decidable_of_iff (isFinite x = true ∧ AtMost zero x)
    ⟨fun ⟨finite, nonneg⟩ => ⟨finite, nonneg⟩, fun ⟨finite, nonneg⟩ => ⟨finite, nonneg⟩⟩

/-- A greatest of some amounts. It is one of them, unless they are all equal to zero: then it may be
zero itself, of whatever sign they are. -/
structure IsGreatestAmount (greatest : δ) (amounts : List δ) : Prop where
  equals : ∃ amount ∈ amounts, Equals greatest amount
  bound : ∀ amount ∈ amounts, AtLeast greatest amount
  mem : greatest ∈ amounts ∨ greatest = zero ∧ ∀ amount ∈ amounts, Equals amount zero

variable (δ) in
/-- Comparisons order the numbers, and infinity is past every finite one. -/
structure Ordered : Prop where
  isNaN_zero : isNaN (zero : δ) = false
  less_asymm : ∀ x y : δ, less x y = true → less y x = false
  atMost_trans : ∀ x y z : δ, isNaN y = false → AtMost x y → AtMost y z → AtMost x z
  isNaN_of_finite : ∀ x : δ, isFinite x = true → isNaN x = false
  less_infinity : ∀ x : δ, isFinite x = true → less x infinity = true

/-- A number that is not below zero, but perhaps infinite. -/
structure IsNonneg (x : δ) : Prop where
  number : isNaN x = false
  nonneg : AtMost zero x

variable (δ) in
/-- Numbers of bytes and operations are ordered amounts, and a rate is no less for a shorter time. -/
structure Rates : Prop extends Ordered δ where
  isAmount_ofWord : ∀ word < Word.bound, IsAmount (ofWord word : δ)
  ofWord_pos : ∀ word, 0 < word → word < Word.bound → less (zero : δ) (ofWord word) = true
  isAmount_billionth : IsAmount (1.0e-9 : δ)
  unit_pos : ∀ unit : ByteUnit, less (zero : δ) unit.bytes = true
  mul_nonneg : ∀ x y : δ, IsAmount x → IsAmount y → IsNonneg (x * y)
  div_nonneg : ∀ x y : δ, IsAmount x → less zero y = true → IsNonneg (x / y)
  div_antitone : ∀ x s t : δ, IsNonneg x → less zero s = true → isFinite t = true →
    AtMost s t → AtMost (x / t) (x / s)

namespace Ordered

variable (order : Ordered δ) {first : δ} {rest : List δ}
include order

theorem atMost_refl (x : δ) : AtMost x x := by
  rcases below : less x x with _ | _
  · exact below
  · exact order.less_asymm x x below

theorem atLeast_trans (x y z : δ) (number : isNaN y = false) (above : AtLeast x y)
    (more : AtLeast y z) : AtLeast x z :=
  order.atMost_trans z y x number more above

theorem equals_trans (x y z : δ) (number : isNaN y = false) (first : Equals x y)
    (second : Equals y z) : Equals x z :=
  ⟨order.atMost_trans x y z number first.1 second.1,
    order.atMost_trans z y x number second.2 first.2⟩

/-- Zeros that are all the same are listed in the same way in any order. -/
theorem eq_of_perm_of_zeros {values others : List δ} (perm : others.Perm values)
    (zeros : ∀ x ∈ values, Equals x zero)
    (separate : ∀ x ∈ values, ∀ y ∈ values, Equals x y → x = y) : others = values := by
  apply eq_of_perm_of_same perm
  intro x xMem y yMem
  apply separate x xMem y yMem
  exact order.equals_trans x zero y order.isNaN_zero (zeros x xMem) (zeros y yMem).symm

theorem chooses_least (x : δ) {y : δ} (number : isNaN y = false) :
    Chooses AtMost least x y := by
  have self := order.atMost_refl
  rcases below : less x y with _ | _
  · rcases above : less y x with _ | _
    · -- Either of two equals is a least one.
      rcases least_eq_or x y with first | second
      · exact .first first (self x) above
      · exact .second second below (self y)
    · exact .second (by simp [least, number, below, above]) below (self y)
  · exact .first (by simp [least, below]) (self x) (order.less_asymm x y below)

theorem chooses_greatest (x : δ) {y : δ} (number : isNaN y = false) :
    Chooses AtLeast greatest x y := by
  have self := order.atMost_refl
  rcases above : less y x with _ | _
  · rcases below : less x y with _ | _
    · rcases greatest_eq_or x y with first | second
      · exact .first first (self x) below
      · exact .second second above (self y)
    · exact .second (by simp [greatest, number, below, above]) above (self y)
  · exact .first (by simp [greatest, above]) (self x) (order.less_asymm y x above)

/-- The fold that starts from infinity takes the first entry, and then only entries. -/
theorem isExtreme_least (finite : ∀ entry ∈ first :: rest, isFinite entry = true) :
    IsExtreme AtMost ((first :: rest).foldl least infinity) (first :: rest) := by
  have numbers : ∀ entry ∈ first :: rest, isNaN entry = false := fun entry mem =>
    order.isNaN_of_finite entry (finite entry mem)
  have taken : least infinity first = first := by
    have below := order.less_infinity first (finite first List.mem_cons_self)
    have notAbove := order.less_asymm _ _ below
    simp [least, notAbove, below, numbers first List.mem_cons_self]
  rw [List.foldl_cons, taken]
  exact isExtreme_foldl (fun x _ => order.chooses_least x) order.atMost_refl
    order.atMost_trans numbers

/-- The fold that starts from zero ends with an entry or with zero, and no entry is below zero. -/
theorem isGreatestAmount_foldl {entries : List δ} (nonempty : entries ≠ [])
    (amounts : ∀ entry ∈ entries, IsAmount entry) :
    IsGreatestAmount (entries.foldl greatest zero) entries := by
  have numbers : ∀ entry ∈ zero :: entries, isNaN entry = false := by
    intro entry mem
    rcases List.mem_cons.mp mem with rfl | mem
    · exact order.isNaN_zero
    · exact order.isNaN_of_finite entry (amounts entry mem).finite
  have extreme : IsExtreme AtLeast (entries.foldl greatest zero) (zero :: entries) :=
    isExtreme_foldl (fun x _ => order.chooses_greatest x) order.atMost_refl order.atLeast_trans
      numbers
  have bound : ∀ entry ∈ entries, AtLeast (entries.foldl greatest zero) entry := fun entry mem =>
    extreme.bound entry (List.mem_cons_of_mem _ mem)
  rcases List.mem_cons.mp extreme.mem with isZero | mem
  · have zeros : ∀ entry ∈ entries, Equals entry zero := fun entry mem =>
      ⟨isZero ▸ bound entry mem, (amounts entry mem).nonneg⟩
    rcases List.exists_mem_of_ne_nil entries nonempty with ⟨entry, mem⟩
    have equals : Equals (entries.foldl greatest zero) entry := by
      rw [isZero]
      exact (zeros entry mem).symm
    exact ⟨⟨entry, mem, equals⟩, bound, .inr ⟨isZero, zeros⟩⟩
  · exact ⟨⟨_, mem, order.atMost_refl _, order.atMost_refl _⟩, bound, .inl mem⟩

/-- A greatest amount is at most what bounds the amounts. -/
theorem atMost_of_bound {x y : δ} {entries : List δ}
    (amounts : ∀ entry ∈ entries, IsAmount entry) (greatest : IsGreatestAmount x entries)
    (bound : ∀ entry ∈ entries, AtLeast y entry) : AtMost x y := by
  rcases greatest.equals with ⟨entry, mem, equals⟩
  have number := order.isNaN_of_finite entry (amounts entry mem).finite
  exact order.atMost_trans x entry y number equals.1 (bound entry mem)

theorem equals_of_perm {x y : δ} {entries others : List δ}
    (amounts : ∀ entry ∈ entries, IsAmount entry) (perm : others.Perm entries)
    (greatest : IsGreatestAmount x entries) (other : IsGreatestAmount y others) : Equals y x := by
  have othersAmounts : ∀ entry ∈ others, IsAmount entry := fun entry mem =>
    amounts entry (perm.mem_iff.mp mem)
  constructor
  · exact order.atMost_of_bound othersAmounts other fun entry mem =>
      greatest.bound entry (perm.mem_iff.mp mem)
  · exact order.atMost_of_bound amounts greatest fun entry mem =>
      other.bound entry (perm.mem_iff.mpr mem)

end Ordered

end Measure

end Bandwidth
