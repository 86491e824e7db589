import Bandwidth.Element.Native
import Bandwidth.Proofs.Benchmark.Rounding
import Bandwidth.Proofs.Benchmark.Simulation

/-!
# Doubles

The rules on which a verdict rests hold of binary64 numbers. For most of them the cases of a double
tell: what is finite and not zero has a sign, a mantissa and an exponent. That the magnitude of such
a number and the number nearest to a word are above zero needs their packed forms, so mantissas and
exponents are followed through rounding, and bits through packing.

So the arrays of a run on doubles pass their check, without any assumption on the arithmetic.
-/

namespace Bandwidth

namespace Double

open Float.Model UnpackedFloat

/-- A float that is greater than zero and not infinite. -/
def IsPositive : UnpackedFloat → Prop
  | .finite .positive .. => True
  | _ => False

/-- The mantissas and exponents of finite doubles. -/
structure Canonical (mantissa : Nat) (exponent : Int) : Prop where
  mantissa_pos : 0 < mantissa
  mantissa_lt : mantissa < 2 ^ 53
  le_exponent : -1074 ≤ exponent
  exponent_le : exponent ≤ 971
  /-- Only with the least exponent the implicit bit may be missing. -/
  implicit : mantissa < 2 ^ 52 → exponent = -1074

/-- A mantissa with the implicit bit in front. -/
theorem toNat_implicit (mantissa : BitVec 52) :
    (1#1 ++ mantissa).toNat = mantissa.toNat + 2 ^ 52 := by
  change 2 ^ 52 ||| mantissa.toNat = _
  rw [Nat.or_comm, Nat.or_two_pow_eq_add_of_lt mantissa.isLt]

/-- The float that the parts of the bits of a double stand for. -/
def ofParts (sign : Sign) (exponent : BitVec 11) (mantissa : BitVec 52) : UnpackedFloat :=
  if exponent = -1#11 then
    if mantissa = 0#52 then .infinity sign else .notANumber
  else if exponent = 0#11 then
    if nonzero : mantissa = 0#52 then .zero sign
    else .finite sign mantissa.toNat (exponent.toNat - ((1023 : ℤ) + 52) + 1)
      (by simpa [BitVec.toNat_pos, BitVec.pos_iff_ne_zero] using nonzero)
  else .finite sign (1#1 ++ mantissa).toNat (exponent.toNat - ((1023 : ℤ) + 52))
    (by rw [toNat_implicit]; omega)

theorem unpack_eq_ofParts (bits : BitVec 64) :
    unpack Format.binary64 bits = ofParts (Sign.ofBitVec (@unpackSign Format.binary64 bits))
      (@unpackExponent Format.binary64 bits) (@unpackMantissa Format.binary64 bits) := rfl

/-- The sign bit stands in front of the other two parts. -/
theorem sign_packComponents {format : Format} (sign : Sign) (exponent : BitVec format.exponentBits)
    (mantissa : BitVec format.mantissaBitsWithoutImplicit) :
    Sign.ofBitVec (unpackSign (packComponents format sign exponent mantissa)) = sign := by
  have bit : unpackSign (packComponents format sign exponent mantissa) = sign.toBitVec := by
    delta unpackSign
    ext i (_ | ⟨⟨⟩⟩)
    simp +arith [packComponents, BitVec.getElem_append, BitVec.extractLsb]
  rw [bit]
  cases sign <;> rfl

theorem unpack_packComponents (sign : Sign) (exponent : BitVec 11) (mantissa : BitVec 52) :
    unpack Format.binary64 (packComponents Format.binary64 sign exponent mantissa) =
      ofParts sign exponent mantissa := by
  rw [unpack_eq_ofParts, sign_packComponents]
  congr 1
  · exact unpackExponent_packComponents ..
  · exact unpackMantissa_packComponents ..

/-- The bits of a finite float: none for the exponent if the implicit one is missing, and those of
infinity if the exponent is too large. -/
theorem pack_finite (sign : Sign) (mantissa : ℕ) (exponent : ℤ) (positive : 0 < mantissa) :
    UnpackedFloat.pack Format.binary64 (.finite sign mantissa exponent positive) =
      if 2 ^ 11 ≤ (exponent + 1023 + 52).toNat + 1 then packedInfinity Format.binary64 sign
      else if mantissa.log2 + 1 = 53 then
        packComponents Format.binary64 sign (BitVec.ofNat 11 (exponent + 1023 + 52).toNat)
          (BitVec.ofNat 52 mantissa)
      else packComponents Format.binary64 sign 0#11 (BitVec.ofNat 52 mantissa) := rfl

theorem finite_congr {sign : Sign} {mantissa other : ℕ} {exponent otherExponent : ℤ}
    {positive : 0 < mantissa} {otherPositive : 0 < other} (mantissaEq : mantissa = other)
    (exponentEq : exponent = otherExponent) :
    UnpackedFloat.finite sign mantissa exponent positive =
      .finite sign other otherExponent otherPositive := by
  subst mantissaEq exponentEq
  rfl

theorem unpack_packedInfinity (sign : Sign) :
    unpack Format.binary64 (packedInfinity Format.binary64 sign) = .infinity sign := by
  cases sign <;> rfl

/-- A mantissa with its implicit bit is packed without it. -/
theorem unpack_pack_of_long {mantissa : ℕ} {exponent : ℤ} (canonical : Canonical mantissa exponent)
    (sign : Sign) (long : mantissa.log2 + 1 = 53) :
    unpack Format.binary64 (UnpackedFloat.pack Format.binary64
        (.finite sign mantissa exponent canonical.mantissa_pos)) =
      .finite sign mantissa exponent canonical.mantissa_pos := by
  rcases canonical with ⟨mantissa_pos, mantissa_lt, le_exponent, exponent_le, -⟩
  have noOverflow : ¬ 2 ^ 11 ≤ (exponent + 1023 + 52).toNat + 1 := by omega
  have exponentBits : (BitVec.ofNat 11 (exponent + 1023 + 52).toNat).toNat =
      (exponent + 1023 + 52).toNat := by
    rw [BitVec.toNat_ofNat, Nat.mod_eq_of_lt (by omega)]
  have low : 2 ^ 52 ≤ mantissa := by
    apply (Nat.le_log2 mantissa_pos.ne').mp
    omega
  have notLast : BitVec.ofNat 11 (exponent + 1023 + 52).toNat ≠ -1#11 := by
    intro equal
    have last := congrArg BitVec.toNat equal
    rw [exponentBits] at last
    change _ = 2047 at last
    omega
  have notFirst : BitVec.ofNat 11 (exponent + 1023 + 52).toNat ≠ 0#11 := by
    intro equal
    have first := congrArg BitVec.toNat equal
    rw [exponentBits] at first
    change _ = 0 at first
    omega
  have mantissaBits : (BitVec.ofNat 52 mantissa).toNat = mantissa - 2 ^ 52 := by
    rw [BitVec.toNat_ofNat]
    omega
  rw [pack_finite, if_neg noOverflow, if_pos long, unpack_packComponents, ofParts, if_neg notLast,
    if_neg notFirst]
  apply finite_congr
  · rw [toNat_implicit, mantissaBits]
    omega
  · rw [exponentBits]
    omega

/-- A mantissa without the implicit bit is packed as it is, with no exponent. -/
theorem unpack_pack_of_short {mantissa : ℕ} {exponent : ℤ} (canonical : Canonical mantissa exponent)
    (sign : Sign) (short : mantissa.log2 + 1 ≠ 53) :
    unpack Format.binary64 (UnpackedFloat.pack Format.binary64
        (.finite sign mantissa exponent canonical.mantissa_pos)) =
      .finite sign mantissa exponent canonical.mantissa_pos := by
  rcases canonical with ⟨mantissa_pos, mantissa_lt, le_exponent, exponent_le, implicit⟩
  have noOverflow : ¬ 2 ^ 11 ≤ (exponent + 1023 + 52).toNat + 1 := by omega
  have small : mantissa < 2 ^ 52 := by
    have log : mantissa.log2 < 53 := (Nat.log2_lt mantissa_pos.ne').mpr mantissa_lt
    apply (Nat.log2_lt mantissa_pos.ne').mp
    omega
  have mantissaBits : (BitVec.ofNat 52 mantissa).toNat = mantissa := by
    rw [BitVec.toNat_ofNat, Nat.mod_eq_of_lt small]
  have nonzero : BitVec.ofNat 52 mantissa ≠ 0#52 := by
    intro equal
    rw [equal] at mantissaBits
    exact mantissa_pos.ne mantissaBits
  rw [pack_finite, if_neg noOverflow, if_neg short, unpack_packComponents, ofParts,
    if_neg (by decide), if_pos rfl, dif_neg nonzero]
  exact finite_congr mantissaBits (implicit small).symm

theorem unpack_pack_finite {mantissa : ℕ} {exponent : ℤ} (canonical : Canonical mantissa exponent)
    (sign : Sign) :
    unpack Format.binary64 (UnpackedFloat.pack Format.binary64
        (.finite sign mantissa exponent canonical.mantissa_pos)) =
      .finite sign mantissa exponent canonical.mantissa_pos := by
  by_cases long : mantissa.log2 + 1 = 53
  · exact unpack_pack_of_long canonical sign long
  · exact unpack_pack_of_short canonical sign long

/-- A carried mantissa of full length, with an exponent that is not too large. -/
theorem carry_eq_finite {m : ℕ} {e : ℤ} (scaled : Scaled m e) (long : 2 ^ 52 ≤ m)
    (small : e < 971) :
    ∃ mantissa exponent, ∃ canonical : Canonical mantissa exponent,
      carry m e = .finite .positive mantissa exponent canonical.mantissa_pos := by
  rcases scaled with ⟨mantissa_le, le_exponent, -⟩
  by_cases full : m = 2 ^ 53
  · refine ⟨2 ^ 52, e + 1, ⟨by decide, by decide, by omega, by omega, by omega⟩, ?_⟩
    rw [carry, if_pos full]
    rfl
  · refine ⟨m, e, ⟨by omega, by omega, le_exponent, by omega, by omega⟩, ?_⟩
    rw [carry, if_neg full, ofMantissa, dif_neg (by omega)]

theorem canonical_of_ofParts {sign other : Sign} {exponentBits : BitVec 11}
    {mantissaBits : BitVec 52} {mantissa : Nat} {exponent : Int} {positive : 0 < mantissa}
    (parts : ofParts other exponentBits mantissaBits = .finite sign mantissa exponent positive) :
    Canonical mantissa exponent := by
  have exponentBound := exponentBits.isLt
  have mantissaBound := mantissaBits.isLt
  by_cases last : exponentBits = -1#11
  · rw [ofParts, if_pos last] at parts
    by_cases blank : mantissaBits = 0#52
    · rw [if_pos blank] at parts
      nomatch parts
    · rw [if_neg blank] at parts
      nomatch parts
  rw [ofParts, if_neg last] at parts
  by_cases first : exponentBits = 0#11
  · rw [if_pos first] at parts
    by_cases blank : mantissaBits = 0#52
    · rw [dif_pos blank] at parts
      nomatch parts
    · rw [dif_neg blank, first] at parts
      injection parts with _ mantissaEq exponentEq
      change ((0 : ℕ) : ℤ) - (1023 + 52) + 1 = exponent at exponentEq
      exact ⟨positive, by omega, by omega, by omega, fun _ => by omega⟩
  · rw [if_neg first] at parts
    injection parts with _ mantissaEq exponentEq
    have notLast : exponentBits.toNat ≠ 2047 := fun equal =>
      last (BitVec.eq_of_toNat_eq equal)
    have notFirst : exponentBits.toNat ≠ 0 := fun equal => first (BitVec.eq_of_toNat_eq equal)
    rw [toNat_implicit] at mantissaEq
    exact ⟨positive, by omega, by omega, by omega, fun _ => by omega⟩

theorem canonical_of_unpack {bits : BitVec 64} {sign : Sign} {mantissa : Nat} {exponent : Int}
    {positive : 0 < mantissa}
    (unpacked : unpack Format.binary64 bits = .finite sign mantissa exponent positive) :
    Canonical mantissa exponent :=
  canonical_of_ofParts unpacked

/-- Words are rounded to positive doubles. -/
theorem canonical_ofNat {word : Nat} (positive : 0 < word) (isWord : word < 2 ^ 64) :
    ∃ mantissa exponent, ∃ canonical : Canonical mantissa exponent,
      UnpackedFloat.ofNat Format.binary64 word =
        .finite .positive mantissa exponent canonical.mantissa_pos := by
  have above : compare (word : Int) 0 = .gt := by
    rw [Int.compare_eq_gt]
    omega
  have rounds : UnpackedFloat.ofNat Format.binary64 word =
      UnpackedFloat.round Format.binary64 .positive word 0 := by
    simp only [UnpackedFloat.ofNat, UnpackedFloat.ofInt, UnpackedFloat.normalize, above,
      Int.toNat_natCast]
  have wordPos : (0 : ℚ) < word := by exact_mod_cast positive
  rcases round_eq_carry positive 0 with ⟨extended, represents, rounded⟩
  rw [zpow_zero, mul_one] at represents rounded
  have scaled := scaled_roundedMantissa wordPos represents
  have short : word.log2 < 64 := (Nat.log2_lt positive.ne').mpr isWord
  have log : Int.log 2 (word : ℚ) = word.log2 := by
    simpa using log_mul 0 positive
  have long : 2 ^ 52 ≤ extended.roundedMantissa := by
    by_contra short
    have least := scaled.implicit (by omega)
    rw [scale, log] at least
    omega
  rw [rounds, rounded]
  apply carry_eq_finite scaled long
  rw [scale, log]
  omega

theorem zero_eq :
    (Measure.zero : Float) = .ofModel (Float.Model.pack (UnpackedFloat.zero .positive)) := by
  decide +kernel

theorem unpack_zero : (Measure.zero : Float).toModel.unpack = UnpackedFloat.zero .positive := by
  rw [zero_eq]
  rfl

theorem less_eq (x y : Float) :
    Measure.less x y = x.toModel.unpack.lt y.toModel.unpack := by
  change decide (Float.lt x y = true) = _
  rw [Bool.decide_eq_true]
  change decide (x.toModel.unpack.lt y.toModel.unpack = true) = _
  rw [Bool.decide_eq_true]

theorem isPositive_iff {x : Float} :
    IsPositive x.toModel.unpack ↔
      x.isFinite = true ∧ Measure.less (Measure.zero : Float) x = true := by
  change _ ↔ x.toModel.unpack.isFinite = true ∧ _
  rw [less_eq, unpack_zero]
  cases x.toModel.unpack with
  | finite sign mantissa exponent positive =>
      cases sign with
      | positive => exact iff_of_true trivial ⟨rfl, rfl⟩
      | negative => exact iff_of_false id (fun above => Bool.noConfusion above.2)
  | infinity sign => exact iff_of_false id (fun finite => Bool.noConfusion finite.1)
  | notANumber => exact iff_of_false id (fun finite => Bool.noConfusion finite.1)
  | zero sign => exact iff_of_false id (fun above => Bool.noConfusion above.2)

theorem sub_self (x : Float) (finite : x.isFinite = true) : x - x = Measure.zero := by
  change x.toModel.unpack.isFinite = true at finite
  have difference : UnpackedFloat.sub Format.binary64 x.toModel.unpack x.toModel.unpack =
      .zero .positive := by
    cases unpacked : x.toModel.unpack with
    | infinity sign => exact Bool.noConfusion (unpacked ▸ finite)
    | notANumber => exact Bool.noConfusion (unpacked ▸ finite)
    | zero sign => cases sign <;> rfl
    | finite sign mantissa exponent positive =>
        change UnpackedFloat.normalize _ (_ - _) _ _ = _
        rw [Int.sub_self]
        rfl
  rw [zero_eq, ← difference]
  rfl

theorem zero_div (x : Float) (finite : x.isFinite = true)
    (positive : Measure.less (Measure.zero : Float) x = true) :
    (Measure.zero : Float) / x = Measure.zero := by
  have above := isPositive_iff.mpr ⟨finite, positive⟩
  have quotient :
      UnpackedFloat.div Format.binary64 (Measure.zero : Float).toModel.unpack x.toModel.unpack =
        .zero .positive := by
    rw [unpack_zero]
    cases unpacked : x.toModel.unpack <;> rw [unpacked] at above
    case finite sign mantissa exponent positive =>
      cases sign with
      | positive => rfl
      | negative => exact False.elim above
    all_goals exact False.elim above
  change Float.ofModel
      (Float.Model.pack (UnpackedFloat.div Format.binary64 (Measure.zero : Float).toModel.unpack
        x.toModel.unpack)) = _
  rw [quotient, zero_eq]

theorem isPositive_ofModel {mantissa : Nat} {exponent : Int}
    (canonical : Canonical mantissa exponent) :
    IsPositive (Float.ofModel
      (Float.Model.pack
        (.finite .positive mantissa exponent canonical.mantissa_pos))).toModel.unpack := by
  change IsPositive (unpack Format.binary64 (UnpackedFloat.pack Format.binary64 _))
  rw [unpack_pack_finite canonical]
  trivial

theorem ofWord_pos {word : Nat} (positive : 0 < word) (isWord : word < Word.bound) :
    (Measure.ofWord word : Float).isFinite = true ∧
      Measure.less (Measure.zero : Float) (Measure.ofWord word) = true := by
  rcases canonical_ofNat positive isWord with ⟨mantissa, exponent, canonical, rounded⟩
  have value : (Measure.ofWord word : Float) =
      .ofModel (Float.Model.pack (.finite .positive mantissa exponent canonical.mantissa_pos)) := by
    have word_toNat : (UInt64.ofNat word).toNat = word := Nat.mod_eq_of_lt isWord
    rw [← rounded]
    change Float.ofModel
        (Float.Model.pack (UnpackedFloat.ofNat Format.binary64 (UInt64.ofNat word).toNat)) = _
    rw [word_toNat]
  rw [value]
  exact isPositive_iff.mp (isPositive_ofModel canonical)

theorem abs_pos (x : Float) (finite : x.isFinite = true) (nonzero : Measure.isZero x = false) :
    (Measure.abs x).isFinite = true ∧
      Measure.less (Measure.zero : Float) (Measure.abs x) = true := by
  change x.toModel.unpack.isFinite = true at finite
  have isZero : (x.toModel.unpack.beq (Measure.zero : Float).toModel.unpack) =
      Measure.isZero x := rfl
  rw [nonzero, unpack_zero] at isZero
  cases unpacked : x.toModel.unpack with
  | infinity sign => exact Bool.noConfusion (unpacked ▸ finite)
  | notANumber => exact Bool.noConfusion (unpacked ▸ finite)
  | zero sign => cases sign <;> exact absurd (unpacked ▸ isZero) (by decide)
  | finite sign mantissa exponent positive =>
      have canonical : Canonical mantissa exponent := canonical_of_unpack unpacked
      have value : Measure.abs x =
          .ofModel (Float.Model.pack (.finite .positive mantissa exponent positive)) := by
        change Float.ofModel (Float.Model.pack x.toModel.unpack.abs) = _
        rw [unpacked]
        rfl
      rw [value]
      exact isPositive_iff.mp (isPositive_ofModel canonical)

end Double

theorem Measure.rules_float : Measure.Rules Float where
  sub_self := Double.sub_self
  abs_zero := by decide +kernel
  zero_add_zero := by decide +kernel
  sumStart_add_zero := by decide +kernel
  zero_div := Double.zero_div
  ofWord_pos _ := Double.ofWord_pos
  abs_pos := Double.abs_pos
  isNaN_zero := by decide +kernel

theorem Scalar.rules_float : Scalar.Rules Float Float where
  toRules := Measure.rules_float
  array_limit := by decide +kernel
  dot_limit := by decide +kernel

/-- A run on arrays of doubles that reports anything passes the check of its arrays. -/
theorem Benchmark.arrays_pass_of_run_ok {κ : Type} {stream : Stream Float}
    (tell : Event → StateM κ Unit) (clock : StateM κ Float) (observer : Observer (StateM κ) Float)
    {plan : Plan Float} (sound : stream.Sound) {log : Array Event} {world : κ}
    {report : Report Float Float} {after : Logged (Stream Float) × κ}
    (ran : (runInWorld tell clock observer plan).run (⟨stream, log⟩, world) = (.ok report, after)) :
    (Verdict.ofReport report plan).arrayErrors = ⟨Measure.zero, Measure.zero, Measure.zero⟩ ∧
      ∀ role error, .array role error ∉ (Verdict.ofReport report plan).shortfalls := by
  rcases of_runInWorld_run_ok tell clock observer sound ran with ⟨valid, summaries, rfl⟩
  have exact := arrayErrors_expectedReport summaries sound valid Measure.rules_float
  exact ⟨exact, Verdict.array_not_mem_shortfalls Scalar.rules_float exact⟩

end Bandwidth
