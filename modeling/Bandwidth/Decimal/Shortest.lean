import Bandwidth.Decimal.Binary

/-!
# Shortest decimals

The shortest decimal of a value is the multiple of the greatest power of ten that still reads back as the value. A
decimal reads back as the value if it lies in the value's *rounding interval*: no further from it than half-way to its
neighbours, where the half-way points belong to the value with the even significand.

The search goes down the powers of ten. On each grid only the two neighbours of the value can be the first hit, so it
is enough to test those. Of two hits the nearer is taken; a tie is decided by the caller.
-/

namespace Bandwidth.Decimal

inductive Tie where
  | toEven
  | up
  deriving DecidableEq, Repr

/-- The decimal number `digits · 10 ^ exponent`. -/
structure Digits where
  digits : Nat
  exponent : Int
  deriving DecidableEq, Repr

/--
A positive value with its rounding interval, in quarters of the value's unit in the last place: the interval reaches
from `low` to `high`, with its ends if `closed`, and one quarter is `2 ^ scale`.
-/
structure Interval where
  low : Nat
  value : Nat
  high : Nat
  closed : Bool
  scale : Int

namespace Interval

def ofParts (significand : Nat) (exponent : Int) (closeBelow : Bool) : Interval where
  low := 4 * significand - (if closeBelow then 1 else 2)
  value := 4 * significand
  high := 4 * significand + 2
  closed := significand % 2 == 0
  scale := exponent - 2

/-- What one quarter counts on the grid of multiples of `10 ^ grid`, and what one grid step counts. -/
def weights (interval : Interval) (grid : Int) : Nat × Nat :=
  (Nat.pow 2 interval.scale.toNat * Nat.pow 10 (-grid).toNat,
    Nat.pow 2 (-interval.scale).toNat * Nat.pow 10 grid.toNat)

def contains (interval : Interval) (grid : Int) (candidate : Nat) : Bool :=
  let (quarter, step) := interval.weights grid
  let point := candidate * step
  if interval.closed then
    interval.low * quarter ≤ point && point ≤ interval.high * quarter
  else
    interval.low * quarter < point && point < interval.high * quarter

/-- The multiple of `10 ^ grid` in the interval that is nearest to the value, if the interval holds any. -/
def nearest? (interval : Interval) (tie : Tie) (grid : Int) : Option Nat :=
  let (quarter, step) := interval.weights grid
  let below := interval.value * quarter / step
  match interval.contains grid below, interval.contains grid (below + 1) with
  | false, false => none
  | true, false => some below
  | false, true => some (below + 1)
  | true, true =>
      match compare (2 * (interval.value * quarter)) ((2 * below + 1) * step) with
      | .lt => some below
      | .gt => some (below + 1)
      | .eq =>
          match tie with
          | .up => some (below + 1)
          | .toEven => some (if below % 2 == 0 then below else below + 1)

/-- Goes down the grids until one has a point in the interval. -/
def search (interval : Interval) (tie : Tie) (grid : Int) : Nat → Digits
  | 0 => ⟨interval.value, grid⟩
  | steps + 1 =>
      match interval.nearest? tie grid with
      | some digits => ⟨digits, grid⟩
      | none => interval.search tie (grid - 1) steps

/-- A power of ten, as an exponent, with no smaller power above the interval; `30103 / 100000` is log₁₀ 2 rounded up. -/
def topGrid (interval : Interval) : Int :=
  (Int.ofNat (Nat.log2 interval.high + 1) + interval.scale) * 30103 / 100000 + 1

end Interval

/--
The shortest decimal of `significand · 2 ^ exponent`. Seventeen digits always suffice for the formats of this library,
so the search is over long before its thirty grids are used up.
-/
def shortest (tie : Tie) (significand : Nat) (exponent : Int) (closeBelow : Bool) : Digits :=
  let interval := Interval.ofParts significand exponent closeBelow
  interval.search tie interval.topGrid 30

end Bandwidth.Decimal
