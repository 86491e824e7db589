import Bandwidth.Decimal.Shortest

/-!
# Decimal layouts

The digits of a number are settled by `Decimal.shortest`; how they are laid out is up to each output. A `Layout` holds
these decisions: which sizes are written with a plain point, whether a whole number keeps `.0`, whether an exponent
has its plus sign.

A number can also be rounded to a set number of places behind the point. What is rounded then is the exact value, and a
tie goes to the even neighbour.
-/

namespace Bandwidth.Decimal

/-- How an output writes a number with as few digits as read back. -/
structure Layout where
  /-- Which of two equally near decimals is written. -/
  tie : Tie
  /-- Whether a number whose leading digit counts this power of ten is written with a plain point. -/
  positional : Int → Bool
  /-- Whether a whole number in plain notation ends in `.0`. -/
  pointZero : Bool
  /-- Whether an exponent that is not negative has a plus sign. -/
  exponentPlus : Bool
  infinity : String
  nan : String

def zeros (count : Nat) : String :=
  String.ofList (List.replicate count '0')

def withPoint (digits : String) (whole : Nat) : String :=
  let characters := digits.toList
  String.ofList (characters.take whole) ++ "." ++ String.ofList (characters.drop whole)

namespace Layout

/-- Plain notation: the point stands after, inside or before the digits. -/
def plain (layout : Layout) (number : Digits) : String :=
  let digits := toString number.digits
  let whole := Int.ofNat digits.length + number.exponent
  if 0 ≤ number.exponent then
    digits ++ zeros number.exponent.toNat ++ (if layout.pointZero then ".0" else "")
  else if 0 < whole then
    withPoint digits whole.toNat
  else
    "0." ++ zeros (-whole).toNat ++ digits

/-- Notation with an exponent: one digit in front of the point. -/
def scientific (layout : Layout) (number : Digits) : String :=
  let digits := toString number.digits
  let exponent := Int.ofNat digits.length + number.exponent - 1
  let mantissa := if digits.length ≤ 1 then digits else withPoint digits 1
  let sign := if exponent < 0 then "-" else if layout.exponentPlus then "+" else ""
  mantissa ++ "e" ++ sign ++ toString exponent.natAbs

def write (layout : Layout) : Binary → String
  | .nan => layout.nan
  | .infinite negative => (if negative then "-" else "") ++ layout.infinity
  | .finite negative significand exponent closeBelow =>
      let number := if significand == 0 then ⟨0, 0⟩ else shortest layout.tie significand exponent closeBelow
      let leading := Int.ofNat (toString number.digits).length + number.exponent - 1
      (if negative then "-" else "") ++
        (if layout.positional leading then layout.plain number else layout.scientific number)

end Layout

/-- Plain notation at every size, with no point in whole numbers. -/
def plainLayout : Layout where
  tie := .up
  positional := fun _ => true
  pointZero := false
  exponentPlus := false
  infinity := "inf"
  nan := "NaN"

def scientificLayout : Layout where
  tie := .up
  positional := fun _ => false
  pointZero := false
  exponentPlus := false
  infinity := "inf"
  nan := "NaN"

/-- Plain notation from `0.0001` up to sixteen digits in front of the point; whole numbers keep `.0`. -/
def sourceLayout : Layout where
  tie := .up
  positional := fun leading => -5 < leading && leading < 16
  pointZero := true
  exponentPlus := false
  infinity := "inf"
  nan := "NaN"

/-- The natural number nearest to `numerator / denominator`; a tie goes to the even one. -/
def roundDiv (numerator denominator : Nat) : Nat :=
  let quotient := numerator / denominator
  let rest := numerator % denominator
  match compare (2 * rest) denominator with
  | .lt => quotient
  | .gt => quotient + 1
  | .eq => if quotient % 2 == 0 then quotient else quotient + 1

/-- The text of a number with a fixed number of places; a rounded zero keeps its sign. -/
def fixed (places : Nat) : Binary → String
  | .nan => "NaN"
  | .infinite negative => (if negative then "-" else "") ++ "inf"
  | .finite negative significand exponent _ =>
      let scaled := significand * Nat.pow 10 places
      let rounded := roundDiv (scaled * Nat.pow 2 exponent.toNat) (Nat.pow 2 (-exponent).toNat)
      let digits := toString rounded
      let padded := zeros (places + 1 - digits.length) ++ digits
      let text := if places == 0 then padded else withPoint padded (padded.length - places)
      (if negative then "-" else "") ++ text

end Bandwidth.Decimal
