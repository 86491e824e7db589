import Bandwidth.Word

/-!
# Numbers of a document

A number of a JSON document is kept as its digits. What it stands for is decided by who reads it: as a machine word only
a whole number without sign, point and exponent is taken; as a measure every number is taken that is not too large.

A measure is computed from the leading digits that fit a machine word, multiplied or divided once by a power of ten.
This may miss the nearest measure by a unit in the last place, and it is the rule that documents are read by.
-/

namespace Bandwidth.Json

/-- A number as it is written. -/
structure Numeral where
  negative : Bool
  whole : List Nat
  fraction : Option (List Nat)
  /-- Whether the exponent is negative, and its digits. -/
  exponent : Option (Bool × List Nat)
  deriving DecidableEq, Repr

namespace Numeral

def digit? (character : Char) : Option Nat :=
  if character.isDigit then some (character.toNat - '0'.toNat) else none

/-- A run of digits, of which there must be one. -/
def digits? (text : List Char) : Option (List Nat) :=
  if text.isEmpty then none else text.mapM digit?

/-- The digits in front of the point: no zero leads another digit. -/
def whole? (text : List Char) : Option (List Nat) := do
  let digits ← digits? text
  match digits with
  | 0 :: _ :: _ => none
  | _ => return digits

def exponent? : List Char → Option (Bool × List Nat)
  | '+' :: text => (digits? text).map (false, ·)
  | '-' :: text => (digits? text).map (true, ·)
  | text => (digits? text).map (false, ·)

/-- Splits a text at the first character that satisfies a condition, which is dropped. -/
def splitAt? (condition : Char → Bool) (text : List Char) : List Char × Option (List Char) :=
  match text.dropWhile (!condition ·) with
  | [] => (text, none)
  | _ :: rest => (text.takeWhile (!condition ·), some rest)

def ofUnsigned? (negative : Bool) (text : List Char) : Option Numeral := do
  let (mantissa, exponent) := splitAt? (fun character => character == 'e' || character == 'E') text
  let (whole, fraction) := splitAt? (· == '.') mantissa
  let whole ← whole? whole
  let fraction ← match fraction with
    | none => some none
    | some text => (digits? text).map some
  let exponent ← match exponent with
    | none => some none
    | some text => (exponent? text).map some
  return { negative, whole, fraction, exponent }

def ofChars? : List Char → Option Numeral
  | '-' :: text => ofUnsigned? true text
  | text => ofUnsigned? false text

def valueOf (digits : List Nat) : Nat :=
  digits.foldl (fun value digit => 10 * value + digit) 0

def word? (numeral : Numeral) : Option Nat :=
  if numeral.negative || numeral.fraction.isSome || numeral.exponent.isSome then none
  else if valueOf numeral.whole < Word.bound then some (valueOf numeral.whole)
  else none

/-- Appends digits to a significand for as long as it stays a word: the significand, and the digits left over. -/
def absorb (significand : Nat) : List Nat → Nat × List Nat
  | [] => (significand, [])
  | digit :: digits =>
      if 10 * significand + digit < Word.bound then absorb (10 * significand + digit) digits
      else (significand, digit :: digits)

/-- The leading digits of a number, and the power of ten they are to be multiplied by. -/
def parts (numeral : Numeral) : Nat × Int :=
  let (significand, dropped) := absorb 0 numeral.whole
  let fraction := numeral.fraction.getD []
  let (significand, rest) := absorb significand fraction
  (significand, Int.ofNat dropped.length - Int.ofNat (fraction.length - rest.length))

/-- The greatest exponent that is told from an infinite one. -/
def greatestExponent : Nat := 2147483647

/-- A power of ten, as long as it is a binary64 number. -/
def power (exponent : Nat) : Float := OfScientific.ofScientific 1 false exponent

/-- The product of a number and a power of ten, unless it is infinite. -/
def scale (value : Float) (exponent : Int) : Option Float :=
  if exponent < -308 then
    if value == 0.0 then some value else scale (value / power 308) (exponent + 308)
  else if exponent < 0 then
    some (value / power exponent.natAbs)
  else if exponent ≤ 308 then
    let product := value * power exponent.natAbs
    if product.isFinite then some product else none
  else
    if value == 0.0 then some value else none
termination_by exponent.natAbs

/-- The measure that a number stands for, unless it is too large. -/
def measure? (numeral : Numeral) : Option Float := do
  let (significand, exponent) := numeral.parts
  let value := (UInt64.ofNat significand).toFloat
  let magnitude ← match numeral.exponent with
    | none => scale value exponent
    | some (falling, digits) =>
        if greatestExponent < valueOf digits then
          if significand == 0 || falling then some 0.0 else none
        else
          scale value (if falling then exponent - valueOf digits else exponent + valueOf digits)
  return if numeral.negative then -magnitude else magnitude

end Numeral

end Bandwidth.Json
