/-!
# Binary floating-point values

A finite value is `significand · 2 ^ exponent` with natural and integer parts. All decimal text of the library is
computed from these parts in exact arithmetic. The one fact about the neighbours of a value that the parts do not show
is kept with them: below a power of two the next value is only half as far away as above it.
-/

namespace Bandwidth.Decimal

structure Format where
  significandBits : Nat
  exponentBits : Nat

def Format.single : Format := ⟨23, 8⟩

def Format.double : Format := ⟨52, 11⟩

inductive Binary where
  | nan
  | infinite (negative : Bool)
  /-- The number `significand · 2 ^ exponent`, and whether its lower neighbour is at half the distance. -/
  | finite (negative : Bool) (significand : Nat) (exponent : Int) (closeBelow : Bool)
  deriving DecidableEq, Repr

namespace Binary

def ofBits (format : Format) (bits : Nat) : Binary :=
  let hidden := Nat.pow 2 format.significandBits
  let exponents := Nat.pow 2 format.exponentBits
  let stored := bits % hidden
  let biased := bits / hidden % exponents
  let negative := bits / hidden / exponents % 2 == 1
  let least : Int := 2 - Int.ofNat (exponents / 2) - Int.ofNat format.significandBits
  if biased + 1 == exponents then
    if stored == 0 then .infinite negative else .nan
  else if biased == 0 then
    .finite negative stored least false
  else
    .finite negative (hidden + stored) (least + Int.ofNat biased - 1) (stored == 0 && 1 < biased)

def ofDouble (number : Float) : Binary :=
  ofBits .double number.toBits.toNat

def ofSingle (number : Float32) : Binary :=
  ofBits .single number.toBits.toNat

end Binary

end Bandwidth.Decimal
