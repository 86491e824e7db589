import Bandwidth.Element

/-!
# Native elements

The element types of the program are the machine's binary32 and binary64 numbers; measures are binary64.
-/

namespace Bandwidth

instance : Measure Float where
  zero := 0.0
  sumStart := -0.0
  infinity := 1.0 / 0.0
  ofWord word := (UInt64.ofNat word).toFloat
  abs := Float.abs
  less x y := x < y
  isZero x := x == 0.0
  isNaN := Float.isNaN
  isFinite := Float.isFinite
  takesFirstForLeast _ _ := false
  takesFirstForGreatest _ _ := false

instance : Scalar Float Float where
  zero := 0.0
  factor := 3.0
  precision := .double
  epsilon := Float.ofBits 0x3cb0000000000000
  dotTolerance := 1.0e-8
  narrow := id
  widen := id
  magnitude := Float.abs

instance : Scalar Float32 Float where
  zero := 0.0
  factor := 3.0
  precision := .single
  epsilon := Float32.ofBits 0x34000000
  dotTolerance := 1.0e-3
  narrow := Float.toFloat32
  widen := Float32.toFloat
  magnitude := Float32.abs

end Bandwidth
