import Bandwidth.Element
import Bandwidth.Kernel

/-!
# Timing summaries

The calls of a kernel are summarised by their least, greatest and mean time. The first call warms up and is left out,
if it is not the only one. Rates are computed from the fastest call, and a call that took no time has no rate.
-/

namespace Bandwidth

inductive ByteUnit where
  | megabytes
  | mebibytes
  deriving DecidableEq, Repr

namespace ByteUnit

def standard : ByteUnit := megabytes

def bytes {δ : Type} [Measure δ] : ByteUnit → δ
  | megabytes => 1.0e6
  | mebibytes => Measure.ofWord 1048576

def label : ByteUnit → String
  | megabytes => "MBytes/sec"
  | mebibytes => "MiBytes/sec"

def tag : ByteUnit → String
  | megabytes => "megabytes"
  | mebibytes => "mebibytes"

end ByteUnit

structure Summary (δ : Type) where
  kernel : Kernel
  bytes : Nat
  flops : Nat
  least : δ
  greatest : δ
  /-- The seconds of a call on average. -/
  mean : δ
  samples : Nat

namespace Summary

variable {δ : Type} [Measure δ]

omit [Measure δ] in
/-- The times that count: all but the first, if there are several. -/
def measured (timings : List δ) : List δ :=
  if 1 < timings.length then timings.tail else timings

def ofTimings (kernel : Kernel) (bytes flops : Nat) (timings : List δ) : Summary δ :=
  let times := measured timings
  { kernel, bytes, flops
    least := if times.isEmpty then Measure.zero else times.foldl Measure.least Measure.infinity
    greatest := times.foldl Measure.greatest Measure.zero
    mean := if times.isEmpty then Measure.zero else Measure.sum times / Measure.ofWord times.length
    samples := times.length }

/-- Units moved per second in the fastest call. -/
def bandwidth (summary : Summary δ) (unit : ByteUnit) : δ :=
  if Measure.less Measure.zero summary.least then
    Measure.ofWord summary.bytes / unit.bytes / summary.least
  else
    Measure.zero

/-- Billions of floating-point operations per second in the fastest call. -/
def gigaflops (summary : Summary δ) : δ :=
  if Measure.less Measure.zero summary.least then
    Measure.ofWord summary.flops * 1.0e-9 / summary.least
  else
    Measure.zero

end Summary

end Bandwidth
