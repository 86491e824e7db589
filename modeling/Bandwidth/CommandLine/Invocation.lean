import Bandwidth.CommandLine.Refusal
import Bandwidth.Display.Results
import Bandwidth.Event

/-!
# Invocations

What a command line asks for. A number is read from left to right, and the first character that spoils it decides how it
is refused.
-/

namespace Bandwidth.CommandLine

structure Invocation where
  /-- Whether the devices are listed instead of a run. -/
  list : Bool
  device : Nat
  arraySize : Nat
  iterations : Nat
  precision : Precision
  selection : Selection
  residency : Residency
  backend : Backend
  format : ResultFormat
  unit : ByteUnit
  verbose : Bool
  quiet : Bool
  deriving DecidableEq, Repr

/-- Reads digits after the ones that were read so far. -/
def readDigits (greatest value : Nat) : List Char → Except ValueCause Nat
  | [] => .ok value
  | character :: rest =>
      if character.isDigit then
        let value := 10 * value + (character.toNat - '0'.toNat)
        if value ≤ greatest then readDigits greatest value rest else .error .tooLarge
      else
        .error .invalidDigit

def readNumber (greatest : Nat) (text : List Char) : Except ValueCause Nat :=
  if text.isEmpty then .error .invalidDigit else readDigits greatest 0 text

def readWord (text : String) : Except ValueCause Nat :=
  match text.toList with
  | [] => .error .empty
  | '+' :: rest => readNumber Word.greatest rest
  | characters => readNumber Word.greatest characters

def readSigned (text : String) : Except ValueCause Int :=
  match text.toList with
  | [] => .error .empty
  | '+' :: rest => (readNumber 9223372036854775807 rest).map Int.ofNat
  | '-' :: rest =>
      match readNumber 9223372036854775808 rest with
      | .ok value => .ok (-Int.ofNat value)
      | .error .tooLarge => .error .tooSmall
      | .error cause => .error cause
  | characters => (readNumber 9223372036854775807 characters).map Int.ofNat

def leastIterations : Nat := 2

def greatestIterations : Nat := 4294967295

def readIterations (text : String) : Except ValueCause Nat := do
  let value ← readSigned text
  if Int.ofNat leastIterations ≤ value ∧ value ≤ Int.ofNat greatestIterations then
    return value.toNat
  else
    throw (.outside value leastIterations greatestIterations)

namespace Invocation

def standard : Invocation where
  list := false
  device := StreamConfig.standard.deviceIndex
  arraySize := StreamConfig.standard.arraySize
  iterations := 10
  precision := .double
  selection := .standard
  residency := .standard
  backend := .standard
  format := .table
  unit := .standard
  verbose := false
  quiet := false

/-- The invocation with a switch; the switches that ask for information have no place in it. -/
def turnOn (invocation : Invocation) : Switch → Invocation
  | .list => { invocation with list := true }
  | .float => { invocation with precision := .single }
  | .triadOnly => { invocation with selection := .triadOnly }
  | .nstreamOnly => { invocation with selection := .nstreamOnly }
  | .csv => { invocation with format := .csv }
  | .json => { invocation with format := .json }
  | .mebibytes => { invocation with unit := .mebibytes }
  | .verbose => { invocation with verbose := true }
  | .quiet => { invocation with quiet := true }
  | .help | .version => invocation

def assign (invocation : Invocation) (setting : Setting) (value : String) : Except ValueCause Invocation :=
  match setting with
  | .device => do return { invocation with device := ← readWord value }
  | .arraySize => do return { invocation with arraySize := ← readWord value }
  | .iterations => do return { invocation with iterations := ← readIterations value }
  | .residency => do return { invocation with residency := ← (Residency.ofName value).mapError .unknown }
  | .backend => do return { invocation with backend := ← (Backend.ofName value).mapError .unknown }

def plan (invocation : Invocation) : Plan Float :=
  { Plan.standard with iterations := invocation.iterations, selection := invocation.selection }

def streamConfig (invocation : Invocation) : StreamConfig :=
  ⟨invocation.arraySize, invocation.device, invocation.residency⟩

def isChatty (invocation : Invocation) : Bool :=
  invocation.format.isText && !invocation.quiet

def logLevel (invocation : Invocation) : Level :=
  if invocation.quiet then .error else if invocation.verbose then .debug else .info

def logs (invocation : Invocation) (event : Event) : Bool :=
  event.level.rank ≤ invocation.logLevel.rank

end Invocation

end Bandwidth.CommandLine
