import Bandwidth.CommandLine.Invocation

/-!
# Reading a command line

A switch is given by its name or its letter, and letters may be joined. The value of a setting is joined to it or is the
next argument. A value that is the next argument is kept back: it is looked at when the next parameter is reached or the
command line ends, and an argument that belongs nowhere is refused before that. Help and version are answered as soon as
they are met.
-/

namespace Bandwidth.CommandLine

inductive Stop where
  | help
  | version
  | refusal (refusal : Refusal)
  deriving DecidableEq, Repr

/-- A setting whose value is kept back. -/
structure Pending where
  setting : Setting
  value : Option String
  deriving DecidableEq, Repr

structure Progress where
  invocation : Invocation
  given : List Parameter
  pending : Option Pending
  deriving DecidableEq, Repr

namespace Progress

def start : Progress := ⟨.standard, [], none⟩

def refuse {β : Type} (refusal : Refusal) : Except Stop β := .error (.refusal refusal)

/-- Notes a parameter, which must be there only once. -/
def note (progress : Progress) (parameter : Parameter) : Except Stop Progress :=
  if progress.given.contains parameter then refuse (.repeated parameter)
  else .ok { progress with given := progress.given ++ [parameter] }

def assign (progress : Progress) (setting : Setting) (value : String) : Except Stop Progress := do
  let progress ← progress.note (.ofSetting setting)
  match progress.invocation.assign setting value with
  | .ok invocation => return { progress with invocation := invocation }
  | .error cause => refuse (.invalidValue value setting cause)

/-- Looks at the value that was kept back. -/
def settle (progress : Progress) : Except Stop Progress :=
  match progress.pending with
  | none => .ok progress
  | some ⟨setting, none⟩ => refuse (.missingValue setting)
  | some ⟨setting, some value⟩ => { progress with pending := none }.assign setting value

def turnOn (progress : Progress) (switch : Switch) : Except Stop Progress := do
  let progress ← progress.settle
  match switch with
  | .help => throw .help
  | .version => throw .version
  | _ =>
      let progress ← progress.note (.ofSwitch switch)
      return { progress with invocation := progress.invocation.turnOn switch }

def set (progress : Progress) (setting : Setting) (joined : Option String) : Except Stop Progress := do
  let progress ← progress.settle
  match joined with
  | some value => progress.assign setting value
  | none => return { progress with pending := some ⟨setting, none⟩ }

def readLong (progress : Progress) (argument : List Char) : Except Stop Progress :=
  let name := String.ofList (argument.takeWhile (· != '='))
  let joined := match argument.dropWhile (· != '=') with
    | [] => none
    | _ :: value => some (String.ofList value)
  match Parameter.ofName? name, joined with
  | none, _ => refuse (.unexpectedArgument s!"--{name}")
  | some (.ofSwitch switch), none => progress.turnOn switch
  | some (.ofSwitch switch), some value => refuse (.unexpectedValue value switch)
  | some (.ofSetting setting), joined => progress.set setting joined

def readLetters (progress : Progress) : List Char → Except Stop Progress
  | [] => .ok progress
  | letter :: rest =>
      match Parameter.ofLetter? letter with
      | none => refuse (.unexpectedArgument s!"-{letter}")
      | some (.ofSwitch switch) => do (← progress.turnOn switch).readLetters rest
      | some (.ofSetting setting) =>
          match rest with
          | [] => progress.set setting none
          | '=' :: value => progress.set setting (some (String.ofList value))
          | value => progress.set setting (some (String.ofList value))

/-- Reads an argument without dashes: it is the value that a setting waits for. -/
def readValue (progress : Progress) (argument : String) : Except Stop Progress :=
  match progress.pending with
  | some ⟨setting, none⟩ => .ok { progress with pending := some ⟨setting, some argument⟩ }
  | _ => refuse (.unexpectedArgument argument)

def read (progress : Progress) (argument : String) : Except Stop Progress :=
  match argument.toList with
  | '-' :: '-' :: characters => progress.readLong characters
  | '-' :: letter :: letters => progress.readLetters (letter :: letters)
  | _ => progress.readValue argument

/-- Reads all arguments. Nothing may follow two dashes that stand alone. -/
def readAll (progress : Progress) : List String → Except Stop Progress
  | [] => progress.settle
  | "--" :: [] => progress.settle
  | "--" :: extra :: _ => refuse (.unexpectedArgument extra)
  | argument :: rest => do (← progress.read argument).readAll rest

/-- The first switch that has its rival beside it. -/
def conflict? (progress : Progress) : Option (Switch × Switch) :=
  progress.given.findSome? fun
    | .ofSwitch switch => do
        let rival ← switch.rival?
        if progress.given.contains (.ofSwitch rival) then some (switch, rival) else none
    | .ofSetting _ => none

end Progress

def read (arguments : List String) : Except Stop Invocation := do
  let progress ← Progress.start.readAll arguments
  match progress.conflict? with
  | some (first, second) => throw (.refusal (.conflict first second))
  | none => return progress.invocation

end Bandwidth.CommandLine
