import Bandwidth.Backend
import Bandwidth.Benchmark.Plan

/-!
# Parameters of the command line

A switch is either there or not; a setting takes a value. Every parameter has a long name and some have a letter. The
table of parameters is all that the reader of the command line and the help text know about them.
-/

namespace Bandwidth.CommandLine

/-- A parameter that takes no value. -/
inductive Switch where
  | list
  | float
  | triadOnly
  | nstreamOnly
  | csv
  | json
  | mebibytes
  | verbose
  | quiet
  | help
  | version
  deriving DecidableEq, Repr

/-- A parameter that takes a value. -/
inductive Setting where
  | device
  | arraySize
  | iterations
  | residency
  | backend
  deriving DecidableEq, Repr

inductive Parameter where
  | ofSwitch (switch : Switch)
  | ofSetting (setting : Setting)
  deriving DecidableEq, Repr

namespace Switch

def name : Switch → String
  | list => "list"
  | float => "float"
  | triadOnly => "triad-only"
  | nstreamOnly => "nstream-only"
  | csv => "csv"
  | json => "json"
  | mebibytes => "mibibytes"
  | verbose => "verbose"
  | quiet => "quiet"
  | help => "help"
  | version => "version"

def letter? : Switch → Option Char
  | verbose => some 'v'
  | quiet => some 'q'
  | help => some 'h'
  | version => some 'V'
  | _ => none

def purpose : Switch → String
  | list => "List available devices and exit"
  | float => "Use single precision floats"
  | triadOnly => "Only run triad"
  | nstreamOnly => "Only run nstream"
  | csv => "Output results as CSV"
  | json => "Output results as JSON"
  | mebibytes => "Use MiB/s (2^20 bytes) instead of MB/s"
  | verbose => "Enable verbose output"
  | quiet => "Suppress all output except errors and results"
  | help => "Print help"
  | version => "Print version"

def rival? : Switch → Option Switch
  | triadOnly => some nstreamOnly
  | nstreamOnly => some triadOnly
  | csv => some json
  | json => some csv
  | _ => none

end Switch

namespace Setting

def name : Setting → String
  | device => "device"
  | arraySize => "arraysize"
  | iterations => "numtimes"
  | residency => "residency"
  | backend => "backend"

def letter? : Setting → Option Char
  | arraySize => some 's'
  | iterations => some 'n'
  | _ => none

def valueName : Setting → String
  | device => "DEVICE"
  | arraySize => "ARRAY_SIZE"
  | iterations => "NUM_TIMES"
  | residency => "RESIDENCY"
  | backend => "BACKEND"

def purpose : Setting → String
  | device => "Select device at index"
  | arraySize => "Number of elements per array"
  | iterations => "Run the test this many times (at least 2)"
  | residency => "Array residency: device, managed or pagefault"
  | backend => "Backend: cpu, cuda or auto"

/-- The value of a setting that is not there. -/
def standard : Setting → String
  | device => "0"
  | arraySize => toString StreamConfig.standardArraySize
  | iterations => "10"
  | residency => "device"
  | backend => "auto"

end Setting

namespace Parameter

def all : List Parameter :=
  [.ofSwitch .list, .ofSetting .device, .ofSetting .arraySize, .ofSetting .iterations, .ofSwitch .float,
    .ofSwitch .triadOnly, .ofSwitch .nstreamOnly, .ofSetting .residency, .ofSetting .backend, .ofSwitch .csv,
    .ofSwitch .json, .ofSwitch .mebibytes, .ofSwitch .verbose, .ofSwitch .quiet, .ofSwitch .help, .ofSwitch .version]

def name : Parameter → String
  | ofSwitch switch => switch.name
  | ofSetting setting => setting.name

def letter? : Parameter → Option Char
  | ofSwitch switch => switch.letter?
  | ofSetting setting => setting.letter?

/-- A parameter as messages and the help text show it. -/
def shown : Parameter → String
  | ofSwitch switch => s!"--{switch.name}"
  | ofSetting setting => s!"--{setting.name} <{setting.valueName}>"

/-- The line of a parameter in the help text, behind its name. -/
def explanation : Parameter → String
  | ofSwitch switch => switch.purpose
  | ofSetting setting => s!"{setting.purpose} [default: {setting.standard}]"

def ofName? (name : String) : Option Parameter :=
  all.find? (·.name == name)

def ofLetter? (letter : Char) : Option Parameter :=
  all.find? (·.letter? == some letter)

end Parameter

/-!
## Help

The texts that the program tells about itself.
-/

def programName : String := "gpustream"

def programVersion : String := "0.1.0"

def usage : String := s!"Usage: {programName} [OPTIONS]"

/-- A parameter with its letter, or with the blanks that stand for one. -/
def signature (parameter : Parameter) : String :=
  match parameter.letter? with
  | some letter => s!"-{letter}, {parameter.shown}"
  | none => s!"    {parameter.shown}"

/-- The lines that explain parameters, in two columns. -/
def explanations (parameters : List Parameter) : List String :=
  let width := (parameters.map (signature · |>.length)).foldl max 0
  parameters.map fun parameter =>
    "  " ++ (signature parameter).pushn ' ' (width - (signature parameter).length) ++ "  " ++ parameter.explanation

def help : List String :=
  [s!"Command-line memory bandwidth benchmark built on {programName}", "", usage, "", "Options:"] ++
    explanations Parameter.all

def versionLine : String := s!"{programName} {programVersion}"

end Bandwidth.CommandLine
