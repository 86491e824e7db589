import Bandwidth.CommandLine.Parameter
import Bandwidth.Display.Style

/-!
# Refused command lines

Why a command line is refused, and the text that says so. The text holds what the user wrote, character for character.
-/

namespace Bandwidth.CommandLine

inductive ValueCause where
  | empty
  | invalidDigit
  | tooLarge
  | tooSmall
  | outside (value : Int) (least greatest : Nat)
  /-- The value names nothing. -/
  | unknown (failure : Failure)
  deriving DecidableEq, Repr

def ValueCause.message : ValueCause → String
  | empty => "cannot parse integer from empty string"
  | invalidDigit => "invalid digit found in string"
  | tooLarge => "number too large to fit in target type"
  | tooSmall => "number too small to fit in target type"
  | outside value least greatest => s!"{value} is not in {least}..={greatest}"
  | unknown failure => failure.message

inductive Refusal where
  /-- No parameter goes by this name, and no setting waits for a value. -/
  | unexpectedArgument (argument : String)
  | unexpectedValue (value : String) (switch : Switch)
  | missingValue (setting : Setting)
  | repeated (parameter : Parameter)
  /-- Two switches exclude each other; the first one came first. -/
  | conflict (first second : Switch)
  | invalidValue (value : String) (setting : Setting) (cause : ValueCause)
  deriving DecidableEq, Repr

namespace Refusal

/-- The wording of a refused command line. What was written stands out, and so does what it was written for. -/
def message (style : Style) (refusal : Refusal) : String :=
  let written (text : String) : String := style.paint .warning text
  let expected (parameter : Parameter) : String := style.paint .heading parameter.shown
  match refusal with
  | unexpectedArgument argument => "unexpected argument '" ++ written argument ++ "' found"
  | unexpectedValue value switch =>
      "unexpected value '" ++ written value ++ "' for '" ++ expected (.ofSwitch switch) ++
        "' found; no more were expected"
  | missingValue setting =>
      "a value is required for '" ++ written (Parameter.ofSetting setting).shown ++ "' but none was supplied"
  | repeated parameter => "the argument '" ++ written parameter.shown ++ "' cannot be used multiple times"
  | conflict first second =>
      "the argument '" ++ written (Parameter.ofSwitch first).shown ++ "' cannot be used with '" ++
        written (Parameter.ofSwitch second).shown ++ "'"
  | invalidValue value setting cause =>
      "invalid value '" ++ written value ++ "' for '" ++ expected (.ofSetting setting) ++ "': " ++ cause.message

/-- Whether the usage is shown with the message: it does not help where a value is wrong. -/
def showsUsage : Refusal → Bool
  | missingValue _ | invalidValue .. => false
  | unexpectedArgument _ | unexpectedValue .. | repeated _ | conflict .. => true

def report (style : Style) (refusal : Refusal) : String :=
  style.paint .alarm "error:" ++ " " ++ refusal.message style ++ "\n\n" ++
    (if refusal.showsUsage then usage ++ "\n\n" else "") ++
    "For more information, try '" ++ style.paint .heading (Parameter.ofSwitch .help).shown ++ "'."

end Refusal

end Bandwidth.CommandLine
