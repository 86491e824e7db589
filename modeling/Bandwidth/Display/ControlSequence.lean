/-!
# Control sequences

A text for a terminal may hold control sequences, which say how to show what follows and are not shown themselves. Where
there is no terminal they are taken out of the text, and with them all control characters but the blank ones.

A sequence starts with the escape character and ends with its final character, or for some kinds with a terminator. An
escape character inside a sequence starts a new one. A sequence may be left open at the end of the text.

A blank control character is shown inside a sequence too, unless the sequence is a string, and it suspends the sequence:
what follows is shown as if there were none. The next other control character resumes it. A character outside of ASCII
that is shown meanwhile makes the terminal forget it.
-/

namespace Bandwidth.Display

/-- The part of a sequence that a terminal has read. -/
inductive TerminalMode where
  | text
  | escape
  /-- The escape character and some intermediate characters. -/
  | intermediate
  /-- The start of a sequence with an opening bracket. -/
  | control
  /-- The start of a string for the operating system, which a bell may end. -/
  | command
  /-- The start of a string for the device. -/
  | device
  /-- The start of a string for the device with some parameters. -/
  | deviceParameters
  /-- The start of a string for the device with some intermediate characters. -/
  | deviceIntermediate
  /-- The inside of a string, which a string terminator may end. -/
  | string
  deriving DecidableEq, Repr

/-- What a terminal knows of the text before a character. -/
structure Terminal where
  mode : TerminalMode
  /-- Whether characters are shown although a sequence is open. -/
  suspended : Bool
  deriving DecidableEq, Repr

/-- The character that starts a sequence. -/
def escapeCharacter : Char := '\x1b'

/-- The control characters that are blanks. -/
def isBlankControl (character : Char) : Bool :=
  character == '\t' || character == '\n' || character == '\x0c' || character == '\r'

def isControl (character : Char) : Bool := character < ' ' || character == '\x7f'

def isBetween (least greatest character : Char) : Bool := least ≤ character && character ≤ greatest

/-- The characters outside of ASCII. -/
def isWide (character : Char) : Bool := '\x7f' < character

/-- Whether the encoding of a character holds the byte of a string terminator. -/
def holdsTerminator (character : Char) : Bool :=
  isWide character && (String.utf8EncodeChar character).contains 0x9c

namespace TerminalMode

/-- Whether control characters are no part of the open sequence. -/
def executesControls : TerminalMode → Bool
  | text | escape | intermediate | control => true
  | command | device | deviceParameters | deviceIntermediate | string => false

/-- The mode after a character that starts or goes on with a sequence. -/
def advance (mode : TerminalMode) (character : Char) : TerminalMode :=
  match mode with
  | text => text
  | escape =>
      if character == '[' then control
      else if character == ']' then command
      else if character == 'P' then device
      else if character == 'X' || character == '^' || character == '_' then string
      else if isBetween ' ' '/' character then intermediate
      else if isBetween '0' '~' character then text
      else escape
  | intermediate => if isBetween '0' '~' character then text else intermediate
  | control => if isBetween '@' '~' character then text else control
  | command => if character == '\x07' then text else command
  | device =>
      if isBetween '@' '~' character then string
      else if isBetween '0' '?' character then deviceParameters
      else if isBetween ' ' '/' character then deviceIntermediate
      else device
  | deviceParameters =>
      if isBetween '<' '~' character then string
      else if isBetween ' ' '/' character then deviceIntermediate
      else deviceParameters
  | deviceIntermediate => if isBetween '0' '~' character then string else deviceIntermediate
  | string => if holdsTerminator character then text else string

end TerminalMode

namespace Terminal

def start : Terminal := ⟨.text, false⟩

/-- Takes a character: the terminal after it, and whether the character is shown. -/
def step (terminal : Terminal) (character : Char) : Terminal × Bool :=
  let mode := terminal.mode
  if character == escapeCharacter then (⟨.escape, false⟩, false)
  else if character == '\x18' || character == '\x1a' then (⟨.text, false⟩, false)
  else if mode.executesControls && isControl character then
    if isBlankControl character then (⟨mode, true⟩, true) else (⟨mode, false⟩, false)
  else if terminal.suspended || mode == .text then
    (⟨if isWide character then .text else mode, true⟩, true)
  else
    (⟨mode.advance character, false⟩, false)

/-- The characters that are shown, from some point on. -/
def shown (terminal : Terminal) : List Char → List Char
  | [] => []
  | character :: rest =>
      match terminal.step character with
      | (after, true) => character :: after.shown rest
      | (after, false) => after.shown rest

end Terminal

def withoutControls (text : String) : String :=
  String.ofList (Terminal.start.shown text.toList)

end Bandwidth.Display
