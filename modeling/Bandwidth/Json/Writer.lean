import Bandwidth.Json.Value

/-!
# Writing documents

A document is written in one line, or over several lines with two blanks for each level. In a string only the quote,
the backslash and the control characters are escaped.
-/

namespace Bandwidth.Json

def hexDigit (value : Nat) : Char := Nat.digitChar (value % 16)

/-- A code unit as four hexadecimal digits after `\u`. -/
def unitEscape (code : Nat) : String :=
  String.ofList ['\\', 'u', hexDigit (code / 4096), hexDigit (code / 256), hexDigit (code / 16), hexDigit code]

def Symbol.write : Symbol → String
  | .unit code => unitEscape code
  | .char '"' => "\\\""
  | .char '\\' => "\\\\"
  | .char '\x08' => "\\b"
  | .char '\x0c' => "\\f"
  | .char '\n' => "\\n"
  | .char '\r' => "\\r"
  | .char '\t' => "\\t"
  | .char character => if character < ' ' then unitEscape character.toNat else character.toString

def Text.write (text : Text) : String :=
  "\"" ++ String.join (text.map Symbol.write) ++ "\""

mutual

/-- A document in one line, without blanks. -/
def compact : Json → String
  | null => "null"
  | bool value => if value then "true" else "false"
  | number text => text
  | string text => text.write
  | array items => "[" ++ ",".intercalate (compactItems items) ++ "]"
  | object members => "\x7b" ++ ",".intercalate (compactMembers members) ++ "\x7d"

def compactItems : List Json → List String
  | [] => []
  | item :: items => compact item :: compactItems items

def compactMembers : List (Text × Json) → List String
  | [] => []
  | (name, value) :: members => (name.write ++ ":" ++ compact value) :: compactMembers members

end

/-- The parts of an array or object on lines of their own, or nothing if there are none. -/
def block (opening closing indent : String) (lines : List String) : String :=
  if lines.isEmpty then
    opening ++ closing
  else
    opening ++ "\n" ++ ",\n".intercalate (lines.map fun line => indent ++ "  " ++ line) ++ "\n" ++ indent ++ closing

mutual

/-- A document over several lines; all lines but the first start with an indent. -/
def pretty (indent : String) : Json → String
  | null => "null"
  | bool value => if value then "true" else "false"
  | number text => text
  | string text => text.write
  | array items => block "[" "]" indent (prettyItems (indent ++ "  ") items)
  | object members => block "\x7b" "\x7d" indent (prettyMembers (indent ++ "  ") members)

def prettyItems (indent : String) : List Json → List String
  | [] => []
  | item :: items => pretty indent item :: prettyItems indent items

def prettyMembers (indent : String) : List (Text × Json) → List String
  | [] => []
  | (name, value) :: members => (name.write ++ ": " ++ pretty indent value) :: prettyMembers indent members

end

end Bandwidth.Json
