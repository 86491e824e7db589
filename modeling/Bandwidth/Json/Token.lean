import Bandwidth.Json.Numeral
import Bandwidth.Json.Text

/-!
# Tokens of a document

A document is cut into tokens before its structure is read. Numbers and words are cut as long as possible and checked
afterwards. That is no loss: two tokens that need a separator are never neighbours in a document.
-/

namespace Bandwidth.Json

inductive Token where
  | openArray
  | closeArray
  | openObject
  | closeObject
  | colon
  | comma
  | null
  | bool (value : Bool)
  | number (text : String)
  | string (text : Text)
  deriving DecidableEq, Repr

namespace Token

def isBlank (character : Char) : Bool :=
  character == ' ' || character == '\n' || character == '\r' || character == '\t'

def isNumeric (character : Char) : Bool :=
  character.isDigit || character == '-' || character == '+' || character == '.' || character == 'e' || character == 'E'

def ofMark? : Char → Option Token
  | '[' => some openArray
  | ']' => some closeArray
  | '\x7b' => some openObject
  | '\x7d' => some closeObject
  | ':' => some colon
  | ',' => some comma
  | _ => none

def ofWord? (word : String) : Option Token :=
  match word with
  | "null" => some null
  | "true" => some (bool true)
  | "false" => some (bool false)
  | _ => none

def ofNumber? (text : List Char) : Option Token :=
  (Numeral.ofChars? text).map fun _ => number (String.ofList text)

def hexDigit? (character : Char) : Option Nat :=
  if character.isDigit then some (character.toNat - '0'.toNat)
  else if 'a' ≤ character ∧ character ≤ 'f' then some (character.toNat - 'a'.toNat + 10)
  else if 'A' ≤ character ∧ character ≤ 'F' then some (character.toNat - 'A'.toNat + 10)
  else none

def hexUnit? (first second third fourth : Char) : Option Nat := do
  return ((← hexDigit? first) * 16 + (← hexDigit? second)) * 256 + (← hexDigit? third) * 16 + (← hexDigit? fourth)

/-- The character that a letter after a backslash stands for. -/
def escaped? : Char → Option Char
  | '"' => some '"'
  | '\\' => some '\\'
  | '/' => some '/'
  | 'b' => some '\x08'
  | 'f' => some '\x0c'
  | 'n' => some '\n'
  | 'r' => some '\r'
  | 't' => some '\t'
  | _ => none

/-- Reads a string after its opening quote: the string, and what follows its closing quote. -/
def string? : List Char → Option (Text × List Char)
  | [] => none
  | '"' :: rest => some ([], rest)
  | '\\' :: 'u' :: first :: second :: third :: fourth :: rest => do
      let code ← hexUnit? first second third fourth
      let (text, rest) ← string? rest
      return (.unit code :: text, rest)
  | '\\' :: letter :: rest => do
      let character ← escaped? letter
      let (text, rest) ← string? rest
      return (.char character :: text, rest)
  | character :: rest =>
      if character < ' ' || character == '\\' then
        none
      else do
        let (text, rest) ← string? rest
        return (.char character :: text, rest)

/-- A string takes away at least its closing quote. -/
theorem length_lt_of_string? {characters rest : List Char} {text : Text}
    (success : string? characters = some (text, rest)) : rest.length < characters.length := by
  fun_induction string? characters generalizing text rest with
  | case1 => simp at success
  | case2 => simp_all
  | case3 first second third fourth more ih =>
      simp only [Option.bind_eq_bind, Option.bind_eq_some_iff, Option.pure_def, Option.some.injEq] at success
      obtain ⟨code, -, ⟨inner, after⟩, found, same⟩ := success
      cases same
      have := ih found
      simp only [List.length_cons]
      omega
  | case4 letter more _ ih =>
      simp only [Option.bind_eq_bind, Option.bind_eq_some_iff, Option.pure_def, Option.some.injEq] at success
      obtain ⟨code, -, ⟨inner, after⟩, found, same⟩ := success
      cases same
      have := ih found
      simp only [List.length_cons]
      omega
  | case5 => simp at success
  | case6 character more _ _ _ _ ih =>
      simp only [Option.bind_eq_bind, Option.bind_eq_some_iff, Option.pure_def, Option.some.injEq] at success
      obtain ⟨⟨inner, after⟩, found, same⟩ := success
      cases same
      have := ih found
      simp only [List.length_cons]
      omega

def scan (characters : List Char) : Option (List Token) :=
  match characters with
  | [] => some []
  | '"' :: rest =>
      match _read : string? rest with
      | some (text, rest) => do
          let tokens ← scan rest
          return string text :: tokens
      | none => none
  | character :: rest =>
      if isBlank character then
        scan rest
      else if isNumeric character then do
        let token ← ofNumber? (character :: rest.takeWhile isNumeric)
        let tokens ← scan (rest.dropWhile isNumeric)
        return token :: tokens
      else if character.isAlpha then do
        let token ← ofWord? (String.ofList (character :: rest.takeWhile Char.isAlpha))
        let tokens ← scan (rest.dropWhile Char.isAlpha)
        return token :: tokens
      else do
        let token ← ofMark? character
        let tokens ← scan rest
        return token :: tokens
termination_by characters.length
decreasing_by
  · have := length_lt_of_string? _read
    simp only [List.length_cons]
    omega
  · simp
  · exact Nat.lt_succ_of_le (List.dropWhile_sublist _).length_le
  · exact Nat.lt_succ_of_le (List.dropWhile_sublist _).length_le
  · simp

end Token

end Bandwidth.Json
