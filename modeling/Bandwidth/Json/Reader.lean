import Bandwidth.Json.Token
import Bandwidth.Json.Value

/-!
# Reading documents

The structure of a document is read by a machine that takes one token at a time. It keeps the arrays and objects that
are still open and an expectation of what comes next. The machine has no recursion of its own, so documents may nest to
any depth.
-/

namespace Bandwidth.Json

/-- An array or object that is still open, with what it holds so far, the last first. -/
inductive Frame where
  | array (items : List Json)
  /-- The last name still waits for its value. -/
  | object (members : List (Text × Json)) (name : Text)

inductive Expectation where
  | value
  /-- A value, or the end of the array that was just opened. -/
  | firstItem
  /-- A name, or the end of the object that was just opened. -/
  | firstName
  | name (members : List (Text × Json))
  | colon (members : List (Text × Json)) (name : Text)
  | nextItem (items : List Json)
  | nextMember (members : List (Text × Json))
  | nothing (document : Json)

/-- What is open, the innermost first, and what comes next. -/
structure ReaderState where
  frames : List Frame
  expectation : Expectation

namespace ReaderState

def start : ReaderState := ⟨[], .value⟩

/-- A value is complete. -/
def close (frames : List Frame) (value : Json) : ReaderState :=
  match frames with
  | [] => ⟨[], .nothing value⟩
  | .array items :: frames => ⟨frames, .nextItem (value :: items)⟩
  | .object members name :: frames => ⟨frames, .nextMember ((name, value) :: members)⟩

def begin? (frames : List Frame) : Token → Option ReaderState
  | .null => some (close frames .null)
  | .bool value => some (close frames (.bool value))
  | .number text => some (close frames (.number text))
  | .string text => some (close frames (.string text))
  | .openArray => some ⟨frames, .firstItem⟩
  | .openObject => some ⟨frames, .firstName⟩
  | .closeArray | .closeObject | .colon | .comma => none

def step? (state : ReaderState) (token : Token) : Option ReaderState :=
  match state.expectation, token with
  | .value, token => begin? state.frames token
  | .firstItem, .closeArray => some (close state.frames (.array []))
  | .firstItem, token => begin? (.array [] :: state.frames) token
  | .firstName, .closeObject => some (close state.frames (.object []))
  | .firstName, .string name => some { state with expectation := .colon [] name }
  | .name members, .string name => some { state with expectation := .colon members name }
  | .colon members name, .colon => some ⟨.object members name :: state.frames, .value⟩
  | .nextItem items, .comma => some ⟨.array items :: state.frames, .value⟩
  | .nextItem items, .closeArray => some (close state.frames (.array items.reverse))
  | .nextMember members, .comma => some { state with expectation := .name members }
  | .nextMember members, .closeObject => some (close state.frames (.object members.reverse))
  | _, _ => none

/-- The document, if it is complete. -/
def document? (state : ReaderState) : Option Json :=
  match state.expectation with
  | .nothing document => some document
  | _ => none

end ReaderState

def ofTokens? (tokens : List Token) : Option Json := do
  let state ← tokens.foldlM ReaderState.step? ReaderState.start
  state.document?

def ofString? (text : String) : Option Json := do
  ofTokens? (← Token.scan text.toList)

end Bandwidth.Json
