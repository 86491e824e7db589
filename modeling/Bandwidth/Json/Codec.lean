import Bandwidth.Element
import Bandwidth.Json.Numeral
import Bandwidth.Json.Value

/-!
# Types as documents

A type can be written as a document and read back. A type of names is a string. A record is an object: its members may
come in any order and may have strangers among them, but each of its own must be there exactly once. The values of a
record may also come as an array, in the order of the fields.
-/

namespace Bandwidth.Json

class Codec (α : Type) where
  toJson : α → Json
  ofJson? : Json → Option α

def word? : Json → Option Nat
  | number text => (Numeral.ofChars? text.toList).bind Numeral.word?
  | _ => none

def measure? : Json → Option Float
  | number text => (Numeral.ofChars? text.toList).bind Numeral.measure?
  | _ => none

def text? : Json → Option String
  | string text => text.toString?
  | _ => none

/-- The name that a document is: a string, or an object that gives the name no value. -/
def name? : Json → Option String
  | string text => text.toString?
  | object [(text, null)] => text.toString?
  | _ => none

/-- The items of an array with so many items. -/
def items? (count : Nat) : Json → Option (List Json)
  | array items => if items.length = count then some items else none
  | _ => none

/-- The values of a record's fields, in the order of the fields. -/
def fields? (names : List String) : Json → Option (List Json)
  | object members => do
      let members ← members.mapM fun (name, value) => name.toString?.map (·, value)
      names.mapM fun name =>
        match members.filter (·.1 == name) with
        | [(_, value)] => some value
        | _ => none
  | document => document.items? names.length

def member? (name : String) : Json → Option Json
  | object members => (members.find? fun member => member.1.toString? == some name).map (·.2)
  | _ => none

instance : Codec Nat where
  toJson := word
  ofJson? := word?

instance : Codec String where
  toJson := text
  ofJson? := text?

instance : Codec Bool where
  toJson := bool
  ofJson?
    | bool value => some value
    | _ => none

instance : Codec Json where
  toJson := id
  ofJson? := some

instance {α : Type} [Codec α] : Codec (List α) where
  toJson values := array (values.map Codec.toJson)
  ofJson?
    | array items => items.mapM Codec.ofJson?
    | _ => none

instance {α : Type} [Codec α] : Codec (Option α) where
  toJson value := (value.map Codec.toJson).getD null
  ofJson?
    | null => some none
    | document => (Codec.ofJson? document).map some

instance {α : Type} [Codec α] : Codec (Triple α) where
  toJson values := array (values.toList.map Codec.toJson)
  ofJson? document := do
    match ← document.items? 3 with
    | [a, b, c] => return ⟨← Codec.ofJson? a, ← Codec.ofJson? b, ← Codec.ofJson? c⟩
    | _ => none

namespace Codec

@[reducible]
def ofNames {α : Type} (all : List α) (name : α → String) : Codec α where
  toJson value := text (name value)
  ofJson? document := do
    let found ← document.name?
    all.find? (name · == found)

end Codec

end Bandwidth.Json
