import Bandwidth.Decimal.Layout
import Bandwidth.Json.Text

/-!
# Documents

A JSON document is a tree. Numbers are kept as they are written, because a document does not say what they stand for,
and the members of an object stay in their order, because reports are read by people too.
-/

namespace Bandwidth

inductive Json where
  | null
  | bool (value : Bool)
  /-- A number, as it is written. -/
  | number (text : String)
  | string (text : Json.Text)
  | array (items : List Json)
  | object (members : List (Json.Text × Json))
  deriving Repr

namespace Json

def text (text : String) : Json := .string (.ofString text)

def word (word : Nat) : Json := .number (toString word)

/-- An object with members that are named by texts. -/
def record (members : List (String × Json)) : Json :=
  .object (members.map fun (name, value) => (.ofString name, value))

/-- Plain notation from `0.00001` up to sixteen digits in front of the point; whole numbers keep `.0`. -/
def numberLayout : Decimal.Layout where
  tie := .toEven
  positional := fun leading => -6 < leading && leading < 16
  pointZero := true
  exponentPlus := true
  infinity := "null"
  nan := "null"

/-- A measure; an infinity and what is not a number are null. -/
def measure (measure : Float) : Json :=
  if measure.isFinite then .number (numberLayout.write (.ofDouble measure)) else .null

end Json

end Bandwidth
