/-!
# Elements and measures

Array elements are binary floating-point numbers of one of two widths. The kernels combine them with one addition and
one multiplication and two constants, so nothing else is asked of an element type and no law is assumed: rounded
addition is not associative, and the library's statements about kernels hold for it all the same.

Errors, times and rates are computed in a type of their own. It is a parameter too: the program runs on binary64
numbers, and a statement about exact arithmetic is the same statement at another instance.
-/

namespace Bandwidth

inductive Precision where
  | single
  | double
  deriving DecidableEq, Repr

namespace Precision

def bytes : Precision → Nat
  | single => 4
  | double => 8

/-- The type name of an element in reports and in kernel source. -/
def typeName : Precision → String
  | single => "float"
  | double => "double"

def tag : Precision → String
  | single => "single"
  | double => "double"

end Precision

/-- One value for each of the arrays A, B and C. -/
structure Triple (β : Type) where
  a : β
  b : β
  c : β
  deriving DecidableEq, Repr

namespace Triple

variable {β γ : Type}

def map (f : β → γ) (triple : Triple β) : Triple γ :=
  ⟨f triple.a, f triple.b, f triple.c⟩

def toList (triple : Triple β) : List β :=
  [triple.a, triple.b, triple.c]

def all (condition : β → Bool) (triple : Triple β) : Bool :=
  condition triple.a && condition triple.b && condition triple.c

end Triple

/-- What the kernels need of an array element. -/
class Element (α : Type) extends Add α, Mul α where
  zero : α
  /-- The multiplier of the scaling kernels. -/
  factor : α
  precision : Precision

namespace Element

def bytes (α : Type) [Element α] : Nat := (precision α).bytes

end Element

/-- What errors, times and rates are computed in. -/
class Measure (δ : Type) extends Add δ, Sub δ, Mul δ, Div δ, OfScientific δ where
  zero : δ
  /-- What a long sum starts from: adding it changes no number, not even a zero's sign. -/
  sumStart : δ
  infinity : δ
  /-- The number nearest to a machine word. -/
  ofWord : Nat → δ
  abs : δ → δ
  /-- The strict order of numbers; it holds of nothing that is no number. -/
  less : δ → δ → Bool
  /-- Whether this is a zero of either sign. -/
  isZero : δ → Bool
  isNaN : δ → Bool
  /-- Whether this is a number and not an infinity. -/
  isFinite : δ → Bool
  /-- Whether the first of two equals is taken for the lesser. Zeros of different signs are equal and not the same, and
  nothing but the machine says which one a comparison leaves. -/
  takesFirstForLeast : δ → δ → Bool
  /-- Whether the first of two equals is taken for the greater. -/
  takesFirstForGreatest : δ → δ → Bool

namespace Measure

variable {δ : Type} [Measure δ]

/-- The lesser of two values. What is not a number loses, and of two equals the machine takes one. -/
def least (x y : δ) : δ :=
  if isNaN y || less x y then x
  else if isNaN x || less y x then y
  else if takesFirstForLeast x y then x
  else y

/-- The greater of two values. What is not a number loses, and of two equals the machine takes one. -/
def greatest (x y : δ) : δ :=
  if isNaN y || less y x then x
  else if isNaN x || less x y then y
  else if takesFirstForGreatest x y then x
  else y

/-- The sum of a list, added from left to right. -/
def sum (values : List δ) : δ :=
  values.foldl (· + ·) sumStart

end Measure

/-- An element type with the measure its results are judged by. -/
class Scalar (α : Type) (δ : outParam Type) [Measure δ] extends Element α where
  /-- The distance from one to the next greater element. -/
  epsilon : α
  /-- The relative error that a dot product may have. -/
  dotTolerance : δ
  narrow : δ → α
  widen : α → δ
  magnitude : α → α

end Bandwidth
