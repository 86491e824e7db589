import Bandwidth.Fault

/-!
# Machine words

Sizes, indices and byte counts are natural numbers that a machine holds in 64 bits. Addition, subtraction and
multiplication are checked: a result that is no word is a fault, never a wrapped value. Only a walk over an array
adds with saturation, so that its last step cannot come round to the front again; and the counters of a queue, which
many threads share, wrap around.
-/

namespace Bandwidth.Word

def bound : Nat := 18446744073709551616

def greatest : Nat := 18446744073709551615

def bytes : Nat := 8

/-- The most bytes that an object can have: the greatest signed word. -/
def greatestObject : Nat := 9223372036854775807

def add (x y : Nat) : Checked Nat :=
  if x + y < bound then .ok (x + y) else .error .addOverflow

def sub (x y : Nat) : Checked Nat :=
  if y ≤ x then .ok (x - y) else .error .subtractOverflow

def mul (x y : Nat) : Checked Nat :=
  if x * y < bound then .ok (x * y) else .error .multiplyOverflow

def div (x y : Nat) : Checked Nat :=
  if y = 0 then .error .divideByZero else .ok (x / y)

/-- The sum of two words, or the greatest word if the sum is past it. -/
def addSaturating (x y : Nat) : Nat :=
  min (x + y) greatest

/-- The sum of two words as a shared counter has it: past the greatest word it starts at zero again. -/
def addWrapping (x y : Nat) : Nat :=
  (x + y) % bound

/-- The number of 128-bit words, in which the size of three arrays is computed. -/
def wideBound : Nat := 340282366920938463463374607431768211456

def mulWide (x y : Nat) : Checked Nat :=
  if x * y < wideBound then .ok (x * y) else .error .multiplyOverflow

/-- Refuses a row of items that would take more bytes than an object can have. -/
def checkObject (items itemBytes : Nat) : Checked Unit :=
  if items * itemBytes ≤ greatestObject then .ok () else .error .capacityOverflow

/-- The quotient `x / y` rounded up, computed as `(x + y - 1) / y` with a check at each step. -/
def ceilDiv (x y : Nat) : Checked Nat := do
  let sum ← add x y
  let numerator ← sub sum 1
  div numerator y

theorem add_eq_ok {x y : Nat} (fits : x + y < bound) : add x y = .ok (x + y) := by
  simp [add, fits]

theorem mul_eq_ok {x y : Nat} (fits : x * y < bound) : mul x y = .ok (x * y) := by
  simp [mul, fits]

theorem addWrapping_of_lt {x y : Nat} (fits : x + y < bound) : addWrapping x y = x + y :=
  Nat.mod_eq_of_lt fits

/-- Below the greatest word a saturating step always moves on. -/
theorem lt_addSaturating {x y : Nat} (positive : 0 < y) (below : x < greatest) :
    x < addSaturating x y := by
  simp only [addSaturating] at *
  omega

end Bandwidth.Word
