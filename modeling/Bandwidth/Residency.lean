import Bandwidth.Failure

/-!
# Residency

Where the three arrays live decides who can address them, whether they are booked against the memory of the device,
and how the host gets at their contents.
-/

namespace Bandwidth

inductive Residency where
  /-- In device memory that the host cannot address. -/
  | deviceOnly
  /-- In memory that host and device share. -/
  | managed
  /-- In host memory that the device reaches through page faults. -/
  | hostPagefault
  deriving DecidableEq, Repr

namespace Residency

def all : List Residency := [deviceOnly, managed, hostPagefault]

def standard : Residency := deviceOnly

def label : Residency → String
  | deviceOnly => "DEFAULT"
  | managed => "MANAGED"
  | hostPagefault => "PAGEFAULT"

def tag : Residency → String
  | deviceOnly => "device-only"
  | managed => "managed"
  | hostPagefault => "host-pagefault"

/-- Whether contents move between host and device by explicit transfers. -/
def requiresTransfer : Residency → Bool
  | deviceOnly => true
  | managed | hostPagefault => false

def isHostVisible (residency : Residency) : Bool :=
  !residency.requiresTransfer

/-- Whether the array is booked against the memory of the device. -/
def usesDeviceMemory : Residency → Bool
  | deviceOnly | managed => true
  | hostPagefault => false

/-- Reads a residency as a user writes it; ASCII letters may have either case. -/
def ofName (name : String) : Except Failure Residency :=
  match name.map Char.toLower with
  | "device" | "device-only" | "default" => .ok deviceOnly
  | "managed" | "unified" => .ok managed
  | "pagefault" | "host-pagefault" | "host" => .ok hostPagefault
  | other => .error (.invalidConfig (.unknownResidency other))

end Residency

end Bandwidth
