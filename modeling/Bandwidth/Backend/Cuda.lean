import Bandwidth.Stream

/-!
# The vendor's devices

The simulated devices stand in for real ones where no real one can be reached. Two ways of not reaching one are told
apart: a program that was built without the vendor's support reports so as a failure; a program that was built with it
faults as soon as it needs the vendor's library, which is not there.
-/

namespace Bandwidth

/-- Why no real device can be reached. -/
inductive CudaBuild where
  /-- The program is built without the vendor's support. -/
  | notBuilt
  /-- The program is built with it, and the vendor's library is missing. -/
  | withoutLibrary
  deriving DecidableEq, Repr

namespace Cuda

/-- How a call ends that needs a real device. -/
def unreachable {β : Type} : CudaBuild → Except Abort β
  | .notBuilt => .error (.failure (.backendUnavailable .notBuilt))
  | .withoutLibrary => .error (.fault .libraryMissing)

def isAvailable : CudaBuild → Bool
  | .notBuilt | .withoutLibrary => false

def devices (build : CudaBuild) : Except Abort (List Description) := unreachable build

def driver (build : CudaBuild) (_index : Nat) : Except Abort String := unreachable build

def openDevice (build : CudaBuild) (_index : Nat) : Except Abort Description := unreachable build

/-- Creates a stream on a real device. Only a program with the vendor's support looks at the configuration first. -/
def openStream {β : Type} (build : CudaBuild) (config : StreamConfig) : Except Abort β :=
  match build with
  | .notBuilt => unreachable build
  | .withoutLibrary => do
      config.validate.mapError .failure
      unreachable build

end Cuda

end Bandwidth
