import Bandwidth.Backend.Cuda
import Bandwidth.Stream

/-!
# Backends

A run asks for a backend, or leaves the choice open. An open choice takes the vendor's devices if there are any and the
simulated ones otherwise.
-/

namespace Bandwidth

inductive Backend where
  /-- The vendor's devices if there are any, otherwise the simulated ones. -/
  | auto
  | cpu
  | cuda
  deriving DecidableEq, Repr

namespace Backend

def standard : Backend := auto

def tag : Backend → String
  | auto => "auto"
  | cpu => "cpu"
  | cuda => "cuda"

/-- Reads a backend as a user writes it; ASCII letters may have either case. -/
def ofName (name : String) : Except Failure Backend :=
  match name.map Char.toLower with
  | "auto" => .ok auto
  | "cpu" | "host" => .ok cpu
  | "cuda" | "nvidia" => .ok cuda
  | other => .error (.invalidConfig (.unknownBackend other))

/-- The backend that is used, when no choice is left open. -/
def resolve : Backend → Backend
  | auto => if Cuda.isAvailable .notBuilt then cuda else cpu
  | other => other

def available : List Backend :=
  cpu :: if Cuda.isAvailable .notBuilt then [cuda] else []

/-- The devices of a backend; the simulated ones are those of a platform. -/
def devices (backend : Backend) (platform : Platform) : Except Abort (List Description) :=
  match backend.resolve with
  | cuda => Cuda.devices .notBuilt
  | auto | cpu => .ok platform.devices

def driver (backend : Backend) (platform : Platform) (index : Nat) : Except Abort String :=
  match backend.resolve with
  | cuda => Cuda.driver .notBuilt index
  | auto | cpu => (platform.driver index).mapError .failure

end Backend

structure StreamRequest where
  backend : Backend
  config : StreamConfig
  deriving DecidableEq, Repr

namespace StreamRequest

def standard : StreamRequest := ⟨.standard, .standard⟩

/-- Creates the stream that is asked for; the simulated devices are those of a platform. -/
def build {α σ : Type} [Element α] (request : StreamRequest) (platform : Platform) : Action σ (Stream α) := do
  Action.check request.config.validate
  let backend := request.backend.resolve
  if request.backend = .auto then
    Action.emit (.backendSelected backend.tag)
  match backend with
  | .cuda => Procedure.ofExcept (Cuda.openStream .notBuilt request.config)
  | .auto | .cpu => Stream.create platform request.config

end StreamRequest

end Bandwidth
