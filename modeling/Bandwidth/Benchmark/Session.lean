import Bandwidth.Benchmark.Run
import Bandwidth.Decimal.Layout
import Bandwidth.Element.Native
import Bandwidth.Event

/-!
# Sessions

In a session the procedures of a stream are performed among other effects. Like a procedure, a session that is cut
short leaves a state: what happens to the stream afterwards starts from there.
-/

namespace Bandwidth

/-- A computation among effects `m` that performs procedures on a state `σ`. -/
abbrev Session (m : Type → Type) (σ : Type) := ExceptT Abort (StateT σ m)

namespace Session

variable {m : Type → Type} [Monad m] {σ β : Type}

def perform (procedure : Procedure Abort σ β) : Session m σ β :=
  ExceptT.mk fun state => pure (procedure.run state)

/-- Performs an action, and passes on what it logs. -/
def performTelling (tell : Event → m Unit) (action : Action σ β) : Session m (Logged σ) β :=
  ExceptT.mk fun logged => do
    let (outcome, after) := action.run ⟨logged.state, #[]⟩
    after.log.forM tell
    return (outcome, after)

def start (session : Session m σ β) (state : σ) : m (Except Abort β × σ) :=
  StateT.run (ExceptT.run session) state

end Session

def Summary.event (summary : Summary Float) : Event :=
  let text (seconds : Float) : String := Decimal.fixed 6 (.ofDouble seconds)
  .kernelTimed summary.kernel.name (text summary.least) (text summary.greatest) (text summary.mean)

def Observer.telling {m : Type → Type} (tell : Event → m Unit) (iterated : Nat → m Unit) : Observer m Float where
  started kernels iterations elements := tell (.runStarted kernels iterations elements)
  iterated := iterated
  summarised summary := tell summary.event

end Bandwidth
