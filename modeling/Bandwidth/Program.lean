import Bandwidth.Benchmark.Session
import Bandwidth.CommandLine.Reader
import Bandwidth.Display.Notices

/-!
# The program

The program reads its command line, runs the benchmark on one stream and shows the results. It is written over any
monad, with a console for all that it shows and a clock for all that it measures.
-/

namespace Bandwidth

/-- What the program shows things on and reads the time from. -/
structure Console (m : Type → Type) where
  print : String → m Unit
  /-- Shows a text about an error and ends its line. -/
  complain : String → m Unit
  log : Event → m Unit
  now : m Float
  style : Style

namespace Program

open CommandLine

inductive Ending where
  | abort (abort : Abort)
  | invalid (checks : Nat)

def Ending.message : Ending → String
  | abort (.failure failure) => failure.message
  | abort (.fault fault) => fault.message
  | invalid checks => s!"Validation failed: {checks} check(s) outside tolerance"

def Ending.exitCode : Ending → UInt32
  | abort (.fault _) => 101
  | abort (.failure _) | invalid _ => 1

section

variable {m : Type → Type} [Monad m] (console : Console m) (platform : Platform) (invocation : Invocation)

def tell (event : Event) : m Unit :=
  if invocation.logs event then console.log event else pure ()

omit [Monad m] in
def banner (style : Style) (backend : Backend) : List String :=
  [style.paint .title programName ++ " " ++ style.paint .faint s!"v{programVersion}",
    s!"Implementation: {backend.tag.toUpper}",
    s!"Running kernels {invocation.iterations} times",
    s!"Precision: {invocation.precision.typeName}"]

def listDevices (backend : Backend) : ExceptT Ending m Unit := do
  let devices ← ExceptT.mk (pure ((backend.devices platform).mapError .abort))
  (Display.devices console.style devices).forM fun line => monadLift (console.print line)

def measure {α : Type} [Scalar α Float] : Session m (Logged (Stream α)) (Report α Float) :=
  Benchmark.run Stream.interface (fun procedure => Session.performTelling (tell console invocation) procedure)
    (monadLift console.now) (.telling (fun event => monadLift (tell console invocation event)) fun _ => pure ())
    invocation.plan

/-- Shows the results of a run, and ends without success if they are not as expected. -/
def present {α : Type} [Scalar α Float] (backend : Backend) (report : Report α Float) : ExceptT Ending m Unit := do
  let verdict := Verdict.ofReport report invocation.plan
  (Display.results console.style invocation.format report invocation.unit backend verdict).forM fun line =>
    monadLift (console.print line)
  let shortfalls := verdict.shortfalls
  shortfalls.forM fun shortfall =>
    monadLift (console.complain (console.style.paint .warning (Display.shortfall shortfall)))
  unless shortfalls.isEmpty do throw (.invalid shortfalls.length)

def runOn {α : Type} [Scalar α Float] (backend : Backend) (stream : Stream α) : ExceptT Ending m Unit :=
  ExceptT.mk do
    let (outcome, logged) ← Session.start (measure console invocation) ⟨stream, #[]⟩
    let ending ← match outcome with
      | .ok report => ExceptT.run (present console invocation backend report)
      | .error abort => pure (.error (.abort abort))
    let _ ← Session.start (Session.performTelling (tell console invocation) Stream.close) logged
    return ending

def settle {β : Type} (outcome : Except Abort β) : ExceptT Ending m β :=
  ExceptT.mk (pure (outcome.mapError .abort))

def run (α : Type) [Scalar α Float] (backend : Backend) : ExceptT Ending m Unit := do
  settle ((invocation.plan.validateFor α invocation.arraySize).mapError .failure)
  if invocation.isChatty then
    (Display.sizes invocation.arraySize (Element.bytes α) invocation.unit).forM fun line =>
      monadLift (console.print line)
  let request : StreamRequest := ⟨backend, invocation.streamConfig⟩
  let (outcome, _) ← monadLift
    (Session.start (Session.performTelling (tell console invocation) (request.build platform)) ⟨(), #[]⟩)
  let stream : Stream α ← settle outcome
  runOn console invocation backend stream

def answer : ExceptT Ending m Unit := do
  let backend := invocation.backend.resolve
  if invocation.list then
    listDevices console platform backend
  else
    if invocation.isChatty then
      (banner invocation console.style backend).forM fun line => monadLift (console.print line)
    match invocation.precision with
    | .single => run console platform invocation Float32 backend
    | .double => run console platform invocation Float backend

end

/-- Reads a command line and does what it asks for; the answer is the exit code. -/
def main {m : Type → Type} [Monad m] (console : Console m) (platform : Platform) (arguments : List String) :
    m UInt32 := do
  match read arguments with
  | .error .help => do
      help.forM console.print
      return 0
  | .error .version => do
      console.print versionLine
      return 0
  | .error (.refusal refusal) => do
      console.complain (console.style.render (refusal.report .colored))
      return 2
  | .ok invocation => do
      match ← ExceptT.run (answer console platform invocation) with
      | .ok () => return 0
      | .error ending => do
          console.complain (console.style.paint .alarm "Error:" ++ " " ++ ending.message)
          return ending.exitCode

end Program

end Bandwidth
