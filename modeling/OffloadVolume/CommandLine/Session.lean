import OffloadVolume.CommandLine.Basic
import OffloadVolume.CommandLine.Context
import OffloadVolume.Config.File
import OffloadVolume.Endpoint
import OffloadVolume.Host.SysfsHost
import OffloadVolume.Initiator

/-!
# Sessions

A session runs a command line on a machine. To attach, it loads the configuration, reads the
context, connects to the control plane, builds the initiator, attaches the volume and prints the
path of its device; it holds the volume until it is interrupted, and detaches it. The first of these
steps that fails ends the session.
-/

namespace OffloadVolume

/-- The steps of an attachment whose failures are reported under a heading. -/
inductive Stage where
  | load
  | reach
  | build
  | attach
  | detach
  deriving DecidableEq, Repr

def Stage.text : Stage → String
  | load => "load config"
  | reach => "connect to xPU control plane"
  | build => "build initiator"
  | attach => "attach volume"
  | detach => "detach volume"

inductive Failure where
  | stage (stage : Stage) (error : AttachError)
  | option (fault : OptionFault)
  | target (error : AttachError)
  deriving DecidableEq, Repr

namespace Failure

/-- The texts of a failure, each one the cause of the one before. -/
def chain : Failure → List String
  | stage s e => s.text :: e.chain
  | option fault => [fault.message]
  | target e => e.chain

/-- A text whose lines but the first one are indented. -/
def indented (first later : String) (text : String) : String :=
  let indent (c : Char) : List Char := if c = '\n' then c :: later.toList else [c]
  String.ofList (first.toList ++ text.toList.flatMap indent)

/-- A cause in a list; where there are several, they are numbered. -/
def cause (several : Bool) (e : String × Nat) : String :=
  if several then indented ("    " ++ Numeral.decimal e.2 ++ ": ") "       " e.1
  else indented "    " "    " e.1

/-- What is printed about a failure: the first text, and below it the causes. -/
def report (f : Failure) : String :=
  let causes := f.chain.tail
  let below := causes.zipIdx.map (cause (1 < causes.length))
  let list := if below.isEmpty then "" else "\n\nCaused by:\n" ++ "\n".intercalate below
  "Error: " ++ f.chain.headD "" ++ list ++ "\n"

end Failure

inductive Ending where
  | done (output : String)
  | failed (output : String) (failure : Failure)
  | refused (refusal : Refusal)
  deriving DecidableEq, Repr

namespace Ending

/-- The exit code: a request for help counts as done. -/
def exitCode : Ending → Nat
  | done _ | refused .helpAsked => 0
  | failed .. => 1
  | refused _ => 2

def output : Ending → String
  | done text => text
  | failed text _ => text
  | refused _ => ""

def errors : Ending → String
  | done _ => ""
  | failed _ failure => failure.report
  | refused refusal => refusal.message ++ "\n"

end Ending

/-- What a session finds around it: the environment, the network, the programs that it can run, and
what happens while it holds a volume. -/
structure Surroundings (τ : Type) where
  environment : Environment
  network : Network (Machine τ)
  runner : Runner (Machine τ)
  hold : Machine τ → Machine τ := id

namespace Surroundings

variable {τ : Type}

/-- All that is needed to attach: the initiator, its backend and the services of the host. -/
def prepare (s : Surroundings τ) (a : AttachRequest) (m : Machine τ) :
    Except Failure (Initiator × Backend Handles (Machine τ) × Host (Machine τ)) := do
  let c ← (Config.loadFile m.files a.config s.environment).mapError (.stage .load)
  let v ← (VolumeContext.ofOptions a.context).mapError .option
  let r ← (s.network.connect a.endpoint (.ofSecs a.connectTimeoutSecs)).mapError (.stage .reach)
  let (i, b) ← (Initiator.ofText a.targetType v c r).mapError (.stage .build)
  return (i, b, Sysfs.hostOf c s.runner)

def attach (s : Surroundings τ) (a : AttachRequest) (m : Machine τ) : Ending × Machine τ :=
  match s.prepare a m with
  | .error f => (.failed "" f, m)
  | .ok (i, b, h) =>
    match i.connect b h { backend := .empty } m with
    | (.error e, _, m) => (.failed "" (.stage .attach e), m)
    | (.ok path, state, m) =>
      match i.disconnect b h state (s.hold m) with
      | (.error e, _, m) => (.failed (path ++ "\n") (.stage .detach e), m)
      | (.ok _, _, m) => (.done (path ++ "\n"), m)

def describe (t : TargetSpec) : String :=
  "backend=" ++ t.backend.text ++ " transport=" ++ t.transport.text ++ " pci=" ++
    (if t.transport.isPci then "true" else "false") ++ "\n"

def run (s : Surroundings τ) (arguments : List String) (m : Machine τ) : Ending × Machine τ :=
  match CommandLine.ofArguments arguments with
  | .error refusal => (.refused refusal, m)
  | .ok ⟨_, .attach a⟩ => s.attach a m
  | .ok ⟨_, .parseTarget text⟩ =>
    match TargetSpec.parse text with
    | .ok t => (.done (describe t), m)
    | .error e => (.failed "" (.target e), m)

end Surroundings
end OffloadVolume
