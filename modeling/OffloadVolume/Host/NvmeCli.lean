import OffloadVolume.Host
import OffloadVolume.Text.Blank
import OffloadVolume.Text.Utf8

/-!
# Connections by a program

Local connections are made by running a program. A target that is connected already counts as
connected, and one that is not connected counts as disconnected; when the device of a new
connection does not come, the connection is taken down again.
-/

namespace OffloadVolume

/-- How a program ended: its exit code, unless it was killed, and what it said about errors. -/
structure ProgramExit where
  code : Option Int := some 0
  errors : List UInt8 := []
  deriving DecidableEq, Repr

namespace ProgramExit

def isSuccess (e : ProgramExit) : Bool := e.code == some 0

/-- What a program said about errors; bytes that are no text are replaced. -/
def text (e : ProgramExit) : String := Utf8.decodeLossy e.errors

end ProgramExit

abbrev Runner (σ : Type) := (program : String) → List String → σ → Except Fault ProgramExit × σ

def occursIn (pattern : List Char) : List Char → Bool
  | [] => pattern.isEmpty
  | c :: rest => pattern.isPrefixOf (c :: rest) || occursIn pattern rest

structure NvmeCli where
  program : String := "nvme"
  deviceTimeout : Duration
  deriving DecidableEq, Repr

namespace NvmeCli

variable {σ : Type}

def connectArguments (t : NvmfTarget) : List String :=
  ["connect", "-t", t.transport, "-a", t.addr, "-s", Numeral.decimal t.port, "-n", t.nqn]

def disconnectArguments (t : NvmfTarget) : List String := ["disconnect", "-n", t.nqn]

/-- Runs the program; an argument cannot hold the zero character. -/
def run (c : NvmeCli) (r : Runner σ) (arguments : List String) (w : σ) :
    Except AttachError ProgramExit × σ :=
  if (c.program :: arguments).any fun a => a.toList.contains '\x00' then
    (.error (.initiator (.notStarted c.program .zeroInArgument)), w)
  else
    match r c.program arguments w with
    | (.ok result, w) => (.ok result, w)
    | (.error fault, w) => (.error (.initiator (.notStarted c.program fault)), w)

/-- What came of running the program for a purpose; some of what it says about errors counts as
success. -/
def verdict (verb nqn : String) (accepted : List String) (result : ProgramExit) :
    Except AttachError Unit :=
  if result.isSuccess || accepted.any fun a => occursIn a.toList result.text.toList then .ok ()
  else .error (.initiator (.failed verb nqn result.code (Text.trim result.text)))

def disconnect (c : NvmeCli) (r : Runner σ) (t : NvmfTarget) (w : σ) :
    Except AttachError Unit × σ :=
  match c.run r (disconnectArguments t) w with
  | (.error e, w) => (.error e, w)
  | (.ok result, w) =>
    (verdict "disconnect" t.nqn ["not connected", "disconnected 0"] result, w)

/-- Connects to a target and waits for its device. -/
def connect (c : NvmeCli) (r : Runner σ) (watch : Watcher σ) (t : NvmfTarget) (w : σ) :
    Except AttachError String × σ :=
  match c.run r (connectArguments t) w with
  | (.error e, w) => (.error e, w)
  | (.ok result, w) =>
    match verdict "connect" t.nqn ["already"] result with
    | .error e => (.error e, w)
    | .ok _ =>
      match watch.waitModel t.model c.deviceTimeout w with
      | (.ok path, w) => (.ok path, w)
      | (.error e, w) => (.error e, (c.disconnect r t w).2)

def connector (c : NvmeCli) (r : Runner σ) (watch : Watcher σ) : Connector σ where
  connect := c.connect r watch
  disconnect := c.disconnect r

end NvmeCli
end OffloadVolume
