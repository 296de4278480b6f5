import OffloadVolume.Files.Tree
import OffloadVolume.Host.Machine
import OffloadVolume.Host.NvmeCli
import OffloadVolume.Host.Trace
import OffloadVolume.Plane.Basic

/-!
# Scripts

An attachment can be rehearsed: a script says how the control plane, the services of the host and
the connecting program behave, and what was asked of them is noted down.
-/

namespace OffloadVolume

/-- How a call behaves: after a delay in milliseconds it changes files, and then fails, or answers
with a name. -/
structure CallScript where
  delay : Nat := 0
  changes : List FileChange := []
  failure : Option Status := none
  name : Option String := none

/-- How the services of a host behave. Where an error stands it is the answer. -/
structure HostScript where
  /-- The functions that are handed out in turn. -/
  slots : Except AttachError (List PciSlot) := .ok []
  /-- The device that is there already. -/
  existing : Except AttachError (Option String) := .ok none
  /-- The devices behind functions. -/
  devices : List (String × String) := []
  lookupFailure : Option AttachError := none
  waitFailure : Option AttachError := none
  /-- Whether devices stay. -/
  stays : Except AttachError Bool := .ok false
  /-- The device that appears with a model. -/
  byModel : Except AttachError (Option String) := .ok none
  connected : Except AttachError String := .ok "/dev/nvme9n1"
  disconnectFailure : Option AttachError := none
  backendConnectFailure : Option AttachError := none
  backendDisconnectFailure : Option AttachError := none

structure ProgramScript where
  connect : ProgramExit := {}
  disconnect : ProgramExit := {}

/-- A script, and what was asked for so far, the latest last. -/
structure Script where
  plane : Call → CallScript := fun _ => {}
  host : HostScript := {}
  program : ProgramScript := {}
  sent : List Sent := []
  steps : List Step := []
  runs : List (List String) := []

/-- A machine that follows a script. -/
abbrev Rehearsal := Machine Script

namespace Rehearsal

def start (s : Script) : Rehearsal := { rest := s }

def note (s : Step) (m : Rehearsal) : Rehearsal :=
  { m with rest := { m.rest with steps := m.rest.steps ++ [s] } }

def noteSent (s : Sent) (m : Rehearsal) : Rehearsal :=
  { m with rest := { m.rest with sent := m.rest.sent ++ [s] } }

def noteRun (arguments : List String) (m : Rehearsal) : Rehearsal :=
  { m with rest := { m.rest with runs := m.rest.runs ++ [arguments] } }

def forget (m : Rehearsal) : Rehearsal :=
  { m with rest := { m.rest with sent := [], steps := [], runs := [] } }

def setCall (c : Call) (s : CallScript) (m : Rehearsal) : Rehearsal :=
  { m with rest := { m.rest with plane := fun d => if d = c then s else m.rest.plane d } }

def setHost (change : HostScript → HostScript) (m : Rehearsal) : Rehearsal :=
  { m with rest := { m.rest with host := change m.rest.host } }

def setProgram (change : ProgramScript → ProgramScript) (m : Rehearsal) : Rehearsal :=
  { m with rest := { m.rest with program := change m.rest.program } }

end Rehearsal
end OffloadVolume
