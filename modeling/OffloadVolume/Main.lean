import OffloadVolume.CommandLine.Session

/-!
# The program

The command line, with the environment and the configuration file that it finds. It opens no
connection of its own: a control plane is reached only where a network is supplied.
-/

namespace OffloadVolume.Program

def environmentKeys : List String :=
  ["XPU_CALL_TIMEOUT_SECS", "XPU_DEVICE_TIMEOUT_SECS", "XPU_KVM_PCI_BRIDGES", "XPU_SYSFS_ROOT"]

def readEnvironment : IO Environment := do
  let found ← environmentKeys.filterMapM fun key => do return (← IO.getEnv key).map (key, ·)
  return fun key => (found.find? fun e => e.1 == key).map (·.2)

def configPath? (arguments : List String) : Option String :=
  match CommandLine.ofArguments arguments with
  | .ok ⟨_, .attach request⟩ => request.config
  | _ => none

/-- Reads the file at a path, if one is given; a file that cannot be read is not there. -/
def readFiles (path : Option String) : IO Files :=
  match path with
  | none => return .empty
  | some path => do
    try
      let content ← IO.FS.readBinFile path
      return Files.empty.change (.write path content.toList)
    catch _ => return .empty

end OffloadVolume.Program

def main (arguments : List String) : IO UInt32 := do
  let environment ← OffloadVolume.Program.readEnvironment
  let files ← OffloadVolume.Program.readFiles (OffloadVolume.Program.configPath? arguments)
  let s : OffloadVolume.Surroundings Unit :=
    { environment, network := .silent, runner := fun _ _ m => (.error .notFound, m) }
  let (ending, _) := s.run arguments { files, rest := () }
  IO.print ending.output
  IO.eprint ending.errors
  return ending.exitCode.toUInt32
