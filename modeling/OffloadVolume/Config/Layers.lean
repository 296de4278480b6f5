import OffloadVolume.Config.Patch
import OffloadVolume.Text.Blank

/-!
# Layers of configuration

A configuration is the defaults, over them the file and over it the environment. The bound on the
bridges is checked after the file and again at the end.
-/

namespace OffloadVolume

abbrev Environment := String → Option String

namespace Config

/-- The number that a variable holds, white space around it allowed. -/
def readNumber (key : String) (bound : Nat) (raw : String) : Except AttachError Nat :=
  match Numeral.unsigned? 10 bound (Text.trimChars raw.toList) with
  | some n => .ok n
  | none => .error (.config (.notNumber key raw))

def numberOr (env : Environment) (key : String) (bound default : Nat) : Except AttachError Nat :=
  match env key with
  | some raw => readNumber key bound raw
  | none => .ok default

/-- Replaces the fields that the environment sets, and checks the result. -/
def applyEnvironment (env : Environment) (c : Config) : Except AttachError Config := do
  let callTimeoutSecs ← numberOr env "XPU_CALL_TIMEOUT_SECS" Numeral.max64 c.callTimeoutSecs
  let deviceTimeoutSecs ← numberOr env "XPU_DEVICE_TIMEOUT_SECS" Numeral.max64 c.deviceTimeoutSecs
  let bridges ← numberOr env "XPU_KVM_PCI_BRIDGES" Numeral.max32 c.bridges
  let sysfsRoot := (env "XPU_SYSFS_ROOT").getD c.sysfsRoot
  let layered := { c with callTimeoutSecs, deviceTimeoutSecs, bridges, sysfsRoot }
  layered.validate
  return layered

def ofPatch (p : ConfigPatch) : Except AttachError Config := do
  p.toConfig.validate
  return p.toConfig

/-- The configuration of a program: its file, if it is given one, and the environment. -/
def load (file : Option (Except AttachError ConfigPatch)) (env : Environment) :
    Except AttachError Config := do
  match file with
  | none => applyEnvironment env {}
  | some content => applyEnvironment env (← ofPatch (← content))

end Config
end OffloadVolume
