import OffloadVolume.Error

/-!
# Target types

The text `xpu-<backend>-<transport>` that names a control-plane protocol and the way a volume is
shown to the host. Main statements: `BackendFamily.parse_text` and `Transport.parse?_text`, a family
and a transport are read back from their names.
-/

namespace OffloadVolume

inductive BackendFamily where
  | opi
  | sma
  deriving DecidableEq, Repr

inductive Transport where
  | nvmfTcp
  | nvme
  | virtioBlk
  deriving DecidableEq, Repr

structure TargetSpec where
  backend : BackendFamily
  transport : Transport
  deriving DecidableEq, Repr

namespace BackendFamily

def text : BackendFamily → String
  | opi => "opi"
  | sma => "sma"

def parse (s : String) : Except AttachError BackendFamily :=
  if s = "opi" then .ok opi
  else if s = "sma" then .ok sma
  else .error (.unknownBackend s)

@[simp] theorem parse_text (f : BackendFamily) : parse f.text = .ok f := by cases f <;> rfl

end BackendFamily

namespace Transport

def text : Transport → String
  | nvmfTcp => "nvmftcp"
  | nvme => "nvme"
  | virtioBlk => "virtioblk"

def parse? (s : String) : Option Transport :=
  if s = "nvmftcp" then some nvmfTcp
  else if s = "nvme" then some nvme
  else if s = "virtioblk" then some virtioBlk
  else none

/-- Whether the transport takes up a PCI function of the host. -/
def isPci : Transport → Bool
  | nvmfTcp => false
  | nvme | virtioBlk => true

@[simp] theorem parse?_text (t : Transport) : parse? t.text = some t := by cases t <;> rfl

end Transport

namespace TargetSpec

def text (t : TargetSpec) : String := "xpu-" ++ t.backend.text ++ "-" ++ t.transport.text

def parts (s : String) : List String := (s.toList.splitOn '-').map String.ofList

/-- Reads a target type. The form is checked first, then the family, then the transport. -/
def parse (s : String) : Except AttachError TargetSpec :=
  match parts s with
  | [start, family, transport] =>
    if start = "xpu" then
      match BackendFamily.parse family with
      | .error e => .error e
      | .ok backend =>
        match Transport.parse? transport with
        | some t => .ok ⟨backend, t⟩
        | none => .error (.unsupportedTransport backend.text transport)
    else .error (.invalidTarget s)
  | _ => .error (.invalidTarget s)

end TargetSpec
end OffloadVolume
