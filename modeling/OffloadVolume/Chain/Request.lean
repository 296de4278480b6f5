import OffloadVolume.Chain.Handles
import OffloadVolume.Config.Basic
import OffloadVolume.Slot
import OffloadVolume.Volume

/-!
# Create requests

What the control plane is asked to create for a volume on a function. A request that cannot be made
from the volume or the function is never sent.
-/

namespace OffloadVolume

/-- What a chain of resources is created for, and how long each of its calls may take. -/
structure Provision where
  volume : VolumeContext
  naming : Naming
  timeout : Duration

namespace Provision

def maxFunction : Nat := Numeral.maxSigned32

/-- The endpoint of a function. The control plane reads the function's number off the physical
function; the virtual function is always 0. -/
def endpoint (function : Nat) : Except AttachError PciEndpoint :=
  if function ≤ maxFunction then .ok { physicalFunction := Int32.ofNat function }
  else .error (.invalidArgument (.functionOutOfRange function))

/-- The number of a storage target, which must be positive and fit 64 bits. -/
def targetService? (text : String) : Option Int64 :=
  match Numeral.signed? Numeral.maxSigned64 text.toList with
  | some n => if 0 < n then some (Int64.ofInt n) else none
  | none => none

def subsystem (p : Provision) : Except AttachError (CreateRequest Subsystem) := do
  let model ← p.volume.model
  return { resource := some { spec := some { nqn := p.naming.subsystemNqn model } },
           id := p.naming.subsystemId model }

/-- The request for a controller, which belongs to the subsystem recorded. -/
def controller (p : Provision) (function : Nat) (h : Handles) :
    Except AttachError (CreateRequest Controller) := do
  let pcie ← endpoint function
  return { resource := some { spec := some { subsystem := h.subsystem.map ObjectKey.mk,
                                             pcie := some pcie } },
           id := p.naming.controllerId function }

def remote (p : Provision) : Except AttachError (CreateRequest RemoteController) := do
  let model ← p.volume.model
  let id := p.naming.remoteId model
  let service ← p.volume.require "targetPort"
  match targetService? service with
  | none => .error (.invalidArgument (.invalidPort id service))
  | some trsvcid =>
    let traddr ← p.volume.require "targetAddr"
    let subnqn ← p.volume.require "nqn"
    return { resource := some { trtype := TransportType.tcp.toInt32,
                                adrfam := AddressFamily.ipv4.toInt32,
                                traddr, trsvcid, subnqn, hostnqn := p.naming.hostNqn model },
             id }

/-- The request for a namespace, which puts the volume into the subsystem recorded. -/
def «namespace» (p : Provision) (h : Handles) : Except AttachError (CreateRequest Namespace) := do
  let model ← p.volume.model
  return { resource := some { spec := some { subsystem := h.subsystem.map ObjectKey.mk,
                                             volume := some ⟨model⟩ } },
           id := p.naming.namespaceId model }

def virtioBlk (p : Provision) (function : Nat) : Except AttachError (CreateRequest VirtioBlk) := do
  let model ← p.volume.model
  let pcie ← endpoint function
  return { resource := some { pcie := some pcie, volume := some ⟨model⟩ },
           id := p.naming.virtioBlkId function }

def request (p : Provision) (function : Nat) (h : Handles) :
    (k : Collection) → Except AttachError (CreateRequest k.Resource)
  | .subsystem => p.subsystem
  | .controller => p.controller function h
  | .remote => p.remote
  | .namespace => p.namespace h
  | .virtioBlk => p.virtioBlk function

end Provision
end OffloadVolume
