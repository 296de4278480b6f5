import OffloadVolume.Chain.Basic
import OffloadVolume.Plane.Wire
import OffloadVolume.Target

/-!
# Backends

A backend shows one volume over a control plane and takes it away again. The built-in backends
manage a chain of resources.
-/

namespace OffloadVolume

/-- What an initiator asks of the remote side: `β` is what the backend keeps for itself, `σ` the
world. -/
structure Backend (β σ : Type) where
  connect : ConnectParams → β → σ → Except AttachError Unit × β × σ
  disconnect : β → σ → Except AttachError Unit × β × σ

def Chain.backend {σ : Type} (c : Chain) (j : Provision) (p : Plane σ) : Backend Handles σ where
  connect := j.connect c p
  disconnect := j.disconnect c p

def Transport.chain? : Transport → Option Chain
  | .nvmfTcp => none
  | .nvme => some .nvme
  | .virtioBlk => some .virtioBlk

namespace Backend

/-- The built-in backend of a transport, over a connection to a control plane. -/
def builtIn {σ : Type} (t : Transport) (j : Provision) (r : Remote σ) :
    Except AttachError (Backend Handles σ) :=
  match t.chain? with
  | some c => .ok (c.backend j r.plane)
  | none => .error (.unsupportedTransport BackendFamily.opi.text t.text)

end Backend
end OffloadVolume
