import OffloadVolume.Backend
import OffloadVolume.Host

/-!
# Initiators

An initiator attaches one volume as a block device and detaches it again. It joins a backend, which
shows the volume, with the services of the host, where it appears. When the host's side of an
attachment fails, the backend's side is undone, and the function goes back to the allocator.
-/

namespace OffloadVolume

/-- What an initiator attaches, and with which configuration. -/
structure Initiator where
  target : TargetSpec
  model : String
  bridges : Nat
  deviceTimeout : Duration
  tcp : TcpTarget
  deriving DecidableEq, Repr

namespace Initiator

/-- What an initiator remembers: what its backend keeps, the address of the function that it has
attached, and the path of its device. -/
structure State (β : Type) where
  backend : β
  bdf : Option String := none
  devicePath : Option String := none
  deriving DecidableEq, Repr

/-- The initiator of a volume. The configuration is checked before the volume. -/
def ofVolume (target : TargetSpec) (volume : VolumeContext) (c : Config) :
    Except AttachError Initiator := do
  c.validate
  let model ← volume.model
  return ⟨target, model, c.bridges, c.deviceTimeout, c.tcp⟩

/-- The text of a target type is read, and the target must have a built-in backend, before all
else. -/
def ofText {σ : Type} (text : String) (volume : VolumeContext) (c : Config) (r : Remote σ) :
    Except AttachError (Initiator × Backend Handles σ) := do
  let target ← TargetSpec.parse text
  let backend ← match target.backend with
    | .opi => Backend.builtIn target.transport ⟨volume, c.naming, c.callTimeout⟩ r
    | .sma => .error (.invalidArgument (.noBuiltInClient target.text))
  return (← ofVolume target volume c, backend)

variable {β σ : Type}

def nvmfTarget (i : Initiator) : NvmfTarget := .ofVolume i.tcp i.model

/-- The model that the device must have; only NVMe devices tell theirs. -/
def awaitedModel (i : Initiator) : Option String :=
  if i.target.transport = .nvme then some i.model else none

def connectTcp (i : Initiator) (b : Backend β σ) (h : Host σ) (s : State β) (w : σ) :
    Except AttachError String × State β × σ :=
  match b.connect (.tcpPort i.tcp.port) s.backend w with
  | (.error e, kept, w) => (.error e, { s with backend := kept }, w)
  | (.ok _, kept, w) =>
    match h.connector.connect i.nvmfTarget w with
    | (.ok path, w) => (.ok path, { s with backend := kept }, w)
    | (.error e, w) =>
      match b.disconnect kept w with
      | (_, kept, w) => (.error e, { s with backend := kept }, w)

/-- Attaches on a function that is held, and gives it back if that fails. -/
def connectOn (i : Initiator) (b : Backend β σ) (h : Host σ) (slot : PciSlot) (s : State β)
    (w : σ) : Except AttachError String × State β × σ :=
  match b.connect (.pciFunction slot.function) s.backend w with
  | (.error e, kept, w) => (.error e, { s with backend := kept }, h.allocator.release slot w)
  | (.ok _, kept, w) =>
    match h.watcher.waitBdf slot.bdf i.awaitedModel i.deviceTimeout w with
    | (.ok path, w) => (.ok path, { s with backend := kept, bdf := some slot.bdf }, w)
    | (.error e, w) =>
      match b.disconnect kept w with
      | (_, kept, w) => (.error e, { s with backend := kept }, h.allocator.release slot w)

/-- Attaches on a free function, unless the device is there already; when that cannot be told, it
counts as not there. -/
def connectPci (i : Initiator) (b : Backend β σ) (h : Host σ) (s : State β) (w : σ) :
    Except AttachError String × State β × σ :=
  match h.watcher.existing i.model w with
  | (.ok (some path), w) => (.ok path, s, w)
  | (_, w) =>
    match h.allocator.allocate i.bridges w with
    | (.error e, w) => (.error e, s, w)
    | (.ok slot, w) => i.connectOn b h slot s w

def connect (i : Initiator) (b : Backend β σ) (h : Host σ) (s : State β) (w : σ) :
    Except AttachError String × State β × σ :=
  let reached :=
    if i.target.transport.isPci then i.connectPci b h s w else i.connectTcp b h s w
  match reached with
  | (.ok path, s, w) => (.ok path, { s with devicePath := some path }, w)
  | (.error e, s, w) => (.error e, s, w)

/-- Detaches over TCP: the local connection first. -/
def disconnectTcp (i : Initiator) (b : Backend β σ) (h : Host σ) (s : State β) (w : σ) :
    Except AttachError Unit × State β × σ :=
  match h.connector.disconnect i.nvmfTarget w with
  | (.error e, w) => (.error e, s, w)
  | (.ok _, w) =>
    match b.disconnect s.backend w with
    | (result, kept, w) => (result, { s with backend := kept }, w)

/-- The device to detach: a virtio-blk device is found by its function, if one is attached, and
others by their model. -/
def findDevice (i : Initiator) (h : Host σ) (s : State β) (w : σ) :
    Except AttachError (Option String) × σ :=
  match s.bdf, i.target.transport with
  | some bdf, .virtioBlk => h.watcher.lookup bdf w
  | _, _ => h.watcher.existing i.model w

def disconnectPci (i : Initiator) (b : Backend β σ) (h : Host σ) (s : State β) (w : σ) :
    Except AttachError Unit × State β × σ :=
  match i.findDevice h s w with
  | (.error e, w) => (.error e, s, w)
  | (.ok none, w) => (.error (.deviceNotFound (s.bdf.getD i.model)), s, w)
  | (.ok (some path), w) =>
    match b.disconnect s.backend w with
    | (.error e, kept, w) => (.error e, { s with backend := kept }, w)
    | (.ok _, kept, w) =>
      match h.watcher.waitGone path i.deviceTimeout w with
      | (.error e, w) => (.error e, { s with backend := kept }, w)
      | (.ok _, w) => (.ok (), { s with backend := kept, bdf := none }, w)

def disconnect (i : Initiator) (b : Backend β σ) (h : Host σ) (s : State β) (w : σ) :
    Except AttachError Unit × State β × σ :=
  let reached :=
    if i.target.transport.isPci then i.disconnectPci b h s w else i.disconnectTcp b h s w
  match reached with
  | (.ok _, s, w) => (.ok (), { s with devicePath := none }, w)
  | (.error e, s, w) => (.error e, s, w)

end Initiator
end OffloadVolume
