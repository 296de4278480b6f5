import OffloadVolume.Config.Basic
import OffloadVolume.Slot

/-!
# Host services

What an initiator asks of the host: a free function, the devices that come and go, and a local
connection to a target. Each service changes a world of type `σ`.
-/

namespace OffloadVolume

/-- Hands out functions. -/
structure Allocator (σ : Type) where
  /-- A function on one of the first bridges, which is held until it is released. -/
  allocate : (bridges : Nat) → σ → Except AttachError PciSlot × σ
  release : PciSlot → σ → σ

/-- Sees block devices come and go. -/
structure Watcher (σ : Type) where
  /-- The device with a model, if there is one now. -/
  existing : (model : String) → σ → Except AttachError (Option String) × σ
  /-- The device behind a function, if there is one now. -/
  lookup : (bdf : String) → σ → Except AttachError (Option String) × σ
  /-- Waits for a device behind a function, of a model if one is given. -/
  waitBdf : (bdf : String) → (model : Option String) → Duration → σ → Except AttachError String × σ
  /-- Waits for a device with a model. -/
  waitModel : (model : String) → Duration → σ → Except AttachError String × σ
  /-- Waits until a path is gone. -/
  waitGone : (path : String) → Duration → σ → Except AttachError Unit × σ

/-- Makes local connections to targets. -/
structure Connector (σ : Type) where
  connect : NvmfTarget → σ → Except AttachError String × σ
  disconnect : NvmfTarget → σ → Except AttachError Unit × σ

structure Host (σ : Type) where
  allocator : Allocator σ
  watcher : Watcher σ
  connector : Connector σ

end OffloadVolume
