import OffloadVolume.Error

/-!
# Configuration

What an attachment is configured with, and the identifiers that the configuration gives to the
resources of a volume.
-/

namespace OffloadVolume

/-- The texts before the identifiers of remote resources. -/
structure Naming where
  remotePrefix : String := "spckcsi-"
  hostNqnPrefix : String := "nqn.2023-04.io.spdk.csi:remote.controller:uuid:"
  subsystemPrefix : String := "spdkcsi-"
  subsystemNqnPrefix : String := "nqn.2016-06.io.spdk.csi:subsystem:uuid:"
  controllerPrefix : String := "spdkcsi-"
  namespacePrefix : String := "spdcksi-"
  virtioBlkPrefix : String := "virtioBlk."
  deriving DecidableEq, Repr

namespace Naming

def remoteId (n : Naming) (model : String) : String := n.remotePrefix ++ model

def hostNqn (n : Naming) (model : String) : String := n.hostNqnPrefix ++ model

def subsystemId (n : Naming) (model : String) : String := n.subsystemPrefix ++ model

def subsystemNqn (n : Naming) (model : String) : String := n.subsystemNqnPrefix ++ model

def controllerId (n : Naming) (function : Nat) : String :=
  n.controllerPrefix ++ Numeral.decimal function

def namespaceId (n : Naming) (model : String) : String := n.namespacePrefix ++ model

def virtioBlkId (n : Naming) (function : Nat) : String :=
  n.virtioBlkPrefix ++ Numeral.decimal function

end Naming

/-- Where the card shows volumes over TCP. -/
structure TcpTarget where
  transport : String := "tcp"
  addr : String := "127.0.0.1"
  port : Nat := 4421
  nqnPrefix : String := "nqn.2022-04.io.spdk.csi:cnode0:uuid:"
  deriving DecidableEq, Repr

def TcpTarget.nqn (t : TcpTarget) (model : String) : String := t.nqnPrefix ++ model

/-- A volume shown over TCP, as the host connects to it. -/
structure NvmfTarget where
  transport : String
  addr : String
  port : Nat
  nqn : String
  model : String
  deriving DecidableEq, Repr

def NvmfTarget.ofVolume (t : TcpTarget) (model : String) : NvmfTarget :=
  ⟨t.transport, t.addr, t.port, t.nqn model, model⟩

def maxBridges : Nat := 256

/-- What an attachment is configured with. -/
structure Config where
  callTimeoutSecs : Nat := 60
  deviceTimeoutSecs : Nat := 20
  pollMillis : Nat := 200
  bridges : Nat := 1
  sysfsRoot : String := "/sys"
  naming : Naming := {}
  tcp : TcpTarget := {}
  deriving DecidableEq, Repr

namespace Config

def callTimeout (c : Config) : Duration := .ofSecs c.callTimeoutSecs

def deviceTimeout (c : Config) : Duration := .ofSecs c.deviceTimeoutSecs

def pollInterval (c : Config) : Duration := .ofMillis c.pollMillis

def validate (c : Config) : Except AttachError Unit :=
  if maxBridges < c.bridges then .error (.config (.tooManyBridges c.bridges maxBridges)) else .ok ()

theorem validate_eq_ok_iff (c : Config) : c.validate = .ok () ↔ c.bridges ≤ maxBridges := by
  unfold validate
  split <;> simp_all

end Config
end OffloadVolume
