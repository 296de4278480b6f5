import OffloadVolume.Config.Basic

/-!
# Partial configurations

The fields that a document gives. Laid over a configuration, a given field replaces the one there
and the others stay.
-/

namespace OffloadVolume

/-- Given fields of a `Naming`. -/
structure NamingPatch where
  remotePrefix : Option String := none
  hostNqnPrefix : Option String := none
  subsystemPrefix : Option String := none
  subsystemNqnPrefix : Option String := none
  controllerPrefix : Option String := none
  namespacePrefix : Option String := none
  virtioBlkPrefix : Option String := none
  deriving DecidableEq, Repr

structure TcpTargetPatch where
  transport : Option String := none
  addr : Option String := none
  port : Option Nat := none
  nqnPrefix : Option String := none
  deriving DecidableEq, Repr

structure ConfigPatch where
  callTimeoutSecs : Option Nat := none
  deviceTimeoutSecs : Option Nat := none
  pollMillis : Option Nat := none
  bridges : Option Nat := none
  sysfsRoot : Option String := none
  naming : NamingPatch := {}
  tcp : TcpTargetPatch := {}
  deriving DecidableEq, Repr

/-- A naming with the given fields replaced. -/
def NamingPatch.over (p : NamingPatch) (n : Naming) : Naming where
  remotePrefix := p.remotePrefix.getD n.remotePrefix
  hostNqnPrefix := p.hostNqnPrefix.getD n.hostNqnPrefix
  subsystemPrefix := p.subsystemPrefix.getD n.subsystemPrefix
  subsystemNqnPrefix := p.subsystemNqnPrefix.getD n.subsystemNqnPrefix
  controllerPrefix := p.controllerPrefix.getD n.controllerPrefix
  namespacePrefix := p.namespacePrefix.getD n.namespacePrefix
  virtioBlkPrefix := p.virtioBlkPrefix.getD n.virtioBlkPrefix

def TcpTargetPatch.over (p : TcpTargetPatch) (t : TcpTarget) : TcpTarget where
  transport := p.transport.getD t.transport
  addr := p.addr.getD t.addr
  port := p.port.getD t.port
  nqnPrefix := p.nqnPrefix.getD t.nqnPrefix

def ConfigPatch.over (p : ConfigPatch) (c : Config) : Config where
  callTimeoutSecs := p.callTimeoutSecs.getD c.callTimeoutSecs
  deviceTimeoutSecs := p.deviceTimeoutSecs.getD c.deviceTimeoutSecs
  pollMillis := p.pollMillis.getD c.pollMillis
  bridges := p.bridges.getD c.bridges
  sysfsRoot := p.sysfsRoot.getD c.sysfsRoot
  naming := p.naming.over c.naming
  tcp := p.tcp.over c.tcp

/-- The given fields, and the defaults for the others. -/
def ConfigPatch.toConfig (p : ConfigPatch) : Config := p.over {}

@[simp] theorem NamingPatch.over_empty (n : Naming) : NamingPatch.over {} n = n := rfl

@[simp] theorem TcpTargetPatch.over_empty (t : TcpTarget) : TcpTargetPatch.over {} t = t := rfl

@[simp] theorem ConfigPatch.over_empty (c : Config) : ConfigPatch.over {} c = c := rfl

end OffloadVolume
