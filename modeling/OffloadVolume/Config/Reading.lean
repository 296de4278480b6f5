import OffloadVolume.Config.Layers
import OffloadVolume.Document.Basic

/-!
# Configurations in documents

The names of the fields of a configuration in a document, in the order in which they stand when
they have no names. Main statement: `ConfigPatch.ofDocument?_eq_some_iff`, a configuration is read
from the names that its fields have.
-/

namespace OffloadVolume

open Document

namespace NamingPatch

def names : List String :=
  ["remote_controller_prefix", "remote_controller_hostnqn_prefix", "subsystem_prefix",
   "subsystem_nqn_prefix", "controller_prefix", "namespace_prefix", "virtio_blk_prefix"]

def ofDocument? (d : Document) : Option NamingPatch := do
  match ← d.fields? names with
  | [remote, hostNqn, subsystem, subsystemNqn, controller, «namespace», virtioBlk] =>
    return { remotePrefix := ← optional text? remote
             hostNqnPrefix := ← optional text? hostNqn
             subsystemPrefix := ← optional text? subsystem
             subsystemNqnPrefix := ← optional text? subsystemNqn
             controllerPrefix := ← optional text? controller
             namespacePrefix := ← optional text? «namespace»
             virtioBlkPrefix := ← optional text? virtioBlk }
  | _ => none

/-- A document gives these fields, each under its name in a record, or in its place. -/
structure GivenBy (p : NamingPatch) (d : Document) : Prop where
  fits : d.Fits names
  remotePrefix : optional text? (d.at? 0 "remote_controller_prefix") = some p.remotePrefix
  hostNqnPrefix : optional text? (d.at? 1 "remote_controller_hostnqn_prefix") = some p.hostNqnPrefix
  subsystemPrefix : optional text? (d.at? 2 "subsystem_prefix") = some p.subsystemPrefix
  subsystemNqnPrefix : optional text? (d.at? 3 "subsystem_nqn_prefix") = some p.subsystemNqnPrefix
  controllerPrefix : optional text? (d.at? 4 "controller_prefix") = some p.controllerPrefix
  namespacePrefix : optional text? (d.at? 5 "namespace_prefix") = some p.namespacePrefix
  virtioBlkPrefix : optional text? (d.at? 6 "virtio_blk_prefix") = some p.virtioBlkPrefix

theorem ofDocument?_eq_some_iff {d : Document} {p : NamingPatch} :
    ofDocument? d = some p ↔ p.GivenBy d := by
  rw [ofDocument?, Option.bind_eq_bind, bind_fields?_eq_some_iff]
  simp only [names, List.mapIdx_cons, List.mapIdx_nil, Option.bind_eq_bind,
    Option.bind_eq_some_iff, Option.pure_def]
  constructor
  · rintro ⟨fits, _, h₀, _, h₁, _, h₂, _, h₃, _, h₄, _, h₅, _, h₆, ⟨⟩⟩
    exact ⟨fits, h₀, h₁, h₂, h₃, h₄, h₅, h₆⟩
  · rintro ⟨fits, h₀, h₁, h₂, h₃, h₄, h₅, h₆⟩
    exact ⟨fits, _, h₀, _, h₁, _, h₂, _, h₃, _, h₄, _, h₅, _, h₆, rfl⟩

end NamingPatch

namespace TcpTargetPatch

def names : List String := ["transport", "addr", "port", "nqn_prefix"]

def ofDocument? (d : Document) : Option TcpTargetPatch := do
  match ← d.fields? names with
  | [transport, addr, port, nqnPrefix] =>
    return { transport := ← optional text? transport
             addr := ← optional text? addr
             port := ← optional (number? Numeral.max16) port
             nqnPrefix := ← optional text? nqnPrefix }
  | _ => none

structure GivenBy (p : TcpTargetPatch) (d : Document) : Prop where
  fits : d.Fits names
  transport : optional text? (d.at? 0 "transport") = some p.transport
  addr : optional text? (d.at? 1 "addr") = some p.addr
  port : optional (number? Numeral.max16) (d.at? 2 "port") = some p.port
  nqnPrefix : optional text? (d.at? 3 "nqn_prefix") = some p.nqnPrefix

/-- A TCP target is read from each name, or place, on its own. -/
theorem ofDocument?_eq_some_iff {d : Document} {p : TcpTargetPatch} :
    ofDocument? d = some p ↔ p.GivenBy d := by
  rw [ofDocument?, Option.bind_eq_bind, bind_fields?_eq_some_iff]
  simp only [names, List.mapIdx_cons, List.mapIdx_nil, Option.bind_eq_bind,
    Option.bind_eq_some_iff, Option.pure_def]
  constructor
  · rintro ⟨fits, _, h₀, _, h₁, _, h₂, _, h₃, ⟨⟩⟩
    exact ⟨fits, h₀, h₁, h₂, h₃⟩
  · rintro ⟨fits, h₀, h₁, h₂, h₃⟩
    exact ⟨fits, _, h₀, _, h₁, _, h₂, _, h₃, rfl⟩

end TcpTargetPatch

namespace ConfigPatch

/-- How many levels of records there are: a configuration, and the records that are its fields. -/
def levels : Nat := 2

def names : List String :=
  ["call_timeout_secs", "device_timeout_secs", "poll_interval_ms", "kvm_pci_bridges", "sysfs_root",
   "naming", "nvmf_tcp"]

def ofDocument? (d : Document) : Option ConfigPatch := do
  match ← d.fields? names with
  | [callTimeout, deviceTimeout, poll, bridges, sysfsRoot, naming, tcp] =>
    return { callTimeoutSecs := ← optional (number? Numeral.max64) callTimeout
             deviceTimeoutSecs := ← optional (number? Numeral.max64) deviceTimeout
             pollMillis := ← optional (number? Numeral.max64) poll
             bridges := ← optional (number? Numeral.max32) bridges
             sysfsRoot := ← optional text? sysfsRoot
             naming := (← optional NamingPatch.ofDocument? naming).getD {}
             tcp := (← optional TcpTargetPatch.ofDocument? tcp).getD {} }
  | _ => none

/-- A document gives these fields, each under its name in a record, or in its place. -/
structure GivenBy (p : ConfigPatch) (d : Document) : Prop where
  fits : d.Fits names
  callTimeoutSecs :
    optional (number? Numeral.max64) (d.at? 0 "call_timeout_secs") = some p.callTimeoutSecs
  deviceTimeoutSecs :
    optional (number? Numeral.max64) (d.at? 1 "device_timeout_secs") = some p.deviceTimeoutSecs
  pollMillis : optional (number? Numeral.max64) (d.at? 2 "poll_interval_ms") = some p.pollMillis
  bridges : optional (number? Numeral.max32) (d.at? 3 "kvm_pci_bridges") = some p.bridges
  sysfsRoot : optional text? (d.at? 4 "sysfs_root") = some p.sysfsRoot
  naming : (d.at? 5 "naming").elim (p.naming = {}) p.naming.GivenBy
  tcp : (d.at? 6 "nvmf_tcp").elim (p.tcp = {}) p.tcp.GivenBy

/-- What a configuration is read from, down to the fields of the records in it. -/
theorem ofDocument?_eq_some_iff {d : Document} {p : ConfigPatch} :
    ofDocument? d = some p ↔ p.GivenBy d := by
  rw [ofDocument?, Option.bind_eq_bind, bind_fields?_eq_some_iff]
  simp only [names, List.mapIdx_cons, List.mapIdx_nil, Option.bind_eq_bind,
    Option.bind_eq_some_iff, Option.pure_def]
  constructor
  · rintro ⟨fits, _, h₀, _, h₁, _, h₂, _, h₃, _, h₄, naming, h₅, tcp, h₆, ⟨⟩⟩
    exact ⟨fits, h₀, h₁, h₂, h₃, h₄,
      (optional_getD_iff NamingPatch.ofDocument?_eq_some_iff).1 ⟨naming, h₅, rfl⟩,
      (optional_getD_iff TcpTargetPatch.ofDocument?_eq_some_iff).1 ⟨tcp, h₆, rfl⟩⟩
  · rintro ⟨fits, h₀, h₁, h₂, h₃, h₄, h₅, h₆⟩
    obtain ⟨naming, h₅, hnaming⟩ :=
      (optional_getD_iff NamingPatch.ofDocument?_eq_some_iff).2 h₅
    obtain ⟨tcp, h₆, htcp⟩ := (optional_getD_iff TcpTargetPatch.ofDocument?_eq_some_iff).2 h₆
    refine ⟨fits, _, h₀, _, h₁, _, h₂, _, h₃, _, h₄, naming, h₅, tcp, h₆, ?_⟩
    rw [hnaming, htcp]

end ConfigPatch
end OffloadVolume
