import OffloadVolume.Chain.Request
import OffloadVolume.Plane.Basic

/-!
# Chains

A volume is shown to the host by a chain of remote resources. A chain is created in its order; when
a resource after the first cannot be created, those recorded are deleted again, as far as that
succeeds, and the first error is the answer. It is deleted in an order of its own that stops at the
first failure, so that a later attempt goes on there. A name is recorded when its create is
answered, and is forgotten when its delete is.
-/

namespace OffloadVolume

/-- The resources behind one way to show a volume. -/
structure Chain where
  /-- The resource that is created first; nothing is undone if that fails. -/
  first : Collection
  /-- The other resources in the order of their creation. -/
  later : List Collection
  /-- What is deleted when a later creation fails. -/
  rollback : List Collection
  /-- What is deleted in the end. -/
  teardown : List Collection
  /-- What goes away with the rest in the end. -/
  swept : List Collection
  deriving DecidableEq, Repr

namespace Chain

/-- Shows a volume as a namespace of an NVMe function; namespaces go with their subsystem. -/
def nvme : Chain where
  first := .subsystem
  later := [.controller, .remote, .namespace]
  rollback := [.subsystem, .controller, .remote, .namespace]
  teardown := [.remote, .controller, .subsystem]
  swept := [.namespace]

def virtioBlk : Chain where
  first := .remote
  later := [.virtioBlk]
  rollback := [.remote]
  teardown := [.virtioBlk, .remote]
  swept := []

end Chain

/-- The name under which a created resource is recorded: the one answered, or the id that was asked
for when the answer names none. -/
def recordedName (answered id : String) : String := if answered.isEmpty then id else answered

theorem recordedName_ne_empty {answered id : String} (h : id ≠ "") :
    recordedName answered id ≠ "" := by
  simp only [recordedName]
  split
  · exact h
  · rename_i hn
    simpa using hn

namespace Provision

variable {σ : Type}

/-- Creates the resource of a collection and records its name. -/
def create (j : Provision) (p : Plane σ) (function : Nat) (k : Collection) (h : Handles) (w : σ) :
    Except AttachError Unit × Handles × σ :=
  match j.request function h k with
  | .error e => (.error e, h, w)
  | .ok request =>
    match p.perform j.timeout (.create k) request w with
    | (.error status, w) => (.error (.rpc (Call.create k).name request.id status), h, w)
    | (.ok resource, w) =>
      (.ok (), h.set k (some (recordedName (k.nameOf resource) request.id)), w)

/-- Deletes the resource recorded in a collection, if there is one. -/
def delete (j : Provision) (p : Plane σ) (k : Collection) (h : Handles) (w : σ) :
    Except AttachError Unit × Handles × σ :=
  match h.get k with
  | none => (.ok (), h, w)
  | some name =>
    match p.perform j.timeout (.delete k) { name, allowMissing := true } w with
    | (.error status, w) => (.error (.rpc (Call.delete k).name name status), h, w)
    | (.ok _, w) => (.ok (), h.set k none, w)

def createAll (j : Provision) (p : Plane σ) (function : Nat) :
    List Collection → Handles → σ → Except AttachError Unit × Handles × σ
  | [], h, w => (.ok (), h, w)
  | k :: ks, h, w =>
    match j.create p function k h w with
    | (.error e, h, w) => (.error e, h, w)
    | (.ok _, h, w) => j.createAll p function ks h w

/-- Deletes resources one after another, up to the first failure. -/
def deleteAll (j : Provision) (p : Plane σ) :
    List Collection → Handles → σ → Except AttachError Unit × Handles × σ
  | [], h, w => (.ok (), h, w)
  | k :: ks, h, w =>
    match j.delete p k h w with
    | (.error e, h, w) => (.error e, h, w)
    | (.ok _, h, w) => j.deleteAll p ks h w

/-- Deletes as many of some resources as can be. -/
def deleteEach (j : Provision) (p : Plane σ) : List Collection → Handles → σ → Handles × σ
  | [], h, w => (h, w)
  | k :: ks, h, w =>
    match j.delete p k h w with
    | (_, h, w) => j.deleteEach p ks h w

def connect (j : Provision) (c : Chain) (p : Plane σ) (params : ConnectParams) (h : Handles)
    (w : σ) : Except AttachError Unit × Handles × σ :=
  match params.requireFunction with
  | .error e => (.error e, h, w)
  | .ok function =>
    match j.create p function c.first h w with
    | (.error e, h, w) => (.error e, h, w)
    | (.ok _, h, w) =>
      match j.createAll p function c.later h w with
      | (.error e, h, w) => (.error e, j.deleteEach p c.rollback h w)
      | (.ok _, h, w) => (.ok (), h, w)

def disconnect (j : Provision) (c : Chain) (p : Plane σ) (h : Handles) (w : σ) :
    Except AttachError Unit × Handles × σ :=
  match j.deleteAll p c.teardown h w with
  | (.error e, h, w) => (.error e, h, w)
  | (.ok _, h, w) => (.ok (), h.clear c.swept, w)

end Provision
end OffloadVolume
