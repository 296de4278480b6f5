import OffloadVolume.Host
import OffloadVolume.Proofs.Attachment
import OffloadVolume.Proofs.Inventory

/-!
# A control plane that keeps a list

It lists what is live, and beside that what it created without an answer. Main statements:
`Registry.plane_keeps`, the list is what is live, and `Registry.plane_faithful`, the control plane is
faithful unless answers are lost.
-/

namespace OffloadVolume

inductive Manner where
  | accepted
  | refused
  /-- Carried out, but without an answer. -/
  | lost
  deriving DecidableEq, Repr

/-- What is live, and what was created without an answer. -/
structure Registry where
  live : List LiveResource := []
  unseen : List LiveResource := []
  deriving DecidableEq, Repr

namespace Registry

def resources (w : Registry) : Set LiveResource := {r | r ∈ w.live}

def strays (w : Registry) : Set LiveResource := {r | r ∈ w.unseen}

def isFresh (w : Registry) (k : Collection) (name : String) : Bool :=
  w.live.all fun r => decide ¬r.GoesWith k name

/-- Creates a resource under its id, if that is fresh. -/
def create (manner : Collection → Manner) (k : Collection) (request : CreateRequest k.Resource)
    (w : Registry) : Outcome k.Resource × Registry :=
  let r : LiveResource := .of k request request.id
  if w.isFresh k request.id then
    match manner k with
    | .accepted => (.answered (k.named request.id), { w with live := r :: w.live })
    | .refused => (.failed { code := .unavailable, message := "unavailable" }, w)
    | .lost => (.late, { live := r :: w.live, unseen := r :: w.unseen })
  else (.failed { code := .alreadyExists, message := "already exists" }, w)

/-- Removes a resource, and the namespaces in it if it is a subsystem. -/
def delete (k : Collection) (request : DeleteRequest) (w : Registry) : Registry :=
  { w with live := w.live.filter fun r => decide ¬r.GoesWith k request.name }

def plane (manner : Collection → Manner) : Plane Registry where
  submit _ c request w :=
    match c, request with
    | .create k, request => create manner k request w
    | .delete k, request => (.answered {}, delete k request w)

theorem isFresh_iff (w : Registry) (k : Collection) (name : String) :
    w.isFresh k name = true ↔ ∀ r ∈ w.resources, ¬r.GoesWith k name := by
  simp [isFresh, resources]

theorem resources_cons (r : LiveResource) (w : Registry) (unseen : List LiveResource) :
    resources ⟨r :: w.live, unseen⟩ = insert r w.resources := by
  ext x
  simp [resources]

theorem strays_cons (r : LiveResource) (w : Registry) (live : List LiveResource) :
    strays ⟨live, r :: w.unseen⟩ = insert r w.strays := by
  ext x
  simp [strays]

theorem resources_delete (k : Collection) (request : DeleteRequest) (w : Registry) :
    resources (delete k request w) = {r ∈ w.resources | ¬r.GoesWith k request.name} := by
  ext r
  simp [resources, delete]

section

variable {manner : Collection → Manner} {k : Collection} {request : CreateRequest k.Resource}
  {w w' : Registry}

/-- A creation is answered with the id that was asked for, if that is fresh. -/
theorem create_answered {reply : k.Resource}
    (hc : create manner k request w = (.answered reply, w')) :
    reply = k.named request.id ∧ w' = { w with live := .of k request request.id :: w.live } ∧
      ∀ r ∈ w.resources, ¬r.GoesWith k request.id := by
  unfold create at hc
  split at hc
  · rename_i hfresh
    split at hc
    · cases hc
      exact ⟨rfl, rfl, (w.isFresh_iff k request.id).1 hfresh⟩
    · cases hc
    · cases hc
  · cases hc

/-- A creation without an answer is carried out only if answers are lost. -/
theorem create_unanswered {outcome : Outcome k.Resource}
    (hc : create manner k request w = (outcome, w')) (hn : ∀ reply, outcome ≠ .answered reply) :
    w' = w ∨ manner k = .lost ∧ w' = ⟨.of k request request.id :: w.live,
      .of k request request.id :: w.unseen⟩ := by
  unfold create at hc
  split at hc
  · split at hc
    · cases hc
      exact absurd rfl (hn _)
    · cases hc
      exact .inl rfl
    · rename_i hm
      cases hc
      exact .inr ⟨hm, rfl⟩
  · cases hc
    exact .inl rfl

end

theorem recordedName_named (k : Collection) (id : String) :
    recordedName (k.nameOf (k.named id)) id = id := by
  rw [Collection.nameOf_named, recordedName, ite_self]

/-- The list is what is live, and every deletion is taken. -/
theorem plane_keeps (manner : Collection → Manner) : (plane manner).Keeps resources strays where
  answered {_ k request reply w w'} hs := by
    obtain ⟨rfl, rfl, -⟩ := create_answered hs
    rw [recordedName_named]
    exact ⟨resources_cons _ w _, rfl⟩
  unanswered {_ k request outcome w w'} hs hn := by
    obtain rfl | ⟨-, rfl⟩ := create_unanswered hs hn
    · exact .inl ⟨rfl, rfl⟩
    · exact .inr ⟨request.id, resources_cons _ w _, strays_cons _ w _⟩
  deleted _ k name w :=
    ⟨{}, delete k { name, allowMissing := true } w, rfl, resources_delete k _ w, rfl⟩

theorem plane_namesFreshly (manner : Collection → Manner) :
    (plane manner).NamesFreshly resources := by
  intro timeout k request reply w w' hs
  obtain ⟨rfl, -, hfresh⟩ := create_answered hs
  rwa [recordedName_named]

/-- Unless answers are lost, nothing is carried out without one. -/
theorem plane_faithful {manner : Collection → Manner} (hm : ∀ k, manner k ≠ .lost) :
    (plane manner).Faithful resources where
  answered hs := ⟨((plane_keeps manner).answered hs).1, rfl⟩
  unanswered hs hn := by
    obtain rfl | ⟨hlost, -⟩ := create_unanswered hs hn
    · exact .inl ⟨rfl, rfl⟩
    · exact absurd hlost (hm _)
  deleted timeout k name w := by
    obtain ⟨reply, w', hs, hl, -⟩ := (plane_keeps manner).deleted timeout k name w
    exact ⟨reply, w', hs, hl, rfl⟩
  fresh := plane_namesFreshly manner

/-- The device that is there as long as something is shown to the host. -/
def device? (w : Registry) : Option String :=
  if w.live.any fun r => r.collection = .controller || r.collection = .virtioBlk then
    some "/dev/nvme0n1"
  else none

/-- A host with one function, which sees the device of the control plane. -/
def host : Host Registry where
  allocator := {
    allocate _ w := (.ok ⟨0, 0⟩, w)
    release _ w := w }
  watcher := {
    existing _ w := (.ok w.device?, w)
    lookup _ w := (.ok w.device?, w)
    waitBdf bdf _ timeout w := (w.device?.elim (.error (.deviceTimeout bdf timeout)) .ok, w)
    waitModel model timeout w := (w.device?.elim (.error (.deviceTimeout model timeout)) .ok, w)
    waitGone path timeout w :=
      (w.device?.elim (.ok ()) fun _ => .error (.deviceNotGone path timeout), w) }
  connector := {
    connect _ w := (.ok "/dev/nvme0n1", w)
    disconnect _ w := (.ok (), w) }

theorem host_leaves {α : Type} (f : Registry → α) : host.Leaves f where
  allocate _ _ := rfl
  release _ _ := rfl
  existing _ _ := rfl
  lookup _ _ := rfl
  waitBdf _ _ _ _ := rfl
  waitModel _ _ _ := rfl
  waitGone _ _ _ := rfl
  connect _ _ := rfl
  disconnect _ _ := rfl

def accepting : Plane Registry := plane fun _ => .accepted

def losing (k : Collection) : Plane Registry := plane fun l => if l = k then .lost else .accepted

def provision : Provision where
  volume := ⟨[("model", "vol-1"), ("targetPort", "4420"), ("targetAddr", "10.0.0.2"),
    ("nqn", "nqn.2016-06.io.spdk:cnode1")]⟩
  naming := {}
  timeout := .ofSecs 60

def initiator (t : Transport) : Initiator where
  target := ⟨.opi, t⟩
  model := "vol-1"
  bridges := 1
  deviceTimeout := .ofSecs 20
  tcp := {}

/-- Another volume's subsystem, and its namespace. -/
def neighbour : Registry where
  live := [⟨.subsystem, "spdkcsi-vol-0", "spdkcsi-vol-0", none⟩,
    ⟨.namespace, "spdcksi-vol-0", "spdcksi-vol-0", some "spdkcsi-vol-0"⟩]

end Registry
end OffloadVolume
