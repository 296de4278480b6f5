import Mathlib.Data.Set.Insert
import OffloadVolume.Proofs.Exchange
import OffloadVolume.Proofs.Stages

/-!
# What is live on a control plane

A control plane may keep a set of live resources. A creation that is answered adds one; a creation
that is seen to fail may have been carried out all the same. A deletion takes the namespaces of a
subsystem along. Main statements: `Plane.Keeps.createAll` and `Plane.Keeps.deleteAll`, what is live
after the stages of a chain were created, and after some of them were deleted.
-/

namespace OffloadVolume

/-- The subsystem that a request puts a resource into; only namespaces are put into one. -/
def CreateRequest.parent? : (k : Collection) → CreateRequest k.Resource → Option String
  | .namespace, request =>
    ((request.resource.bind Namespace.spec).bind NamespaceSpec.subsystem).map ObjectKey.value
  | _, _ => none

/-- A resource that is live: the id that it was asked for under, its name, and the subsystem that it
is in. -/
structure LiveResource where
  collection : Collection
  id : String
  name : String
  parent : Option String := none
  deriving DecidableEq, Repr

namespace LiveResource

def of (k : Collection) (request : CreateRequest k.Resource) (name : String) : LiveResource :=
  ⟨k, request.id, name, request.parent? k⟩

def entry (r : LiveResource) : Collection × String := (r.collection, r.name)

/-- The resource goes when a name is deleted from a collection: it is the one of that name, or a
namespace in the subsystem of that name. -/
def GoesWith (r : LiveResource) (k : Collection) (name : String) : Prop :=
  r.collection = k ∧ r.name = name ∨
    k = .subsystem ∧ r.collection = .namespace ∧ r.parent = some name

instance (r : LiveResource) (k : Collection) (name : String) : Decidable (r.GoesWith k name) :=
  inferInstanceAs (Decidable (_ ∨ _))

theorem goesWith_self (r : LiveResource) : r.GoesWith r.collection r.name := .inl ⟨rfl, rfl⟩

end LiveResource

/-- The resource goes when what is recorded in some collections is deleted. -/
def Handles.Covers (h : Handles) (ks : List Collection) (r : LiveResource) : Prop :=
  ∃ k ∈ ks, ∃ name, h.get k = some name ∧ r.GoesWith k name

section

variable {h : Handles} {k : Collection} {ks : List Collection} {r : LiveResource} {name : String}

theorem Handles.covers_of_recorded (hk : r.collection ∈ ks)
    (hg : h.get r.collection = some r.name) : h.Covers ks r := ⟨_, hk, _, hg, r.goesWith_self⟩

theorem Handles.covers_of_parent (hk : .subsystem ∈ ks) (hr : r.collection = .namespace)
    (hp : r.parent = h.subsystem) (hg : h.get .subsystem = some name) : h.Covers ks r :=
  ⟨_, hk, _, hg, .inr ⟨rfl, hr, hp.trans hg⟩⟩

/-- A name that was deleted already covers nothing more. -/
theorem Handles.covers_cons : h.Covers (k :: ks) r ↔
      (∃ name, h.get k = some name ∧ r.GoesWith k name) ∨ (h.set k none).Covers ks r := by
  constructor
  · rintro ⟨l, hl, name, hg, hr⟩
    by_cases hkl : k = l
    · exact .inl ⟨name, by rw [hkl, hg], hkl ▸ hr⟩
    · refine .inr ⟨l, ?_, name, by rw [Handles.get_set_of_ne _ hkl, hg], hr⟩
      exact (List.mem_cons.1 hl).resolve_left (Ne.symm hkl)
  · rintro (⟨name, hg, hr⟩ | ⟨l, hl, name, hg, hr⟩)
    · exact ⟨k, List.mem_cons_self, name, hg, hr⟩
    · refine ⟨l, List.mem_cons_of_mem _ hl, name, ?_, hr⟩
      rw [Handles.get_set] at hg
      split at hg
      · cases hg
      · exact hg

end

namespace Plane

variable {σ τ : Type}

/-- A control plane that keeps a set of live resources and takes every deletion. What it created
although the answer failed or was late is `unseen`. -/
structure Keeps (p : Plane σ) (live unseen : σ → Set LiveResource) : Prop where
  answered : ∀ {timeout k} {request : CreateRequest k.Resource} {reply w w'},
    p.submit timeout (.create k) request w = (.answered reply, w') →
      live w' = insert (.of k request (recordedName (k.nameOf reply) request.id)) (live w) ∧
        unseen w' = unseen w
  unanswered : ∀ {timeout k} {request : CreateRequest k.Resource} {outcome w w'},
    p.submit timeout (.create k) request w = (outcome, w') →
      (∀ reply, outcome ≠ .answered reply) →
        live w' = live w ∧ unseen w' = unseen w ∨
          ∃ name, live w' = insert (.of k request name) (live w) ∧
            unseen w' = insert (.of k request name) (unseen w)
  deleted : ∀ timeout k name w, ∃ reply w',
    p.submit timeout (.delete k) { name, allowMissing := true } w = (.answered reply, w') ∧
      live w' = {r ∈ live w | ¬r.GoesWith k name} ∧ unseen w' = unseen w

/-- The names of new resources are fresh: nothing that is live has such a name already, or is in a
subsystem of such a name. -/
def NamesFreshly (p : Plane σ) (live : σ → Set LiveResource) : Prop :=
  ∀ {timeout k} {request : CreateRequest k.Resource} {reply w w'},
    p.submit timeout (.create k) request w = (.answered reply, w') →
      ∀ r ∈ live w, ¬r.GoesWith k (recordedName (k.nameOf reply) request.id)

/-- A control plane that keeps a set of live resources, gives fresh names, and carries nothing out
that it does not answer. -/
structure Faithful (p : Plane σ) (live : σ → Set LiveResource) : Prop
    extends p.Keeps live fun _ => ∅ where
  fresh : p.NamesFreshly live

end Plane

namespace Provision

variable {σ : Type} (j : Provision) (p : Plane σ)

/-- What a creation can do. -/
theorem create_inv (function : Nat) (k : Collection) (h : Handles) (w : σ) :
    (∃ e, j.create p function k h w = (.error e, h, w)) ∨
    ∃ request outcome w', j.request function h k = .ok request ∧
      p.submit j.timeout (.create k) request w = (outcome, w') ∧
      ((∃ reply, outcome = .answered reply ∧ j.create p function k h w =
          (.ok (), h.set k (some (recordedName (k.nameOf reply) request.id)), w')) ∨
        (∀ reply, outcome ≠ .answered reply) ∧
          ∃ e, j.create p function k h w = (.error e, h, w')) := by
  unfold create
  cases hr : j.request function h k with
  | error e => exact .inl ⟨e, rfl⟩
  | ok request =>
    refine .inr ⟨request, _, _, rfl, rfl, ?_⟩
    simp only [Plane.perform]
    cases hs : (p.submit j.timeout (.create k) request w).1 with
    | answered reply => exact .inl ⟨reply, rfl, rfl⟩
    | failed status => exact .inr ⟨fun reply => by simp, _, rfl⟩
    | late => exact .inr ⟨fun reply => by simp, _, rfl⟩

/-- A namespace is put into the subsystem that is recorded. -/
theorem parent_of_request {function : Nat} {h : Handles} {k : Collection}
    {request : CreateRequest k.Resource} (hr : j.request function h k = .ok request) (name : String)
    (hk : k = .namespace) : (LiveResource.of k request name).parent = h.subsystem := by
  subst hk
  simp only [Provision.request, Provision.namespace] at hr
  cases hm : j.volume.model with
  | error e =>
    rw [hm] at hr
    cases hr
  | ok model =>
    rw [hm] at hr
    cases hr
    simp [LiveResource.of, CreateRequest.parent?, Function.comp_def]

def Requests (j : Provision) (function : Nat) (r : LiveResource) : Prop :=
  ∃ h request, j.request function h r.collection = .ok request ∧ r.id = request.id

/-- A request asks for the id that the volume and the function give. -/
theorem requests_of {function : Nat} {h : Handles} {k : Collection}
    {request : CreateRequest k.Resource} (hr : j.request function h k = .ok request)
    (name : String) : j.Requests function (.of k request name) := ⟨h, request, hr, rfl⟩

/-- Deletions that all succeed do the same, whether or not a failure would end them. -/
theorem deleteEach_of_deleteAll {ks : List Collection} {h h' : Handles} {w w' : σ}
    (hall : j.deleteAll p ks h w = (.ok (), h', w')) : j.deleteEach p ks h w = (h', w') := by
  induction ks generalizing h w with
  | nil => cases hall; rfl
  | cons k ks ih =>
    unfold deleteAll at hall
    unfold deleteEach
    generalize j.delete p k h w = out at hall ⊢
    obtain ⟨_ | _, h₁, w₁⟩ := out
    · cases hall
    · exact ih hall

end Provision

namespace Plane.Keeps

variable {σ : Type} {p : Plane σ} {live unseen : σ → Set LiveResource} (hp : p.Keeps live unseen)
  (j : Provision) (function : Nat)

include hp

/-- A creation adds a resource, which is recorded unless the creation is seen to fail. -/
theorem create (k : Collection) (h : Handles) (w : σ) :
    ∃ w', (∃ request name, j.create p function k h w = (.ok (), h.set k (some name), w') ∧
        j.request function h k = .ok request ∧
        live w' = insert (.of k request name) (live w) ∧ unseen w' = unseen w ∧
        (p.NamesFreshly live → ∀ r ∈ live w, ¬r.GoesWith k name)) ∨
      ∃ e, j.create p function k h w = (.error e, h, w') ∧
        (live w' = live w ∧ unseen w' = unseen w ∨
          ∃ request name, j.request function h k = .ok request ∧
            live w' = insert (.of k request name) (live w) ∧
            unseen w' = insert (.of k request name) (unseen w)) := by
  obtain ⟨e, hc⟩ | ⟨request, outcome, w', hr, hs, hcase⟩ := j.create_inv p function k h w
  · exact ⟨w, .inr ⟨e, hc, .inl ⟨rfl, rfl⟩⟩⟩
  · refine ⟨w', ?_⟩
    obtain ⟨reply, rfl, hc⟩ | ⟨hn, e, hc⟩ := hcase
    · obtain ⟨hl, hu⟩ := hp.answered hs
      exact .inl ⟨request, _, hc, hr, hl, hu, fun hfresh => hfresh hs⟩
    · obtain hsame | ⟨name, hl, hu⟩ := hp.unanswered hs hn
      · exact .inr ⟨e, hc, .inl hsame⟩
      · exact .inr ⟨e, hc, .inr ⟨request, name, hr, hl, hu⟩⟩

/-- Creations add resources, up to one that is seen to fail. -/
theorem createAll {ks : List Collection} (hk : .subsystem ∉ ks.tail) (h : Handles) (w : σ) :
    ∃ (made : List LiveResource) (lost : Set LiveResource) (result : Except AttachError Unit)
      (w' : σ),
      j.createAll p function ks h w = (result, h.record (made.map LiveResource.entry), w') ∧
      live w' = live w ∪ {r | r ∈ made} ∪ lost ∧ unseen w' = unseen w ∪ lost ∧
      (∀ r, r ∈ made ∨ r ∈ lost → r.collection = .namespace →
        r.parent = (h.record (made.map LiveResource.entry)).subsystem) ∧
      (∀ r ∈ made, j.Requests function r) ∧
      (p.NamesFreshly live → ∀ r ∈ made, ∀ x ∈ live w, ¬x.GoesWith r.collection r.name) ∧
      (result = .ok () ∧ made.map (·.collection) = ks ∧ lost = ∅ ∨
        ∃ k rest e, result = .error e ∧ ks = made.map (·.collection) ++ k :: rest ∧
          ∀ r ∈ lost, r.collection = k) := by
  -- By induction on the stages. No subsystem comes later, so that a namespace's parent, which is what
  -- was recorded when it was asked for, is what is recorded in the end.
  induction ks generalizing h w with
  | nil =>
    exact ⟨[], ∅, .ok (), w, rfl, by simp, by simp, by simp, by simp, by simp,
      .inl ⟨rfl, rfl, rfl⟩⟩
  | cons k ks ih =>
    rw [List.tail_cons] at hk
    obtain ⟨w₁, hcase⟩ := hp.create j function k h w
    obtain ⟨request, name, hc, hr, hl, hu, hf⟩ | ⟨e, hc, hcase⟩ := hcase
    · obtain ⟨made, lost, result, w', hall, hl', hu', hpar, hasked, hnew, hcase⟩ :=
        ih (fun hm => hk (List.mem_of_mem_tail hm)) (h.set k (some name)) w₁
      have hmade : .subsystem ∉ made.map (·.collection) := by
        obtain ⟨-, hks, -⟩ | ⟨l, rest, e, -, hks, -⟩ := hcase
        · rwa [hks]
        · exact fun hm => hk (hks ▸ List.mem_append_left _ hm)
      refine ⟨.of k request name :: made, lost, result, w', ?_, ?_, ?_, ?_, ?_, ?_, ?_⟩
      · rw [Provision.createAll, hc]
        exact hall
      · have hcons : {r | r ∈ LiveResource.of k request name :: made} =
            {LiveResource.of k request name} ∪ {r | r ∈ made} := by
          ext r
          simp
        rw [hl', hl, hcons, Set.insert_eq, Set.union_comm _ (live w), Set.union_assoc (live w)]
      · rw [hu', hu]
      · rintro r (hm | hm) hns
        · obtain rfl | hm := List.mem_cons.1 hm
          · have hns : k = .namespace := hns
            rw [j.parent_of_request hr name hns]
            refine (h.get_record_of_not_mem (k := .subsystem) ?_).symm
            simpa [LiveResource.entry, LiveResource.of, Function.comp_def, hns] using hmade
          · exact hpar r (.inl hm) hns
        · exact hpar r (.inr hm) hns
      · intro r hm
        obtain rfl | hm := List.mem_cons.1 hm
        · exact j.requests_of hr name
        · exact hasked r hm
      · intro hfresh r hm x hx
        obtain rfl | hm := List.mem_cons.1 hm
        · exact hf hfresh x hx
        · exact hnew hfresh r hm x (hl ▸ Set.mem_insert_of_mem _ hx)
      · obtain ⟨rfl, rfl, rfl⟩ | ⟨l, rest, e, rfl, rfl, hlost⟩ := hcase
        · exact .inl ⟨rfl, rfl, rfl⟩
        · exact .inr ⟨l, rest, e, rfl, rfl, hlost⟩
    · have hrun : j.createAll p function (k :: ks) h w = (.error e, h, w₁) := by
        rw [Provision.createAll, hc]
      obtain ⟨hl, hu⟩ | ⟨request, name, hr, hl, hu⟩ := hcase
      · exact ⟨[], ∅, .error e, w₁, hrun, by simp [hl], by simp [hu], by simp, by simp, by simp,
          .inr ⟨k, ks, e, rfl, rfl, by simp⟩⟩
      · refine ⟨[], {.of k request name}, .error e, w₁, hrun, by simp [hl], by simp [hu], ?_,
          by simp, by simp, .inr ⟨k, ks, e, rfl, rfl, ?_⟩⟩
        · rintro r (hm | rfl) hns
          · cases hm
          · exact j.parent_of_request hr name hns
        · rintro r rfl
          rfl

/-- A deletion is carried out, if there is anything to delete. -/
theorem delete (k : Collection) (h : Handles) (w : σ) :
    ∃ w', j.delete p k h w = (.ok (), h.set k none, w') ∧
      live w' = {r ∈ live w | ∀ name, h.get k = some name → ¬r.GoesWith k name} ∧
      unseen w' = unseen w := by
  unfold Provision.delete
  cases hg : h.get k with
  | none => exact ⟨w, by rw [Handles.set_none_of_get hg], by simp, rfl⟩
  | some name =>
    obtain ⟨reply, w', hs, hl, hu⟩ := hp.deleted j.timeout k name w
    refine ⟨w', ?_, ?_, hu⟩
    · simp only [Plane.perform, hs]
      rfl
    · simp [hl]

/-- Deletions are all carried out: what is recorded goes. -/
theorem deleteAll (ks : List Collection) (h : Handles) (w : σ) :
    ∃ w', j.deleteAll p ks h w = (.ok (), h.clear ks, w') ∧
      live w' = {r ∈ live w | ¬h.Covers ks r} ∧ unseen w' = unseen w := by
  induction ks generalizing h w with
  | nil => exact ⟨w, rfl, by simp [Handles.Covers], rfl⟩
  | cons k ks ih =>
    obtain ⟨w₁, hd, hl, hu⟩ := hp.delete j k h w
    obtain ⟨w', hall, hl', hu'⟩ := ih (h.set k none) w₁
    refine ⟨w', ?_, ?_, hu'.trans hu⟩
    · rw [Provision.deleteAll, hd]
      exact hall
    · rw [hl', hl]
      ext r
      simp only [Set.mem_ofPred_eq, and_assoc, Handles.covers_cons, not_or, not_exists, not_and]

end Plane.Keeps
end OffloadVolume
