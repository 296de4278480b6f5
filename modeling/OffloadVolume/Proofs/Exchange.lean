import Mathlib.Data.List.Forall2
import Mathlib.Data.List.Nodup
import OffloadVolume.Chain.Basic

/-!
# What a control plane is asked

Any control plane can be made to keep a record of the requests that it is sent and of what came of
them. Main statements: `Plane.Over.connect` and `Plane.Over.disconnect`, what is behind a control
plane does not change what a chain does over it, so that a record can be kept of every run, and
`Exchange.not_mem_settled_iff`, what is left of the resources that were to be deleted.
-/

namespace OffloadVolume

/-- A request to the control plane and what came of it. -/
structure Exchange where
  call : Call
  request : call.Request
  outcome : Outcome call.Reply

namespace Exchange

/-- Whether the request was answered, and in time. -/
def answered (x : Exchange) : Bool :=
  match x.outcome with
  | .answered _ => true
  | .failed _ | .late => false

/-- The exchange that created a resource, recorded in a collection under a name. -/
def Creates (j : Provision) (function : Nat) (x : Exchange) (m : Collection × String) : Prop :=
  ∃ h request reply, j.request function h m.1 = .ok request ∧
    x = ⟨.create m.1, request, .answered reply⟩ ∧
      m.2 = recordedName (m.1.nameOf reply) request.id

def Deletes (x : Exchange) (m : Collection × String) : Prop :=
  ∃ outcome, x = ⟨.delete m.1, { name := m.2, allowMissing := true }, outcome⟩

/-- The collections for which requests were answered. -/
def settled (log : List Exchange) : List Collection :=
  (log.filter answered).map fun x => x.call.collection

theorem settled_cons_of_answered {x : Exchange} (ha : x.answered = true) (log : List Exchange) :
    settled (x :: log) = x.call.collection :: settled log := by
  rw [settled, List.filter_cons_of_pos ha, List.map_cons, ← settled]

theorem settled_cons_of_not_answered {x : Exchange} (ha : x.answered = false)
    (log : List Exchange) : settled (x :: log) = settled log := by
  rw [settled, List.filter_cons_of_neg (by rw [ha]; decide), ← settled]

theorem Deletes.call {x : Exchange} {m : Collection × String} (hx : x.Deletes m) :
    x.call = .delete m.1 := by
  obtain ⟨outcome, rfl⟩ := hx
  rfl

theorem Deletes.collection {x : Exchange} {m : Collection × String} (hx : x.Deletes m) :
    x.call.collection = m.1 := by
  rw [hx.call, Call.collection]

theorem exists_exchange {R : Exchange → Collection × String → Prop} {log : List Exchange}
    {made : List (Collection × String)} (hr : List.Forall₂ R log made) {m : Collection × String}
    (hm : m ∈ made) : ∃ x ∈ log, R x m := by
  induction hr with
  | nil => cases hm
  | cons hx _ ih =>
    rcases List.mem_cons.1 hm with rfl | hm
    · exact ⟨_, List.mem_cons_self, hx⟩
    · obtain ⟨x, hmem, hx⟩ := ih hm
      exact ⟨x, List.mem_cons_of_mem _ hmem, hx⟩

theorem exists_made {R : Exchange → Collection × String → Prop} {log : List Exchange}
    {made : List (Collection × String)} (hr : List.Forall₂ R log made) {x : Exchange}
    (hx : x ∈ log) : ∃ m ∈ made, R x m := by
  induction hr with
  | nil => cases hx
  | cons hm _ ih =>
    rcases List.mem_cons.1 hx with rfl | hx
    · exact ⟨_, List.mem_cons_self, hm⟩
    · obtain ⟨m, hmem, hm⟩ := ih hx
      exact ⟨m, List.mem_cons_of_mem _ hmem, hm⟩

/-- One of the exchanges is about a resource, and those before it are about the resources before. -/
theorem exists_split {R : Exchange → Collection × String → Prop} {log : List Exchange}
    {made : List (Collection × String)} (hr : List.Forall₂ R log made) {m : Collection × String}
    (hm : m ∈ made) : ∃ before x after mb ma, log = before ++ x :: after ∧ made = mb ++ m :: ma ∧
      List.Forall₂ R before mb ∧ R x m := by
  induction hr with
  | nil => cases hm
  | @cons y l log made hy hr ih =>
    obtain rfl | hm := List.mem_cons.1 hm
    · exact ⟨[], y, log, [], made, rfl, rfl, .nil, hy⟩
    · obtain ⟨before, x, after, mb, ma, rfl, rfl, hb, hx⟩ := ih hm
      exact ⟨y :: before, x, after, l :: mb, ma, rfl, rfl, .cons hy hb, hx⟩

theorem map_collection {log : List Exchange} {made : List (Collection × String)}
    (hd : List.Forall₂ Deletes log made) :
    log.map (fun x => x.call.collection) = made.map Prod.fst := by
  have h := hd.imp fun _ _ => Deletes.collection
  rwa [← List.forall₂_map_right_iff, ← List.forall₂_map_left_iff, List.forall₂_eq_eq_eq] at h

/-- Of the resources that were to be deleted, each in a collection of its own, those are left whose
delete was not answered. -/
theorem not_mem_settled_iff {log : List Exchange} {made : List (Collection × String)}
    (hd : List.Forall₂ Deletes log made) (hn : (made.map Prod.fst).Nodup)
    {k : Collection} {name : String} (hm : (k, name) ∈ made) :
    k ∉ settled log ↔ ∃ x ∈ log, x.Deletes (k, name) ∧ x.answered = false := by
  constructor
  · intro hk
    obtain ⟨x, hmem, hx⟩ := exists_exchange hd hm
    refine ⟨x, hmem, hx, ?_⟩
    by_contra ha
    rw [Bool.not_eq_false] at ha
    exact hk (List.mem_map.2 ⟨x, List.mem_filter.2 ⟨hmem, ha⟩, hx.collection⟩)
  · rintro ⟨x, hmem, hx, ha⟩ hk
    obtain ⟨y, hy, hyk⟩ := List.mem_map.1 hk
    rw [List.mem_filter] at hy
    rw [← map_collection hd] at hn
    have hxy : y = x := List.inj_on_of_nodup_map hn hy.1 hmem (hyk.trans hx.collection.symm)
    rw [hxy, ha] at hy
    cases hy.2

end Exchange

/-- A result, what is kept and a world, of which only a part is shown. -/
def shown {α κ σ τ : Type} (f : τ → σ) (out : α × κ × τ) : α × κ × σ := (out.1, out.2.1, f out.2.2)

namespace Plane

variable {σ τ : Type}

/-- A control plane that also keeps a record, the latest exchange last. -/
def recorded (p : Plane σ) : Plane (σ × List Exchange) where
  submit timeout c request w :=
    let reply := p.submit timeout c request w.1
    (reply.1, reply.2, w.2 ++ [⟨c, request, reply.1⟩])

/-- Two control planes answer the same; the worlds of the first show those of the second. -/
structure Over (q : Plane τ) (p : Plane σ) (f : τ → σ) : Prop where
  answer : ∀ timeout c r w, (q.submit timeout c r w).1 = (p.submit timeout c r (f w)).1
  world : ∀ timeout c r w, f (q.submit timeout c r w).2 = (p.submit timeout c r (f w)).2

/-- To keep a record does not change what is answered. -/
theorem recorded_over (p : Plane σ) : p.recorded.Over p Prod.fst :=
  ⟨fun _ _ _ _ => rfl, fun _ _ _ _ => rfl⟩

namespace Over

variable {q : Plane τ} {p : Plane σ} {f : τ → σ} (o : q.Over p f) (j : Provision)

include o

theorem create (function : Nat) (k : Collection) (h : Handles) (w : τ) :
    shown f (j.create q function k h w) = j.create p function k h (f w) := by
  unfold Provision.create
  cases j.request function h k with
  | error e => rfl
  | ok request =>
    simp only [perform, o.answer, ← o.world]
    cases ((p.submit j.timeout (.create k) request (f w)).1.toExcept j.timeout) <;> rfl

theorem delete (k : Collection) (h : Handles) (w : τ) :
    shown f (j.delete q k h w) = j.delete p k h (f w) := by
  unfold Provision.delete
  cases h.get k with
  | none => rfl
  | some name =>
    simp only [perform, o.answer, ← o.world]
    cases ((p.submit j.timeout (.delete k) { name, allowMissing := true } (f w)).1.toExcept
      j.timeout) <;> rfl

theorem createAll (function : Nat) (ks : List Collection) (h : Handles) (w : τ) :
    shown f (j.createAll q function ks h w) = j.createAll p function ks h (f w) := by
  induction ks generalizing h w with
  | nil => rfl
  | cons k ks ih =>
    simp only [Provision.createAll, ← o.create]
    generalize j.create q function k h w = out
    obtain ⟨_ | _, h', w'⟩ := out
    · rfl
    · exact ih h' w'

theorem deleteAll (ks : List Collection) (h : Handles) (w : τ) :
    shown f (j.deleteAll q ks h w) = j.deleteAll p ks h (f w) := by
  induction ks generalizing h w with
  | nil => rfl
  | cons k ks ih =>
    simp only [Provision.deleteAll, ← o.delete]
    generalize j.delete q k h w = out
    obtain ⟨_ | _, h', w'⟩ := out
    · rfl
    · exact ih h' w'

theorem deleteEach (ks : List Collection) (h : Handles) (w : τ) :
    (j.deleteEach p ks h (f w)) = ((j.deleteEach q ks h w).1, f (j.deleteEach q ks h w).2) := by
  induction ks generalizing h w with
  | nil => rfl
  | cons k ks ih =>
    simp only [Provision.deleteEach, ← o.delete]
    exact ih _ _

/-- The creation of a chain is the same over both control planes. -/
theorem connect (c : Chain) (params : ConnectParams) (h : Handles) (w : τ) :
    shown f (j.connect c q params h w) = j.connect c p params h (f w) := by
  unfold Provision.connect
  cases params.requireFunction with
  | error e => rfl
  | ok function =>
    simp only [← o.create]
    generalize j.create q function c.first h w = out
    obtain ⟨_ | _, h₁, w₁⟩ := out
    · rfl
    · simp only [shown, ← o.createAll]
      generalize j.createAll q function c.later h₁ w₁ = out
      obtain ⟨_ | _, h₂, w₂⟩ := out
      · simp only [o.deleteEach]
      · rfl

/-- The deletion of a chain is the same over both control planes. -/
theorem disconnect (c : Chain) (h : Handles) (w : τ) :
    shown f (j.disconnect c q h w) = j.disconnect c p h (f w) := by
  unfold Provision.disconnect
  simp only [← o.deleteAll]
  generalize j.deleteAll q c.teardown h w = out
  obtain ⟨_ | _, h₁, w₁⟩ := out <;> rfl

end Over
end Plane
end OffloadVolume
