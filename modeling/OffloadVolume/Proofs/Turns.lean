import OffloadVolume.Proofs.Deletion
import OffloadVolume.Proofs.Inventory

/-!
# Calls one after another

A backend is called again and again, each time with the names that the calls before have left. Main
statements: `Provision.serve_turn`, a record of a call can be kept, and `Provision.connect_drawn` and
`Provision.disconnect_drawn`, what is recorded at each moment follows from what was answered until
then, and what is asked for is drawn from it.
-/

namespace OffloadVolume

/-! ## Moments -/

namespace Exchange

/-- What an exchange does to the names that are recorded. -/
def update : Exchange → Handles → Handles
  | ⟨.create k, request, .answered reply⟩, h =>
    h.set k (some (recordedName (k.nameOf reply) request.id))
  | ⟨.delete k, _, .answered _⟩, h => h.set k none
  | ⟨_, _, .failed _⟩, h | ⟨_, _, .late⟩, h => h

def Makes (x : Exchange) (r : LiveResource) : Prop :=
  ∃ k request reply, x = ⟨.create k, request, .answered reply⟩ ∧
    r = .of k request (recordedName (k.nameOf reply) request.id)

/-- An exchange is about what is recorded: the name that it deletes is, and so is the subsystem that
it puts a namespace into. -/
structure Follows (x : Exchange) (h : Handles) : Prop where
  deletes : ∀ k, x.call = .delete k → ∃ name, h.get k = some name ∧ x.Deletes (k, name)
  parent : ∀ r, x.Makes r → r.collection = .namespace → r.parent = h.subsystem

/-- An exchange is drawn from what is recorded: its request is made with the names that are, and a
deletion is of one of them. -/
inductive Drawn (j : Provision) (h : Handles) : Exchange → Prop where
  | create {function : Nat} {k : Collection} {request : CreateRequest k.Resource}
    (hr : j.request function h k = .ok request) (outcome : Outcome k.Resource) :
      Drawn j h ⟨.create k, request, outcome⟩
  | delete {k : Collection} {name : String} (hg : h.get k = some name)
    (outcome : Outcome Acknowledgement) :
      Drawn j h ⟨.delete k, { name, allowMissing := true }, outcome⟩

/-- An exchange that is drawn from what is recorded is about what is recorded. -/
theorem Drawn.follows {j : Provision} {h : Handles} {x : Exchange} (hx : x.Drawn j h) :
    x.Follows h := by
  cases hx with
  | create hr outcome =>
    constructor
    · intro k hk
      cases hk
    · rintro r ⟨k, request, reply, hx, rfl⟩ hns
      cases hx
      exact j.parent_of_request hr _ hns
  | @delete k name hg outcome =>
    constructor
    · intro l hl
      cases hl
      exact ⟨name, hg, outcome, rfl⟩
    · rintro r ⟨l, request, reply, hx, -⟩
      cases hx

theorem update_of_not_answered {x : Exchange} (ha : x.answered = false) (h : Handles) :
    x.update h = h := by
  obtain ⟨c, request, outcome⟩ := x
  cases outcome with
  | answered reply => cases ha
  | failed | late => cases c <;> rfl

theorem Deletes.update {x : Exchange} {m : Collection × String} (hx : x.Deletes m)
    (ha : x.answered = true) (h : Handles) : x.update h = h.set m.1 none := by
  obtain ⟨outcome, rfl⟩ := hx
  cases outcome with
  | answered reply => rfl
  | failed | late => cases ha

theorem Creates.update {j : Provision} {function : Nat} {x : Exchange} {m : Collection × String}
    (hx : x.Creates j function m) (h : Handles) : x.update h = h.set m.1 (some m.2) := by
  obtain ⟨_, request, reply, -, rfl, hname⟩ := hx
  rw [hname]
  rfl

theorem Creates.makes {j : Provision} {function : Nat} {x : Exchange} {m : Collection × String}
    (hx : x.Creates j function m) : ∃ r, x.Makes r ∧ r.entry = m := by
  obtain ⟨_, request, reply, -, rfl, hname⟩ := hx
  exact ⟨_, ⟨m.1, request, reply, rfl, rfl⟩, Prod.ext rfl hname.symm⟩

end Exchange

namespace Handles

def replay (h : Handles) (log : List Exchange) : Handles := log.foldl (fun h x => x.update h) h

/-- Something holds of every exchange and of the names that are recorded when it begins. -/
def Along (P : Exchange → Handles → Prop) : Handles → List Exchange → Prop
  | _, [] => True
  | h, x :: log => P x h ∧ Along P (x.update h) log

instance decidableAlong (P : Exchange → Handles → Prop) [∀ x h, Decidable (P x h)] :
    (h : Handles) → (log : List Exchange) → Decidable (h.Along P log)
  | _, [] => .isTrue trivial
  | h, x :: log =>
    have := decidableAlong P (x.update h) log
    inferInstanceAs (Decidable (P x h ∧ (x.update h).Along P log))

@[simp] theorem replay_nil (h : Handles) : h.replay [] = h := rfl

@[simp] theorem replay_cons (h : Handles) (x : Exchange) (log : List Exchange) :
    h.replay (x :: log) = (x.update h).replay log := rfl

theorem replay_append (h : Handles) (log more : List Exchange) :
    h.replay (log ++ more) = (h.replay log).replay more := List.foldl_append

theorem replay_of_not_answered {log : List Exchange} (ha : ∀ x ∈ log, x.answered = false)
    (h : Handles) : h.replay log = h := by
  induction log with
  | nil => rfl
  | cons x log ih =>
    obtain ⟨hx, hlog⟩ := List.forall_mem_cons.1 ha
    rw [replay_cons, Exchange.update_of_not_answered hx, ih hlog]

/-- After creations, what was created is recorded. -/
theorem replay_creates {j : Provision} {function : Nat} {log : List Exchange}
    {made : List (Collection × String)} (hc : List.Forall₂ (Exchange.Creates j function) log made)
    (h : Handles) : h.replay log = h.record made := by
  induction hc generalizing h with
  | nil => rfl
  | cons hx _ ih =>
    rw [replay_cons, ih, hx.update]
    rfl

/-- After deletions, the names of those answered are gone. -/
theorem replay_deletes {log : List Exchange} (hd : ∀ x ∈ log, ∃ m, x.Deletes m) (h : Handles) :
    h.replay log = h.clear (Exchange.settled log) := by
  induction log generalizing h with
  | nil => rfl
  | cons x log ih =>
    obtain ⟨⟨m, hx⟩, hd⟩ := List.forall_mem_cons.1 hd
    rw [replay_cons, ih hd]
    cases ha : x.answered with
    | true =>
      rw [hx.update ha, Exchange.settled_cons_of_answered ha, hx.collection]
      rfl
    | false =>
      rw [Exchange.update_of_not_answered ha, Exchange.settled_cons_of_not_answered ha]

/-- What holds along exchanges holds along the first ones, and along the others from what those
leave. -/
theorem along_append {P : Exchange → Handles → Prop} {h : Handles} {log more : List Exchange} :
    h.Along P (log ++ more) ↔ h.Along P log ∧ (h.replay log).Along P more := by
  induction log generalizing h with
  | nil => simp [Along]
  | cons x log ih => rw [List.cons_append, Along, ih, Along, and_assoc, replay_cons]

theorem Along.imp {P Q : Exchange → Handles → Prop} {h : Handles} {log : List Exchange}
    (hp : h.Along P log) (hpq : ∀ x ∈ log, ∀ g, P x g → Q x g) : h.Along Q log := by
  induction log generalizing h with
  | nil => trivial
  | cons x log ih =>
    exact ⟨hpq x List.mem_cons_self h hp.1,
      ih hp.2 fun y hy => hpq y (List.mem_cons_of_mem _ hy)⟩

theorem Along.and {P Q : Exchange → Handles → Prop} {h : Handles} {log : List Exchange}
    (hp : h.Along P log) (hq : h.Along Q log) : h.Along (fun x g => P x g ∧ Q x g) log := by
  induction log generalizing h with
  | nil => trivial
  | cons x log ih => exact ⟨⟨hp.1, hq.1⟩, ih hp.2 hq.2⟩

end Handles

/-! ## Single requests -/

namespace Provision

variable {σ : Type} (j : Provision) (c : Chain) (p : Plane σ)

theorem create_drawn (function : Nat) (k : Collection) (h : Handles) (w : σ)
    (log : List Exchange) :
    ∃ result xs w', h.Along (fun x g => x.Drawn j g) xs ∧
      j.create p.recorded function k h (w, log) = (result, h.replay xs, w', log ++ xs) := by
  unfold create
  cases hr : j.request function h k with
  | error e => exact ⟨_, [], w, trivial, by rw [List.append_nil]; rfl⟩
  | ok request =>
    simp only [Plane.perform, Plane.recorded]
    cases p.submit j.timeout (.create k) request w with
    | mk outcome w' =>
      have hx : Exchange.Drawn j h ⟨.create k, request, outcome⟩ := .create hr outcome
      cases outcome <;> exact ⟨_, [_], w', ⟨hx, trivial⟩, rfl⟩

theorem delete_drawn (k : Collection) (h : Handles) (w : σ) (log : List Exchange) :
    ∃ result xs w', h.Along (fun x g => x.Drawn j g) xs ∧
      j.delete p.recorded k h (w, log) = (result, h.replay xs, w', log ++ xs) := by
  unfold delete
  cases hg : h.get k with
  | none => exact ⟨_, [], w, trivial, by rw [List.append_nil]; rfl⟩
  | some name =>
    simp only [Plane.perform, Plane.recorded]
    cases p.submit j.timeout (.delete k) { name, allowMissing := true } w with
    | mk outcome w' =>
      have hx : Exchange.Drawn j h ⟨.delete k, { name, allowMissing := true }, outcome⟩ :=
        .delete hg outcome
      cases outcome <;> exact ⟨_, [_], w', ⟨hx, trivial⟩, rfl⟩

/-- What is recorded follows from the record, as long as nothing is swept. -/
theorem maintains_drawn {c : Chain} (hc : c.swept = []) (h₀ : Handles) :
    j.Maintains c p.recorded fun h m =>
      h = h₀.replay m.2 ∧ h₀.Along (fun x g => x.Drawn j g) m.2 where
  create function k _ h m hm := by
    obtain ⟨w, log⟩ := m
    obtain ⟨rfl, hlog⟩ := hm
    obtain ⟨result, xs, w', hxs, hrun⟩ := j.create_drawn p function k (h₀.replay log) w log
    rw [hrun]
    exact ⟨(h₀.replay_append log xs).symm, Handles.along_append.2 ⟨hlog, hxs⟩⟩
  delete k h m hm := by
    obtain ⟨w, log⟩ := m
    obtain ⟨rfl, hlog⟩ := hm
    obtain ⟨result, xs, w', hxs, hrun⟩ := j.delete_drawn p k (h₀.replay log) w log
    rw [hrun]
    exact ⟨(h₀.replay_append log xs).symm, Handles.along_append.2 ⟨hlog, hxs⟩⟩
  sweep h m hm := by
    rw [hc]
    exact hm

/-- The creation of a chain, with its rollback, leaves just what was answered. -/
theorem connect_drawn {params : ConnectParams} {h h' : Handles} {w w' : σ}
    {result : Except AttachError Unit} {xs : List Exchange}
    (hrun : j.connect c p.recorded params h (w, []) = (result, h', w', xs)) :
    h' = h.replay xs ∧ h.Along (fun x g => x.Drawn j g) xs := by
  -- A creation sweeps nothing, so that it is the same for the chain that has nothing to sweep.
  have hm := (j.maintains_drawn p (c := { c with swept := [] }) rfl h).connect params h (w, [])
    ⟨rfl, trivial⟩
  have hsame : j.connect { c with swept := [] } p.recorded params h (w, []) = _ := hrun
  rwa [hsame] at hm

theorem connect_follows {params : ConnectParams} {h h' : Handles} {w w' : σ}
    {result : Except AttachError Unit} {xs : List Exchange}
    (hrun : j.connect c p.recorded params h (w, []) = (result, h', w', xs)) :
    h' = h.replay xs ∧ h.Along Exchange.Follows xs := by
  obtain ⟨hafter, hdrawn⟩ := j.connect_drawn c p hrun
  exact ⟨hafter, hdrawn.imp fun _ _ _ hx => hx.follows⟩

/-- The deletion of a chain leaves just what was answered, and sweeps the rest if it ends well. -/
theorem disconnect_drawn {h h' : Handles} {w w' : σ} {result : Except AttachError Unit}
    {xs : List Exchange} (hrun : j.disconnect c p.recorded h (w, []) = (result, h', w', xs)) :
    h.Along (fun x g => x.Drawn j g) xs ∧
      h' = if result = .ok () then (h.replay xs).clear c.swept else h.replay xs := by
  have hm := (j.maintains_drawn p (c := { c with swept := [] }) rfl h).deleteAll c.teardown h
    (w, []) ⟨rfl, trivial⟩
  unfold disconnect at hrun
  generalize j.deleteAll p.recorded c.teardown h (w, []) = out at hm hrun
  obtain ⟨_ | _, h₁, w₁, log⟩ := out
  · cases hrun
    exact ⟨hm.2, by rw [if_neg (by simp)]; exact hm.1⟩
  · cases hrun
    refine ⟨hm.2, ?_⟩
    rw [if_pos rfl, ← hm.1]

theorem disconnect_follows {h h' : Handles} {w w' : σ} {result : Except AttachError Unit}
    {xs : List Exchange} (hrun : j.disconnect c p.recorded h (w, []) = (result, h', w', xs)) :
    h.Along Exchange.Follows xs ∧
      h' = if result = .ok () then (h.replay xs).clear c.swept else h.replay xs := by
  obtain ⟨hdrawn, hafter⟩ := j.disconnect_drawn c p hrun
  exact ⟨hdrawn.imp fun _ _ _ hx => hx.follows, hafter⟩

end Provision

/-! ## Calls -/

inductive Ask where
  | connect (params : ConnectParams)
  | disconnect
  deriving DecidableEq, Repr

/-- A call of a backend: what is recorded before and after it, what the control plane is asked, and
the result. -/
structure Turn where
  ask : Ask
  before : Handles
  exchanges : List Exchange
  result : Except AttachError Unit
  after : Handles

namespace Provision

variable {σ : Type} (j : Provision) (c : Chain) (p : Plane σ)

def serve (p : Plane σ) : Ask → Handles → σ → Except AttachError Unit × Handles × σ
  | .connect params => j.connect c p params
  | .disconnect => j.disconnect c p

def turn (a : Ask) (h : Handles) (w : σ) : Turn × σ :=
  match j.serve c p.recorded a h (w, []) with
  | (result, after, w, exchanges) => (⟨a, h, exchanges, result, after⟩, w)

def turns : List Ask → Handles → σ → List Turn
  | [], _, _ => []
  | a :: asks, h, w =>
    match j.turn c p a h w with
    | (t, w) => t :: turns asks t.after w

variable {j c p} in
theorem run_of_turn {a : Ask} {h : Handles} {w w' : σ} {t : Turn}
    (hturn : j.turn c p a h w = (t, w')) : t.ask = a ∧ t.before = h ∧
      j.serve c p.recorded a h (w, []) = (t.result, t.after, w', t.exchanges) := by
  unfold turn at hturn
  cases hturn
  exact ⟨rfl, rfl, rfl⟩

variable {c} in
/-- A call leaves names only of the stages of the chain. -/
theorem turn_within {a : Ask} {h : Handles} (hw : h.Within c.stages) {w w' : σ} {t : Turn}
    (hturn : j.turn c p a h w = (t, w')) : t.after.Within c.stages := by
  obtain ⟨-, -, hrun⟩ := run_of_turn hturn
  cases a with
  | connect params => exact within_of_connect hw hrun
  | disconnect => exact within_of_disconnect hw hrun

/-- To keep a record of a call does not change what it does. -/
theorem serve_turn (a : Ask) (h : Handles) (w : σ) :
    j.serve c p a h w =
      ((j.turn c p a h w).1.result, (j.turn c p a h w).1.after, (j.turn c p a h w).2) := by
  cases a with
  | connect params => exact ((Plane.recorded_over p).connect j c params h (w, [])).symm
  | disconnect => exact ((Plane.recorded_over p).disconnect j c h (w, [])).symm

theorem turns_cons (a : Ask) (asks : List Ask) (h : Handles) (w : σ) :
    j.turns c p (a :: asks) h w = (j.turn c p a h w).1 ::
      j.turns c p asks (j.turn c p a h w).1.after (j.turn c p a h w).2 := rfl

end Provision
end OffloadVolume
