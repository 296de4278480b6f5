import OffloadVolume.Proofs.Exchange
import OffloadVolume.Proofs.Handles
import OffloadVolume.Proofs.Refusal

/-!
# Creating a chain as a transaction

A chain is created stage by stage. When a stage fails, what has been recorded until then is deleted
again, each resource once, and a name stays recorded only if its delete was not answered. Main
statement: `Provision.connect_transaction`, for the chain of an NVMe function.
-/

namespace OffloadVolume

/-- What was recorded stays so until its deletion is answered. -/
theorem Handles.get_clear_settled {made : List (Collection × String)} {deletes : List Exchange}
    (hn : (made.map Prod.fst).Nodup) (hd : List.Forall₂ Exchange.Deletes deletes made)
    (k : Collection) (name : String) :
    ((empty.record made).clear (Exchange.settled deletes)).get k = some name ↔
      (k, name) ∈ made ∧ ∃ x ∈ deletes, x.Deletes (k, name) ∧ x.answered = false := by
  rw [get_clear, ← get_record_empty hn]
  constructor
  · intro h
    split at h
    · cases h
    · rename_i hs
      exact ⟨h, (Exchange.not_mem_settled_iff hd hn ((get_record_empty hn k name).1 h)).1 hs⟩
  · rintro ⟨h, hx⟩
    rwa [if_neg ((Exchange.not_mem_settled_iff hd hn ((get_record_empty hn k name).1 h)).2 hx)]

/-- How the creation of a resource fails: with what is asked of the control plane and the error. -/
inductive Provision.Fails (j : Provision) (function : Nat) (k : Collection) :
    List Exchange → AttachError → Prop where
  | unasked {e : AttachError} : j.refusal function k = some e → Fails j function k [] e
  | refused {h : Handles} {request : CreateRequest k.Resource} {status : Status} :
    j.request function h k = .ok request →
      Fails j function k [⟨.create k, request, .failed status⟩]
        (.rpc (Call.create k).name request.id status)
  | late {h : Handles} {request : CreateRequest k.Resource} :
    j.request function h k = .ok request →
      Fails j function k [⟨.create k, request, .late⟩]
        (.rpc (Call.create k).name request.id (.noResponse j.timeout))

namespace Provision

variable {σ : Type} (j : Provision) (p : Plane σ)

/-- What one creation can do. -/
theorem create_cases (function : Nat) (k : Collection) (h : Handles) (w : σ)
    (log : List Exchange) :
    (∃ x name w', x.Creates j function (k, name) ∧
      j.create p.recorded function k h (w, log) =
        (.ok (), h.set k (some name), w', log ++ [x])) ∨
    ∃ attempt e w', j.Fails function k attempt e ∧
      j.create p.recorded function k h (w, log) = (.error e, h, w', log ++ attempt) := by
  unfold create
  cases hr : j.request function h k with
  | error e =>
    refine .inr ⟨[], e, w, .unasked ((j.request_eq_error_iff function h k e).1 hr), ?_⟩
    rw [List.append_nil]
  | ok request =>
    simp only [Plane.perform, Plane.recorded]
    cases p.submit j.timeout (.create k) request w with
    | mk outcome w' =>
      cases outcome with
      | answered reply => exact .inl ⟨_, _, w', ⟨h, request, reply, hr, rfl, rfl⟩, rfl⟩
      | failed status => exact .inr ⟨_, _, w', .refused hr, rfl⟩
      | late => exact .inr ⟨_, _, w', .late hr, rfl⟩

/-- What one deletion can do. -/
theorem delete_cases (k : Collection) (h : Handles) (w : σ) (log : List Exchange) :
    (h.get k = none ∧ j.delete p.recorded k h (w, log) = (.ok (), h, w, log)) ∨
    ∃ name x w', h.get k = some name ∧ x.Deletes (k, name) ∧
      (x.answered = true ∧
        j.delete p.recorded k h (w, log) = (.ok (), h.set k none, w', log ++ [x]) ∨
      x.answered = false ∧ ∃ status, x.outcome.toExcept j.timeout = .error status ∧
        j.delete p.recorded k h (w, log) =
          (.error (.rpc (Call.delete k).name name status), h, w', log ++ [x])) := by
  unfold delete
  cases hg : h.get k with
  | none => exact .inl ⟨rfl, rfl⟩
  | some name =>
    simp only [Plane.perform, Plane.recorded]
    cases p.submit j.timeout (.delete k) { name, allowMissing := true } w with
    | mk outcome w' =>
      refine .inr ⟨name, _, w', rfl, ⟨outcome, rfl⟩, ?_⟩
      cases outcome with
      | answered reply => exact .inl ⟨rfl, rfl⟩
      | failed status => exact .inr ⟨rfl, status, rfl, rfl⟩
      | late => exact .inr ⟨rfl, _, rfl, rfl⟩

/-- The creations of a run succeed up to one that fails, if any does. -/
theorem createAll_cases (function : Nat) (ks : List Collection) (h : Handles) (w : σ)
    (log : List Exchange) :
    ∃ made creates w', List.Forall₂ (Exchange.Creates j function) creates made ∧
      (made.map Prod.fst = ks ∧ j.createAll p.recorded function ks h (w, log) =
        (.ok (), h.record made, w', log ++ creates) ∨
      ∃ k rest attempt e, ks = made.map Prod.fst ++ k :: rest ∧ j.Fails function k attempt e ∧
        j.createAll p.recorded function ks h (w, log) =
          (.error e, h.record made, w', log ++ creates ++ attempt)) := by
  induction ks generalizing h w log with
  | nil => exact ⟨[], [], w, .nil, .inl ⟨rfl, by rw [List.append_nil]; rfl⟩⟩
  | cons k ks ih =>
    rcases j.create_cases p function k h w log with
      ⟨x, name, w₁, hx, hrun⟩ | ⟨attempt, e, w₁, he, hrun⟩
    · obtain ⟨made, creates, w₂, hc, hall⟩ := ih (h.set k (some name)) w₁ (log ++ [x])
      refine ⟨(k, name) :: made, x :: creates, w₂, .cons hx hc, ?_⟩
      rcases hall with ⟨hks, hall⟩ | ⟨l, rest, attempt, e, hks, he, hall⟩
      · refine .inl ⟨by rw [List.map_cons, hks], ?_⟩
        rw [createAll, hrun, List.append_cons log x creates]
        exact hall
      · refine .inr ⟨l, rest, attempt, e, by rw [List.map_cons, List.cons_append, hks], he, ?_⟩
        rw [createAll, hrun, List.append_cons log x creates]
        exact hall
    · refine ⟨[], [], w₁, .nil, .inr ⟨k, ks, attempt, e, rfl, he, ?_⟩⟩
      rw [createAll, hrun, List.append_nil]
      rfl

/-- Whatever comes of a deletion, the next one is tried; the names of those answered are gone. -/
theorem deleteEach_cases {ks : List Collection} (hn : ks.Nodup) (h : Handles) (w : σ)
    (log : List Exchange) :
    ∃ deletes w', List.Forall₂ Exchange.Deletes deletes (h.recordedIn ks) ∧
      j.deleteEach p.recorded ks h (w, log) =
        (h.clear (Exchange.settled deletes), w', log ++ deletes) := by
  induction ks generalizing h w log with
  | nil => exact ⟨[], w, .nil, by rw [List.append_nil]; rfl⟩
  | cons k ks ih =>
    rw [List.nodup_cons] at hn
    rcases j.delete_cases p k h w log with ⟨hg, hrun⟩ | ⟨name, x, w₁, hg, hx, hcase⟩
    · obtain ⟨deletes, w₂, hd, heach⟩ := ih hn.2 h w log
      refine ⟨deletes, w₂, ?_, ?_⟩
      · rwa [Handles.recordedIn_cons_of_none hg]
      · rw [deleteEach, hrun]
        exact heach
    · have hset : (h.set k none).recordedIn ks = h.recordedIn ks := h.recordedIn_set hn.1 none
      have hrec := Handles.recordedIn_cons_of_some hg ks
      rcases hcase with ⟨ha, hrun⟩ | ⟨ha, status, -, hrun⟩
      · obtain ⟨deletes, w₂, hd, heach⟩ := ih hn.2 (h.set k none) w₁ (log ++ [x])
        rw [hset] at hd
        refine ⟨x :: deletes, w₂, by rw [hrec]; exact .cons hx hd, ?_⟩
        rw [deleteEach, hrun, Exchange.settled_cons_of_answered ha, hx.collection,
          List.append_cons log x deletes]
        exact heach
      · obtain ⟨deletes, w₂, hd, heach⟩ := ih hn.2 h w₁ (log ++ [x])
        refine ⟨x :: deletes, w₂, by rw [hrec]; exact .cons hx hd, ?_⟩
        rw [deleteEach, hrun, Exchange.settled_cons_of_not_answered ha,
          List.append_cons log x deletes]
        exact heach

/-- A creation that fails records nothing. -/
theorem create_error {τ : Type} (q : Plane τ) {function : Nat} {k : Collection} {h h' : Handles}
    {w w' : τ} {e : AttachError} (hc : j.create q function k h w = (.error e, h', w')) : h' = h := by
  unfold create at hc
  split at hc
  · cases hc
    rfl
  · split at hc <;> cases hc
    rfl

theorem deleteEach_empty {τ : Type} (q : Plane τ) (ks : List Collection) (w : τ) :
    j.deleteEach q ks .empty w = (.empty, w) := by
  induction ks with
  | nil => rfl
  | cons k ks ih =>
    rw [deleteEach, delete, Handles.get_empty]
    exact ih

/-- When nothing is recorded, the first creation is no different from the others. -/
theorem connect_empty {τ : Type} (q : Plane τ) (c : Chain) (function : Nat) (w : τ) :
    j.connect c q (.pciFunction function) .empty w =
      match j.createAll q function (c.first :: c.later) .empty w with
      | (.ok _, h, w) => (.ok (), h, w)
      | (.error e, h, w) => (.error e, j.deleteEach q c.rollback h w) := by
  rw [connect, createAll]
  simp only [ConnectParams.requireFunction]
  generalize hc : j.create q function c.first .empty w = out
  obtain ⟨_ | _, h', w'⟩ := out
  · simp only [j.create_error q hc, deleteEach_empty]
  · simp only []
    generalize j.createAll q function c.later h' w' = out
    obtain ⟨_ | _, _, _⟩ := out <;> rfl

/-- Either every stage is created, or all that is recorded when one after the first fails is deleted
again, with what was recorded before. -/
theorem connect_course {c : Chain} (hn : c.rollback.Nodup) (function : Nat) (h : Handles) (w : σ)
    (log : List Exchange) :
    ∃ made creates w', List.Forall₂ (Exchange.Creates j function) creates made ∧
      (made.map Prod.fst = c.first :: c.later ∧
        j.connect c p.recorded (.pciFunction function) h (w, log) =
          (.ok (), h.record made, w', log ++ creates) ∨
      ∃ k rest attempt deletes e,
        c.first :: c.later = made.map Prod.fst ++ k :: rest ∧ j.Fails function k attempt e ∧
        (made = [] ∧ deletes = [] ∨ made ≠ [] ∧
          List.Forall₂ Exchange.Deletes deletes ((h.record made).recordedIn c.rollback)) ∧
        j.connect c p.recorded (.pciFunction function) h (w, log) =
          (.error e, (h.record made).clear (Exchange.settled deletes), w',
            log ++ (creates ++ attempt ++ deletes))) := by
  obtain ⟨x, name, w₁, hx, hfirst⟩ | ⟨attempt, e, w₁, hf, hfirst⟩ :=
    j.create_cases p function c.first h w log
  · obtain ⟨made, creates, w₂, hcr, hall⟩ :=
      j.createAll_cases p function c.later (h.set c.first (some name)) w₁ (log ++ [x])
    obtain ⟨hks, hall⟩ | ⟨k, rest, attempt, e, hks, hf, hall⟩ := hall
    · refine ⟨(c.first, name) :: made, x :: creates, w₂, .cons hx hcr, .inl ⟨?_, ?_⟩⟩
      · rw [List.map_cons, hks]
      · simp only [connect, ConnectParams.requireFunction, hfirst, hall,
          List.append_cons log x creates]
        rfl
    · obtain ⟨deletes, w₃, hd, heach⟩ := j.deleteEach_cases p hn
        ((h.set c.first (some name)).record made) w₂ (log ++ [x] ++ creates ++ attempt)
      refine ⟨(c.first, name) :: made, x :: creates, w₃, .cons hx hcr,
        .inr ⟨k, rest, attempt, deletes, e, ?_, hf, .inr ⟨List.cons_ne_nil _ _, hd⟩, ?_⟩⟩
      · rw [List.map_cons, hks, List.cons_append]
      · simp only [connect, ConnectParams.requireFunction, hfirst, hall, heach]
        simp only [List.append_assoc, List.cons_append, List.nil_append]
        rfl
  · refine ⟨[], [], w₁, .nil,
      .inr ⟨c.first, c.later, attempt, [], e, rfl, hf, .inl ⟨rfl, rfl⟩, ?_⟩⟩
    simp only [connect, ConnectParams.requireFunction, hfirst, List.nil_append, List.append_nil]
    rfl

/-- With nothing recorded, just what was created is deleted again. -/
theorem connect_cases {c : Chain} (hn : c.rollback.Nodup) (function : Nat) (w : σ) :
    ∃ made creates w', List.Forall₂ (Exchange.Creates j function) creates made ∧
      (made.map Prod.fst = c.first :: c.later ∧
        j.connect c p.recorded (.pciFunction function) .empty (w, []) =
          (.ok (), Handles.empty.record made, w', creates) ∨
      ∃ k rest attempt deletes e,
        c.first :: c.later = made.map Prod.fst ++ k :: rest ∧ j.Fails function k attempt e ∧
        List.Forall₂ Exchange.Deletes deletes
          ((Handles.empty.record made).recordedIn c.rollback) ∧
        j.connect c p.recorded (.pciFunction function) .empty (w, []) =
          (.error e, (Handles.empty.record made).clear (Exchange.settled deletes), w',
            creates ++ attempt ++ deletes)) := by
  obtain ⟨made, creates, w', hc, hrun⟩ := j.connect_course p hn function .empty w []
  refine ⟨made, creates, w', hc, hrun.imp id ?_⟩
  rintro ⟨k, rest, attempt, deletes, e, hks, hf, ⟨rfl, rfl⟩ | ⟨-, hd⟩, hrun⟩
  · refine ⟨k, rest, attempt, [], e, hks, hf, ?_, hrun⟩
    rw [show Handles.empty.record [] = .empty from rfl, Handles.recordedIn_empty]
    exact .nil
  · exact ⟨k, rest, attempt, deletes, e, hks, hf, hd, hrun⟩

/-- The creation of an NVMe chain with nothing recorded. The stages that succeed are `made`, in
their order; if one fails, its error is the result and just what was made is deleted again. -/
theorem connect_transaction (function : Nat) (w : σ) :
    ∃ made creates attempt deletes result h w',
      j.connect .nvme p (.pciFunction function) .empty w = (result, h, w') ∧
      j.connect .nvme p.recorded (.pciFunction function) .empty (w, []) =
        (result, h, w', creates ++ attempt ++ deletes) ∧
      List.Forall₂ (Exchange.Creates j function) creates made ∧
      (∀ m ∈ made, j.refusal function m.1 = none) ∧
      (result = .ok () ∧ attempt = [] ∧ deletes = [] ∧
          made.map Prod.fst = [.subsystem, .controller, .remote, .namespace] ∨
        ∃ k rest e, result = .error e ∧ j.Fails function k attempt e ∧
          made.map Prod.fst ++ k :: rest = [.subsystem, .controller, .remote, .namespace] ∧
          List.Forall₂ Exchange.Deletes deletes made) ∧
      ∀ k name, h.get k = some name ↔ (k, name) ∈ made ∧
        (result = .ok () ∨ ∃ x ∈ deletes, x.Deletes (k, name) ∧ x.answered = false) := by
  have hn : Chain.nvme.rollback.Nodup := by decide
  obtain ⟨made, creates, w', hc, hrun⟩ := j.connect_cases p hn function w
  have hasked : ∀ m ∈ made, j.refusal function m.1 = none := by
    intro m hm
    obtain ⟨x, -, h, request, reply, hr, -⟩ := Exchange.exists_exchange hc hm
    exact j.refusal_of_request hr
  have hover := (Plane.recorded_over p).connect j .nvme (.pciFunction function) .empty (w, [])
  rcases hrun with ⟨hks, hrun⟩ | ⟨k, rest, attempt, deletes, e, hks, he, hd, hrun⟩
  · rw [hrun] at hover
    have hmade : (made.map Prod.fst).Nodup := by rw [hks]; exact hn
    refine ⟨made, creates, [], [], .ok (), _, w', hover.symm, ?_, hc, hasked,
      .inl ⟨rfl, rfl, rfl, hks⟩, ?_⟩
    · rw [hrun, List.append_nil, List.append_nil]
    · intro l name
      rw [Handles.get_record_empty hmade]
      exact ⟨fun h => ⟨h, .inl rfl⟩, fun h => h.1⟩
  · rw [hrun] at hover
    have hmade : (made.map Prod.fst ++ k :: rest).Nodup := by rw [← hks]; exact hn
    have hroll : Chain.nvme.rollback = made.map Prod.fst ++ k :: rest := hks
    rw [hroll, Handles.recordedIn_record hmade] at hd
    refine ⟨made, creates, attempt, deletes, .error e, _, w', hover.symm, hrun, hc, hasked,
      .inr ⟨k, rest, e, rfl, he, hks.symm, hd⟩, ?_⟩
    intro l name
    rw [Handles.get_clear_settled hmade.of_append_left hd]
    simp only [reduceCtorEq, false_or]

end Provision
end OffloadVolume
