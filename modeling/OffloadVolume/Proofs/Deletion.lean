import OffloadVolume.Proofs.Stages
import OffloadVolume.Proofs.Transaction

/-!
# Deletions one after another

A chain is deleted in an order that stops at the first failure. Main statements:
`Provision.disconnect_deleting`, what is sent and how it ends follows what was recorded, and
`Provision.Deleting.complete_iff`, all of it is sent for exactly if no deletion but the last fails.
-/

namespace OffloadVolume

theorem Exchange.not_answered_of_error {x : Exchange} {timeout : Duration} {status : Status}
    (hs : x.outcome.toExcept timeout = .error status) : x.answered = false := by
  unfold answered
  split
  · rename_i reply ho
    rw [ho] at hs
    cases hs
  · rfl
  · rfl

namespace Provision

/-- How deletions one after another go: what was to be deleted, what was sent, and the result. The
first deletion that fails ends them with its error. -/
inductive Deleting (j : Provision) :
    List (Collection × String) → List Exchange → Except AttachError Unit → Prop where
  | done : Deleting j [] [] (.ok ())
  | deleted {m : Collection × String} {ms : List (Collection × String)} {x : Exchange}
    {xs : List Exchange} {result : Except AttachError Unit} (hx : x.Deletes m)
    (ha : x.answered = true) (hrest : Deleting j ms xs result) :
    Deleting j (m :: ms) (x :: xs) result
  | stopped {m : Collection × String} {ms : List (Collection × String)} {x : Exchange}
    {status : Status} (hx : x.Deletes m) (hs : x.outcome.toExcept j.timeout = .error status) :
    Deleting j (m :: ms) [x] (.error (.rpc (Call.delete m.1).name m.2 status))

/-- Deletions one after another go in the order of what is recorded. -/
theorem deleteAll_deleting {σ : Type} (j : Provision) (p : Plane σ) {ks : List Collection}
    (hn : ks.Nodup) (h : Handles) (w : σ) (log : List Exchange) :
    ∃ result w' deletes, j.Deleting (h.recordedIn ks) deletes result ∧
      j.deleteAll p.recorded ks h (w, log) =
        (result, h.clear (Exchange.settled deletes), w', log ++ deletes) := by
  induction ks generalizing h w log with
  | nil => exact ⟨.ok (), w, [], .done, by rw [List.append_nil]; rfl⟩
  | cons k ks ih =>
    rw [List.nodup_cons] at hn
    obtain ⟨hg, hrun⟩ | ⟨name, x, w₁, hg, hx, hcase⟩ := j.delete_cases p k h w log
    · obtain ⟨result, w', deletes, hd, hall⟩ := ih hn.2 h w log
      refine ⟨result, w', deletes, ?_, ?_⟩
      · rwa [Handles.recordedIn_cons_of_none hg]
      · rw [deleteAll, hrun]
        exact hall
    · rw [Handles.recordedIn_cons_of_some hg]
      obtain ⟨ha, hrun⟩ | ⟨ha, status, hs, hrun⟩ := hcase
      · obtain ⟨result, w', deletes, hd, hall⟩ := ih hn.2 (h.set k none) w₁ (log ++ [x])
        rw [h.recordedIn_set hn.1] at hd
        refine ⟨result, w', x :: deletes, .deleted hx ha hd, ?_⟩
        rw [deleteAll, hrun, Exchange.settled_cons_of_answered ha, hx.collection,
          List.append_cons log x deletes]
        exact hall
      · refine ⟨_, w₁, [x], .stopped hx hs, ?_⟩
        rw [deleteAll, hrun, Exchange.settled_cons_of_not_answered ha]
        rfl

namespace Deleting

variable {j : Provision} {ms : List (Collection × String)} {xs : List Exchange}
  {result : Except AttachError Unit}

/-- Only what was to be deleted is sent for, in its order. -/
theorem sent (hd : j.Deleting ms xs result) :
    ∃ tried rest, ms = tried ++ rest ∧ List.Forall₂ Exchange.Deletes xs tried := by
  induction hd with
  | done => exact ⟨[], [], rfl, .nil⟩
  | @deleted m _ _ _ _ hx _ _ ih =>
    obtain ⟨tried, rest, rfl, hsent⟩ := ih
    exact ⟨m :: tried, rest, rfl, .cons hx hsent⟩
  | @stopped m ms _ _ hx _ => exact ⟨[m], ms, rfl, .cons hx .nil⟩

theorem deletes (hd : j.Deleting ms xs result) {x : Exchange} (hx : x ∈ xs) :
    ∃ m ∈ ms, x.Deletes m := by
  obtain ⟨tried, rest, rfl, hsent⟩ := hd.sent
  obtain ⟨m, hm, hdel⟩ := Exchange.exists_made hsent hx
  exact ⟨m, List.mem_append_left _ hm, hdel⟩

theorem exists_deletes (hd : j.Deleting ms xs result) : ∀ x ∈ xs, ∃ m, x.Deletes m := by
  intro x hx
  obtain ⟨m, -, hm⟩ := hd.deletes hx
  exact ⟨m, hm⟩

/-- They end well exactly if every deletion is answered. -/
theorem ok_iff (hd : j.Deleting ms xs result) :
    result = .ok () ↔ ∀ x ∈ xs, x.answered = true := by
  induction hd with
  | done => simp
  | deleted _ ha _ ih => rw [ih, List.forall_mem_cons, and_iff_right ha]
  | stopped _ hs => simp [Exchange.not_answered_of_error hs]

theorem mem_settled_of_ok (hd : j.Deleting ms xs result) (hok : result = .ok ()) :
    ∀ m ∈ ms, m.1 ∈ Exchange.settled xs := by
  induction hd with
  | done => simp
  | deleted hx ha _ ih =>
    rw [Exchange.settled_cons_of_answered ha, hx.collection]
    intro m hm
    obtain rfl | hm := List.mem_cons.1 hm
    · exact List.mem_cons_self
    · exact List.mem_cons_of_mem _ (ih hok m hm)
  | stopped => cases hok

/-- All that was to be deleted is sent for, exactly if no deletion but that of the last resource
fails. -/
theorem complete_iff (hd : j.Deleting ms xs result) (hn : (ms.map Prod.fst).Nodup) :
    List.Forall₂ Exchange.Deletes xs ms ↔ ∀ x ∈ xs, x.answered = false →
      (ms.map Prod.fst).getLast? = some x.call.collection := by
  induction hd with
  | done => simp
  | @deleted m ms x xs _ hx ha hrest ih =>
    rw [List.map_cons, List.nodup_cons] at hn
    rw [List.forall₂_cons, ih hn.2, and_iff_right hx, List.forall_mem_cons, ha]
    cases ms with
    | nil =>
      cases hrest
      simp
    | cons m' ms => simp
  | @stopped m ms x _ hx hs =>
    rw [List.map_cons, List.nodup_cons] at hn
    have ha := Exchange.not_answered_of_error hs
    cases ms with
    | nil => simp [hx, hx.collection]
    | cons m' ms =>
      refine iff_of_false (fun hall => ?_) fun hlast => ?_
      · cases hall with
        | cons _ hrest => cases hrest
      · have hlast := hlast x (List.mem_singleton_self x) ha
        rw [hx.collection, List.map_cons, List.map_cons, List.getLast?_cons_cons] at hlast
        exact hn.1 (List.mem_of_getLast? hlast)

/-- If each resource is sent for, each one is sent for once, in their order. -/
theorem complete_of_sent (hd : j.Deleting ms xs result) (hn : (ms.map Prod.fst).Nodup)
    (hall : ∀ m ∈ ms, ∃ x ∈ xs, x.Deletes m) : List.Forall₂ Exchange.Deletes xs ms := by
  obtain ⟨tried, rest, rfl, hsent⟩ := hd.sent
  cases rest with
  | nil => rwa [List.append_nil]
  | cons m rest =>
    obtain ⟨x, hx, hdel⟩ := hall m (by simp)
    obtain ⟨m', hm', hdel'⟩ := Exchange.exists_made hsent hx
    rw [List.map_append] at hn
    have hne := (List.nodup_append.1 hn).2.2 m'.1 (List.mem_map_of_mem hm') m.1 (by simp)
    exact absurd (hdel'.collection.symm.trans hdel.collection) hne

/-- Each resource is deleted once at most. -/
theorem once (hd : j.Deleting ms xs result) (hn : (ms.map Prod.fst).Nodup) :
    xs.Pairwise fun x y => y.call ≠ x.call := by
  obtain ⟨tried, rest, rfl, hsent⟩ := hd.sent
  rw [List.map_append] at hn
  have hkeys := hn.of_append_left
  rw [← Exchange.map_collection hsent] at hkeys
  have hdistinct : xs.Pairwise fun x y => x.call.collection ≠ y.call.collection :=
    List.pairwise_map.1 hkeys
  exact hdistinct.imp fun hne hcall => hne (congrArg Call.collection hcall.symm)

/-- Deletions that fail leave something. -/
theorem exists_left (hd : j.Deleting ms xs result) (hn : (ms.map Prod.fst).Nodup) {e : AttachError}
    (he : result = .error e) : ∃ m ∈ ms, m.1 ∉ Exchange.settled xs := by
  induction hd with
  | done => cases he
  | @deleted m ms x xs _ hx ha _ ih =>
    rw [List.map_cons, List.nodup_cons] at hn
    obtain ⟨l, hl, hleft⟩ := ih hn.2 he
    refine ⟨l, List.mem_cons_of_mem _ hl, ?_⟩
    rw [Exchange.settled_cons_of_answered ha, hx.collection, List.mem_cons, not_or]
    refine ⟨fun hlm => hn.1 ?_, hleft⟩
    rw [← hlm]
    exact List.mem_map_of_mem hl
  | @stopped m _ x _ _ hs =>
    refine ⟨m, List.mem_cons_self, ?_⟩
    rw [Exchange.settled_cons_of_not_answered (Exchange.not_answered_of_error hs)]
    exact List.not_mem_nil

section

variable {ks : List Collection} {h : Handles}

/-- Deletions that end well leave nothing of what was to be deleted. -/
theorem clear_settled (hd : j.Deleting (h.recordedIn ks) xs result) (hok : result = .ok ()) :
    h.clear (Exchange.settled xs) = h.clear ks := by
  refine Handles.ext_get fun k => ?_
  have hsub : k ∈ Exchange.settled xs → k ∈ ks := by
    intro hk
    obtain ⟨x, hx, rfl⟩ := List.mem_map.1 hk
    obtain ⟨m, hm, hdel⟩ := hd.deletes (List.mem_filter.1 hx).1
    rw [hdel.collection]
    exact (Handles.mem_recordedIn.1 hm).1
  rw [Handles.get_clear, Handles.get_clear]
  by_cases hk : k ∈ ks
  · rw [if_pos hk]
    cases hg : h.get k with
    | none => exact ite_self none
    | some name =>
      exact if_pos (hd.mem_settled_of_ok hok (k, name) (Handles.mem_recordedIn.2 ⟨hk, hg⟩))
  · rw [if_neg hk, if_neg (mt hsub hk)]

/-- What is recorded is forgotten exactly if its deletion is answered. -/
theorem mem_settled_iff (hd : j.Deleting (h.recordedIn ks) xs result) {k : Collection}
    {name : String} (hg : h.get k = some name) :
    k ∈ Exchange.settled xs ↔ ∃ x ∈ xs, x.Deletes (k, name) ∧ x.answered = true := by
  constructor
  · intro hk
    obtain ⟨x, hx, rfl⟩ := List.mem_map.1 hk
    obtain ⟨hx, ha⟩ := List.mem_filter.1 hx
    obtain ⟨m, hm, hdel⟩ := hd.deletes hx
    have hgm := (Handles.mem_recordedIn.1 hm).2
    rw [← hdel.collection, hg] at hgm
    have hname : m = (x.call.collection, name) :=
      Prod.ext hdel.collection.symm (Option.some.inj hgm).symm
    exact ⟨x, hx, hname ▸ hdel, ha⟩
  · rintro ⟨x, hx, hdel, ha⟩
    exact List.mem_map.2 ⟨x, List.mem_filter.2 ⟨hx, ha⟩, hdel.collection⟩

theorem ne_nil_of_error (hd : j.Deleting (h.recordedIn ks) xs result) {e : AttachError}
    (he : result = .error e) : ks ≠ [] := by
  rintro rfl
  rw [show h.recordedIn [] = [] from rfl] at hd
  cases hd
  cases he

/-- Deletions that fail do not come to the end: the last resource stays recorded. -/
theorem not_mem_settled (hn : ks.Nodup) (hd : j.Deleting (h.recordedIn ks) xs result)
    {e : AttachError} (he : result = .error e) {k : Collection} (hk : k ∉ ks.dropLast) :
    k ∉ Exchange.settled xs := by
  induction ks generalizing h xs with
  | nil => exact absurd rfl (hd.ne_nil_of_error he)
  | cons l ks ih =>
    rw [List.nodup_cons] at hn
    have hcons (hne : ks ≠ []) : k ≠ l ∧ k ∉ ks.dropLast := by
      rwa [List.dropLast_cons_of_ne_nil hne, List.mem_cons, not_or] at hk
    cases hg : h.get l with
    | none =>
      rw [Handles.recordedIn_cons_of_none hg] at hd
      exact ih hn.2 hd (hcons (hd.ne_nil_of_error he)).2
    | some name =>
      rw [Handles.recordedIn_cons_of_some hg] at hd
      cases hd with
      | deleted hx ha hrest =>
        rw [← h.recordedIn_set hn.1 none] at hrest
        obtain ⟨hkl, hkl'⟩ := hcons (hrest.ne_nil_of_error he)
        rw [Exchange.settled_cons_of_answered ha, hx.collection, List.mem_cons, not_or]
        exact ⟨hkl, ih hn.2 hrest hkl'⟩
      | stopped _ hs =>
        rw [Exchange.settled_cons_of_not_answered (Exchange.not_answered_of_error hs)]
        exact List.not_mem_nil

/-- What is left when deletions fail could not be deleted itself, or they stopped before it. -/
theorem exists_unanswered (hd : j.Deleting (h.recordedIn ks) xs result) {e : AttachError}
    (he : result = .error e) {k : Collection} {name : String} (hg : h.get k = some name)
    (hk : k ∉ Exchange.settled xs) :
    ∃ x ∈ xs, x.answered = false ∧
      ∃ m, x.Deletes m ∧ (m = (k, name) ∨ m.1 ∈ ks.takeWhile (· ≠ k)) := by
  induction ks generalizing xs with
  | nil => exact absurd rfl (hd.ne_nil_of_error he)
  | cons l ks ih =>
    have hlater (hlk : l ≠ k) {xs' : List Exchange} (hd' : j.Deleting (h.recordedIn ks) xs' result)
        (hk' : k ∉ Exchange.settled xs') : ∃ x ∈ xs', x.answered = false ∧
          ∃ m, x.Deletes m ∧ (m = (k, name) ∨ m.1 ∈ (l :: ks).takeWhile (· ≠ k)) := by
      rw [List.takeWhile_cons_of_pos (by simpa using hlk)]
      obtain ⟨x, hx, ha, m, hm, hmk⟩ := ih hd' hk'
      exact ⟨x, hx, ha, m, hm, hmk.imp_right (List.mem_cons_of_mem _)⟩
    cases hl : h.get l with
    | none =>
      have hlk : l ≠ k := by
        rintro rfl
        cases hl.symm.trans hg
      rw [Handles.recordedIn_cons_of_none hl] at hd
      exact hlater hlk hd hk
    | some text =>
      rw [Handles.recordedIn_cons_of_some hl] at hd
      cases hd with
      | @deleted _ _ x xs _ hx ha hrest =>
        rw [Exchange.settled_cons_of_answered ha, hx.collection, List.mem_cons, not_or] at hk
        obtain ⟨y, hy, hy'⟩ := hlater (Ne.symm hk.1) hrest hk.2
        exact ⟨y, List.mem_cons_of_mem _ hy, hy'⟩
      | @stopped _ _ x _ hx hs =>
        refine ⟨x, List.mem_singleton_self x, Exchange.not_answered_of_error hs, _, hx, ?_⟩
        by_cases hlk : l = k
        · subst hlk
          cases hl.symm.trans hg
          exact .inl rfl
        · rw [List.takeWhile_cons_of_pos (by simpa using hlk)]
          exact .inr List.mem_cons_self

end

end Deleting

/-- A chain is deleted in its order. If that ends well, nothing is left. -/
theorem disconnect_deleting {σ : Type} (j : Provision) {c : Chain} (p : Plane σ)
    (hc : c.Resumable) {h : Handles} (hw : h.Within c.stages) (w : σ) (log : List Exchange) :
    ∃ result h' w' deletes,
      j.disconnect c p.recorded h (w, log) = (result, h', w', log ++ deletes) ∧
      j.Deleting (h.recordedIn c.teardown) deletes result ∧
      (result = .ok () ∧ h' = .empty ∨
        (∃ e, result = .error e) ∧ h' = h.clear (Exchange.settled deletes)) := by
  obtain ⟨result, w', deletes, hd, hall⟩ := j.deleteAll_deleting p hc.teardown_nodup h w log
  rw [disconnect, hall]
  cases result with
  | error e => exact ⟨_, _, w', deletes, rfl, hd, .inr ⟨⟨e, rfl⟩, rfl⟩⟩
  | ok _ =>
    refine ⟨_, _, w', deletes, rfl, hd, .inl ⟨rfl, ?_⟩⟩
    rw [hd.clear_settled rfl]
    exact hc.clear_eq_empty hw

end Provision
end OffloadVolume
