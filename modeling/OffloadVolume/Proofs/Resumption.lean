import OffloadVolume.Proofs.Registry
import OffloadVolume.Proofs.Turns
import OffloadVolume.Rehearsal.Plane

/-!
# Deletions that are resumed

A chain whose deletion failed is deleted again, as often as it takes. Main statement:
`Provision.resumption_of_disconnects`, each attempt goes on where the one before it has stopped, and
when one has succeeded there is nothing left to ask for.
-/

namespace OffloadVolume

namespace Provision.Deleting

variable {j : Provision} {ks : List Collection} {h : Handles} {xs : List Exchange}
  {result : Except AttachError Unit}

/-- What is not recorded stays so while others are deleted. -/
theorem along_none {k : Collection} (hd : ∀ x ∈ xs, ∃ m, x.Deletes m) (hk : h.get k = none) :
    h.Along (fun _ g => g.get k = none) xs := by
  induction xs generalizing h with
  | nil => trivial
  | cons x xs ih =>
    refine ⟨hk, ih (fun y hy => hd y (List.mem_cons_of_mem _ hy)) ?_⟩
    obtain ⟨m, hx⟩ := hd x List.mem_cons_self
    cases ha : x.answered with
    | true => rw [hx.update ha, Handles.get_set, hk, ite_self]
    | false => rwa [Exchange.update_of_not_answered ha]

/-- When a resource is deleted, what comes before it in the order is not recorded any more. -/
theorem inOrder (hn : ks.Nodup) (hd : j.Deleting (h.recordedIn ks) xs result) :
    h.Along (fun x g => ∀ k, x.call = .delete k → ∀ l ∈ ks.takeWhile (· ≠ k), g.get l = none)
      xs := by
  induction ks generalizing h xs with
  | nil =>
    rw [show h.recordedIn [] = [] from rfl] at hd
    cases hd
    trivial
  | cons k₀ ks ih =>
    rw [List.nodup_cons] at hn
    -- What is deleted later is another resource, so that only `k₀` comes to stand before it.
    have hlater {g : Handles} {ys : List Exchange} (hg : g.get k₀ = none)
        (hys : j.Deleting (g.recordedIn ks) ys result) :
        g.Along (fun x g => ∀ k, x.call = .delete k →
          ∀ l ∈ (k₀ :: ks).takeWhile (· ≠ k), g.get l = none) ys := by
      have hboth := (along_none hys.exists_deletes hg).and (ih hn.2 hys)
      refine hboth.imp fun x hx g' hboth k hcall l hl => ?_
      obtain ⟨m, hm, hxm⟩ := hys.deletes hx
      have hkm : k = m.1 := by rw [← hxm.collection, hcall]; rfl
      have hk : k₀ ≠ k := by
        rintro rfl
        exact hn.1 (hkm ▸ (Handles.mem_recordedIn.1 hm).1)
      rw [List.takeWhile_cons_of_pos (by simpa using hk)] at hl
      obtain rfl | hl := List.mem_cons.1 hl
      · exact hboth.1
      · exact hboth.2 k hcall l hl
    have hfirst {x : Exchange} {name : String} (hx : x.Deletes (k₀, name)) (g : Handles) :
        ∀ k, x.call = .delete k → ∀ l ∈ (k₀ :: ks).takeWhile (· ≠ k), g.get l = none := by
      obtain ⟨outcome, rfl⟩ := hx
      intro k hk l hl
      cases hk
      simp at hl
    cases hg : h.get k₀ with
    | none =>
      rw [Handles.recordedIn_cons_of_none hg] at hd
      exact hlater hg hd
    | some name =>
      rw [Handles.recordedIn_cons_of_some hg] at hd
      cases hd with
      | deleted hx ha hrest =>
        rw [← h.recordedIn_set hn.1 none] at hrest
        refine ⟨hfirst hx h, ?_⟩
        rw [hx.update ha]
        exact hlater (h.get_set_self k₀ none) hrest
      | stopped hx _ => exact ⟨hfirst hx h, trivial⟩

end Provision.Deleting

/-! ## One attempt -/

/-- What an attempt to delete a chain does. -/
structure Turn.Resumes (j : Provision) (c : Chain) (t : Turn) : Prop where
  /-- What is recorded is deleted in the order of the chain, up to the first deletion that fails,
  with whose error the attempt ends. -/
  deleting : j.Deleting (t.before.recordedIn c.teardown) t.exchanges t.result
  /-- Nothing is deleted while what comes before it is recorded. -/
  inOrder : t.before.Along (fun x h => ∀ k, x.call = .delete k →
    ∀ l ∈ c.teardown.takeWhile (· ≠ k), h.get l = none) t.exchanges
  /-- A name is forgotten when its deletion is answered. -/
  forgotten_iff : ∀ k name, k ≠ .namespace → t.before.get k = some name →
    (t.after.get k = none ↔ ∃ x ∈ t.exchanges, x.Deletes (k, name) ∧ x.answered = true)
  /-- The namespace is never deleted, and is forgotten when all the rest is. -/
  unsent : ∀ x ∈ t.exchanges, x.call ≠ .delete .namespace
  namespace_iff : ∀ name, t.before.get .namespace = some name →
    (t.after.get .namespace = none ↔ ∀ k ∈ c.teardown, t.after.get k = none)
  kept : ∀ k, t.after.get k = none ∨ t.after.get k = t.before.get k
  /-- An attempt that succeeds leaves nothing. -/
  empty_of_ok : t.result = .ok () → t.after = .empty

theorem Turn.Resumes.within {j : Provision} {c : Chain} {t : Turn} (ht : t.Resumes j c)
    {ks : List Collection} (hw : t.before.Within ks) : t.after.Within ks := by
  intro k name hk
  obtain hnone | hkept := ht.kept k
  · rw [hnone] at hk
    cases hk
  · exact hw k name (hkept ▸ hk)

namespace Provision

variable {σ : Type} (j : Provision) {c : Chain} (p : Plane σ)

/-- An attempt to delete a chain deletes what is recorded, and forgets all of it if it comes to its
end. -/
theorem turn_disconnect (hc : c.Resumable) {h : Handles} (hw : h.Within c.stages) (w : σ) :
    ∃ t w', j.turn c p .disconnect h w = (t, w') ∧ t.before = h ∧
      j.Deleting (h.recordedIn c.teardown) t.exchanges t.result ∧
      (t.result = .ok () ∧ t.after = .empty ∨
        (∃ e, t.result = .error e) ∧ t.after = h.clear (Exchange.settled t.exchanges)) := by
  obtain ⟨result, h', w', deletes, hrun, hd, hcase⟩ := j.disconnect_deleting p hc hw w []
  rw [List.nil_append] at hrun
  refine ⟨⟨.disconnect, h, deletes, result, h'⟩, w', ?_, rfl, hd, hcase⟩
  rw [turn, serve, hrun]

/-- Every attempt to delete a chain does this, whatever is recorded. -/
theorem resumes_disconnect (hc : c.Resumable) {h : Handles} (hw : h.Within c.stages) (w : σ) :
    ∃ t w', j.turn c p .disconnect h w = (t, w') ∧ t.before = h ∧ t.Resumes j c := by
  obtain ⟨t, w', hturn, rfl, hd, hcase⟩ := j.turn_disconnect p hc hw w
  have hunsent : ∀ x ∈ t.exchanges, x.call.collection ≠ .namespace := by
    intro x hx hns
    obtain ⟨m, hm, hdel⟩ := hd.deletes hx
    rw [hdel.collection] at hns
    exact hc.namespace_unsent (hns ▸ (Handles.mem_recordedIn.1 hm).1)
  refine ⟨t, w', hturn, rfl, hd, hd.inOrder hc.teardown_nodup, ?_, ?_, ?_, ?_, ?_⟩
  · intro k name hns hg
    rw [← hd.mem_settled_iff hg]
    obtain ⟨hok, hafter⟩ | ⟨-, hafter⟩ := hcase
    · have hk : k ∈ c.teardown :=
        (hc.tornDown k (hw k name hg)).resolve_right fun hs => hns (hc.swept k hs)
      have hm := hd.mem_settled_of_ok hok (k, name) (Handles.mem_recordedIn.2 ⟨hk, hg⟩)
      rw [hafter, Handles.get_empty]
      exact iff_of_true rfl hm
    · rw [hafter, Handles.get_clear, hg]
      simp
  · intro x hx hcall
    exact hunsent x hx (by rw [hcall]; rfl)
  · intro name hg
    obtain ⟨-, hafter⟩ | ⟨⟨e, he⟩, hafter⟩ := hcase
    · rw [hafter]
      exact iff_of_true (Handles.get_empty _) fun k _ => Handles.get_empty k
    · have hns : .namespace ∉ Exchange.settled t.exchanges := by
        intro hs
        obtain ⟨x, hx, hk⟩ := List.mem_map.1 hs
        exact hunsent x (List.mem_filter.1 hx).1 hk
      obtain ⟨m, hm, hleft⟩ := hd.exists_left (t.before.nodup_recordedIn hc.teardown_nodup) he
      obtain ⟨hmem, hgm⟩ := Handles.mem_recordedIn.1 hm
      rw [hafter]
      refine iff_of_false ?_ fun hall => ?_
      · rw [Handles.get_clear, if_neg hns, hg]
        simp
      · have hnone := hall m.1 hmem
        rw [Handles.get_clear, if_neg hleft, hgm] at hnone
        cases hnone
  · intro k
    obtain ⟨-, hafter⟩ | ⟨-, hafter⟩ := hcase
    · exact .inl (by rw [hafter, Handles.get_empty])
    · rw [hafter, Handles.get_clear]
      split
      · exact .inl rfl
      · exact .inr rfl
  · intro hok
    obtain ⟨-, hafter⟩ | ⟨⟨e, he⟩, -⟩ := hcase
    · exact hafter
    · cases hok.symm.trans he

end Provision

/-! ## Attempts one after another -/

/-- What attempts to delete a chain do, one after another. -/
structure Resumption (j : Provision) (c : Chain) (turns : List Turn) : Prop where
  each : ∀ t ∈ turns, t.Resumes j c
  /-- What was deleted is not deleted again. -/
  once : (turns.flatMap Turn.exchanges).Pairwise fun x y => x.answered = true → y.call ≠ x.call
  /-- After an attempt that succeeded there is nothing to ask for, and no way to fail. -/
  quiet : turns.Pairwise fun t u => t.result = .ok () → u.result = .ok () ∧ u.exchanges = []

namespace Provision

variable {σ : Type} (j : Provision) {c : Chain} (p : Plane σ)

/-- What is not recorded is never deleted, however often the chain is. -/
theorem not_asked_again (hc : c.Resumable) (n : Nat) {h : Handles} (hw : h.Within c.stages) (w : σ)
    {k : Collection} (hk : h.get k = none) :
    ∀ y ∈ (j.turns c p (List.replicate n .disconnect) h w).flatMap Turn.exchanges,
      y.call ≠ .delete k := by
  induction n generalizing h w with
  | zero => simp [turns]
  | succ n ih =>
    obtain ⟨t, w', hturn, rfl, ht⟩ := j.resumes_disconnect p hc hw w
    rw [List.replicate_succ, turns_cons, hturn, List.flatMap_cons]
    intro y hy
    obtain hy | hy := List.mem_append.1 hy
    · intro hcall
      obtain ⟨m, hm, hdel⟩ := ht.deleting.deletes hy
      have hmk : m.1 = k := by rw [← hdel.collection, hcall]; rfl
      rw [← hmk, (Handles.mem_recordedIn.1 hm).2] at hk
      cases hk
    · refine ih (ht.within hw) w' ?_ y hy
      exact (ht.kept k).elim id fun hkept => hkept.trans hk

/-- Without anything recorded, every attempt succeeds and asks for nothing. -/
theorem quiet_of_empty (hc : c.Resumable) (n : Nat) (w : σ) :
    ∀ u ∈ j.turns c p (List.replicate n .disconnect) .empty w,
      u.result = .ok () ∧ u.exchanges = [] := by
  induction n generalizing w with
  | zero => simp [turns]
  | succ n ih =>
    obtain ⟨t, w', hturn, hbefore, ht⟩ :=
      j.resumes_disconnect p hc (Handles.within_empty c.stages) w
    have hd := ht.deleting
    rw [hbefore, Handles.recordedIn_empty] at hd
    obtain ⟨hok, hxs⟩ : t.result = .ok () ∧ t.exchanges = [] := by
      generalize t.result = result, t.exchanges = xs at hd
      cases hd
      exact ⟨rfl, rfl⟩
    rw [List.replicate_succ, turns_cons, hturn]
    refine List.forall_mem_cons.2 ⟨⟨hok, hxs⟩, ?_⟩
    rw [ht.empty_of_ok hok]
    exact ih w'

/-- However often a chain is deleted, and whatever is recorded and answered, each attempt goes on
where the one before it has stopped. -/
theorem resumption_of_disconnects {t : Transport} (ht : t.chain? = some c) (n : Nat) {h : Handles}
    (hw : h.Within c.stages) (w : σ) :
    Resumption j c (j.turns c p (List.replicate n .disconnect) h w) := by
  have hc := Transport.resumable_of_chain? ht
  induction n generalizing h w with
  | zero => exact ⟨by simp [turns], by simp [turns], by simp [turns]⟩
  | succ n ih =>
    obtain ⟨t, w', hturn, rfl, ht⟩ := j.resumes_disconnect p hc hw w
    have hrest := ih (ht.within hw) w'
    rw [List.replicate_succ, turns_cons, hturn]
    refine ⟨List.forall_mem_cons.2 ⟨ht, hrest.each⟩, ?_, ?_⟩
    · rw [List.flatMap_cons, List.pairwise_append]
      have hown : t.exchanges.Pairwise fun x y => x.answered = true → y.call ≠ x.call := by
        refine (ht.deleting.once (t.before.nodup_recordedIn hc.teardown_nodup)).imp ?_
        intro x y hne _
        exact hne
      refine ⟨hown, hrest.once, fun x hx y hy ha => ?_⟩
      obtain ⟨m, hm, hdel⟩ := ht.deleting.deletes hx
      have hcall : x.call = .delete m.1 := hdel.call
      have hns : m.1 ≠ .namespace := fun hns => ht.unsent x hx (hns ▸ hcall)
      have hnone := (ht.forgotten_iff m.1 m.2 hns (Handles.mem_recordedIn.1 hm).2).2
        ⟨x, hx, hdel, ha⟩
      rw [hcall]
      exact j.not_asked_again p hc n (ht.within hw) w' hnone y hy
    · refine List.pairwise_cons.2 ⟨fun u hu hok => ?_, hrest.quiet⟩
      rw [ht.empty_of_ok hok] at hu
      exact j.quiet_of_empty p hc n w' u hu

end Provision

/-- A control plane that is down every other time. -/
def Plane.flickering : Plane Nat where
  submit _ c request n :=
    (if n % 2 = 0 then .failed { code := .unavailable, message := "down" }
      else .answered (CallScript.reply {} c request), n + 1)

def Handles.nvme : Handles where
  subsystem := some "nvmeSubsystems/spdkcsi-vol-1"
  controller := some "nvmeControllers/spdkcsi-64"
  remote := some "nvmfRemoteControllers/spckcsi-vol-1"
  «namespace» := some "nvmeNamespaces/spdcksi-vol-1"

/-- Three attempts fail at one resource after the other; the fourth succeeds, and the fifth has
nothing to do. -/
theorem Provision.resumption_of_flickering :
    Transport.nvme.chain? = some .nvme ∧ Handles.nvme.Within Chain.nvme.stages ∧
    ∃ turns, Registry.provision.turns .nvme .flickering (List.replicate 5 .disconnect) .nvme 0 =
        turns ∧
      Resumption Registry.provision .nvme turns ∧
      turns.map (fun t => t.exchanges.map (·.call)) = [[.delete .remote],
        [.delete .remote, .delete .controller], [.delete .controller, .delete .subsystem],
        [.delete .subsystem], []] := by
  have hw : Handles.nvme.Within Chain.nvme.stages := by
    intro k name hk
    cases k with
    | virtioBlk => cases hk
    | subsystem | controller | remote | «namespace» => decide
  exact ⟨rfl, hw, _, rfl, Provision.resumption_of_disconnects _ _ (t := .nvme) rfl 5 hw 0, rfl⟩

end OffloadVolume
