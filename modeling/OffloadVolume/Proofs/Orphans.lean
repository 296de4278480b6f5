import OffloadVolume.Proofs.Registry
import OffloadVolume.Proofs.Restoration

/-!
# Resources created without an answer

A control plane may carry a creation out although the caller sees it fail. Its name is not recorded
then, so that it is not rolled back; only a namespace goes with the subsystem. Main statement:
`Provision.orphans_of_connect`, what a failed creation of a chain leaves behind.
-/

namespace OffloadVolume

variable {σ : Type}

/-! ## What no request changes -/

/-- No request that is sent for a chain ends what holds of the world. -/
structure Plane.Preserves (p : Plane σ) (P : σ → Prop) : Prop where
  create : ∀ timeout k request w, P w → P (p.submit timeout (.create k) request w).2
  delete : ∀ timeout k name w, P w →
    P (p.submit timeout (.delete k) { name, allowMissing := true } w).2

/-- What every request keeps is kept by the requests of a chain. -/
theorem Plane.Preserves.maintains {p : Plane σ} {P : σ → Prop} (hp : p.Preserves P) (j : Provision)
    (c : Chain) : j.Maintains c p fun _ => P where
  create function k _ h w hw := by
    unfold Provision.create
    cases j.request function h k with
    | error e => exact hw
    | ok request =>
      have hw' := hp.create j.timeout k request w hw
      simp only [perform]
      cases (p.submit j.timeout (.create k) request w).1 <;> exact hw'
  delete k h w hw := by
    unfold Provision.delete
    cases h.get k with
    | none => exact hw
    | some name =>
      have hw' := hp.delete j.timeout k name w hw
      simp only [perform]
      cases (p.submit j.timeout (.delete k) { name, allowMissing := true } w).1 <;> exact hw'
  sweep _ _ hw := hw

/-! ## What was asked for -/

def Exchange.AsksFor (x : Exchange) (r : LiveResource) : Prop :=
  match x.call, x.request with
  | .create k, request => k = r.collection ∧ request.id = r.id
  | .delete _, _ => False

instance (x : Exchange) (r : LiveResource) : Decidable (x.AsksFor r) :=
  match x with
  | ⟨.create k, request, _⟩ => inferInstanceAs (Decidable (k = r.collection ∧ request.id = r.id))
  | ⟨.delete _, _, _⟩ => inferInstanceAs (Decidable False)

def LiveResource.AskedIn (r : LiveResource) (log : List Exchange) : Prop :=
  ∃ x ∈ log, x.AsksFor r

instance (r : LiveResource) (log : List Exchange) : Decidable (r.AskedIn log) :=
  inferInstanceAs (Decidable (∃ x ∈ log, x.AsksFor r))

theorem LiveResource.AskedIn.append {r : LiveResource} {log : List Exchange} (hr : r.AskedIn log)
    (more : List Exchange) : r.AskedIn (log ++ more) := by
  obtain ⟨x, hx, ha⟩ := hr
  exact ⟨x, List.mem_append_left _ hx, ha⟩

/-- The resources that are live and were asked for. -/
def orphans (live : Set LiveResource) (log : List Exchange) : Set LiveResource :=
  {r ∈ live | r.AskedIn log}

/-- What is created without an answer was asked for. -/
theorem Plane.Keeps.unseen_asked {p : Plane σ} {live unseen : σ → Set LiveResource}
    (hp : p.Keeps live unseen) :
    p.recorded.Preserves fun m => ∀ r ∈ unseen m.1, r.AskedIn m.2 where
  create timeout k request m hm := by
    obtain ⟨w, log⟩ := m
    simp only [Plane.recorded]
    generalize hs : p.submit timeout (.create k) request w = out
    obtain ⟨outcome, w'⟩ := out
    have hbefore : ∀ r ∈ unseen w, r.AskedIn (log ++ [⟨.create k, request, outcome⟩]) :=
      fun r hr => (hm r hr).append _
    by_cases ha : ∃ reply, outcome = .answered reply
    · obtain ⟨reply, rfl⟩ := ha
      rw [(hp.answered hs).2]
      exact hbefore
    · obtain ⟨-, hu⟩ | ⟨name, -, hu⟩ := hp.unanswered hs fun reply he => ha ⟨reply, he⟩
      · rw [hu]
        exact hbefore
      · rw [hu]
        rintro r (rfl | hr)
        · exact ⟨_, List.mem_append_right _ (List.mem_singleton_self _), rfl, rfl⟩
        · exact hbefore r hr
  delete timeout k name m hm := by
    obtain ⟨w, log⟩ := m
    obtain ⟨reply, w', hs, -, hu⟩ := hp.deleted timeout k name w
    simp only [Plane.recorded, hs, hu]
    exact fun r hr => (hm r hr).append _

/-- What a failed creation leaves of the resources that it asked for is just what was created without
an answer and is no namespace, so that it leaves nothing only if all that was created without an
answer is a namespace. -/
theorem Provision.orphans_of_connect {t : Transport} {c : Chain} (ht : t.chain? = some c)
    (j : Provision) {p : Plane σ} {live unseen : σ → Set LiveResource} (hp : p.Keeps live unseen)
    (params : ConnectParams) {w : σ} (hw : unseen w = ∅) :
    ∃ result h w' log, j.connect c p params .empty w = (result, h, w') ∧
      j.connect c p.recorded params .empty (w, []) = (result, h, w', log) ∧
      ((∃ e, result = .error e) → (∀ r ∈ live w, ¬r.AskedIn log) →
        orphans (live w') log = {r ∈ unseen w' | r.collection ≠ .namespace} ∧
        (orphans (live w') log = ∅ ↔ ∀ r ∈ unseen w', r.collection = .namespace)) := by
  have hplain := (Plane.recorded_over p).connect j c params .empty (w, [])
  have hasked := (hp.unseen_asked.maintains j c).connect params .empty (w, []) (by simp [hw])
  generalize j.connect c p.recorded params .empty (w, []) = out at hplain hasked
  obtain ⟨result, h, w', log⟩ := out
  refine ⟨result, h, w', log, hplain.symm, rfl, ?_⟩
  rintro ⟨e, rfl⟩ hnew
  have heq : orphans (live w') log = {r ∈ unseen w' | r.collection ≠ .namespace} := by
    cases params with
    | tcpPort port =>
      cases hplain
      ext r
      simp only [orphans, hw, Set.mem_ofPred_eq, Set.mem_empty_iff_false, false_and, iff_false]
      exact fun hr => hnew r hr.1 hr.2
    | pciFunction function =>
      obtain ⟨lost, h₁, w₁, hu, hcase⟩ :=
        hp.connect j (Transport.sound_of_chain? ht) function w
      obtain ⟨hrun, -⟩ | ⟨e', hrun, hsub, hstay, -⟩ := hcase
      · cases hplain.trans hrun
      · cases hplain.trans hrun
        rw [hw, Set.empty_union] at hu
        ext r
        constructor
        · rintro ⟨hr, ha⟩
          obtain hr | hr := hsub r hr
          · exact absurd ha (hnew r hr)
          · rwa [Set.mem_ofPred_eq, hu]
        · rintro ⟨hr, hns⟩
          exact ⟨hstay r (hu ▸ hr) hns, hasked r hr⟩
  refine ⟨heq, ?_⟩
  rw [heq, Set.eq_empty_iff_forall_notMem]
  simp only [Set.mem_ofPred_eq, not_and, not_not]

/-- When the answer to the namespace's creation is lost, nothing is left. -/
theorem Provision.orphans_of_lost_namespace :
    Transport.nvme.chain? = some .nvme ∧
    (Registry.losing .namespace).Keeps Registry.resources Registry.strays ∧
    Registry.neighbour.strays = ∅ ∧
    ∃ e h w' log, Registry.provision.connect .nvme (Registry.losing .namespace).recorded
        (.pciFunction 64) .empty (Registry.neighbour, []) = (.error e, h, w', log) ∧
      (∀ r ∈ Registry.neighbour.resources, ¬r.AskedIn log) ∧ w'.strays.Nonempty ∧
      orphans w'.resources log = ∅ := by
  have hp : (Registry.losing .namespace).Keeps Registry.resources Registry.strays :=
    Registry.plane_keeps _
  have hw : Registry.neighbour.strays = ∅ := by simp [Registry.strays, Registry.neighbour]
  obtain ⟨result, h, w', log, -, hrun, hcase⟩ :=
    Provision.orphans_of_connect (t := .nvme) rfl Registry.provision hp (.pciFunction 64) hw
  have he : result =
      .error (.rpc "CreateNvmeNamespace" "spdcksi-vol-1" (.noResponse (.ofSecs 60))) :=
    (congrArg Prod.fst hrun).symm.trans rfl
  have hlog : (Registry.provision.connect .nvme (Registry.losing .namespace).recorded
      (.pciFunction 64) .empty (Registry.neighbour, [])).2.2.2 = log := congrArg (·.2.2.2) hrun
  have hnew : ∀ r ∈ Registry.neighbour.live, ¬r.AskedIn log := by
    rw [← hlog]
    decide
  have hunseen : w'.unseen = [⟨.namespace, "spdcksi-vol-1", "spdcksi-vol-1",
      some "spdkcsi-vol-1"⟩] := (congrArg (·.2.2.1.unseen) hrun).symm.trans rfl
  have hstray (r : LiveResource) : r ∈ w'.strays ↔ r = ⟨.namespace, "spdcksi-vol-1",
      "spdcksi-vol-1", some "spdkcsi-vol-1"⟩ := by
    rw [Registry.strays, Set.mem_ofPred_eq, hunseen, List.mem_singleton]
  subst he
  refine ⟨rfl, hp, hw, _, h, w', log, hrun, hnew, ⟨_, (hstray _).2 rfl⟩, ?_⟩
  exact ((hcase ⟨_, rfl⟩ hnew).2).2 fun r hr => congrArg _ ((hstray r).1 hr)

/-- When the answer to the controller's creation is lost, the controller is left, on a control plane
on which nothing was live. -/
theorem Provision.orphan_of_lost_controller :
    (Registry.losing .controller).Keeps Registry.resources Registry.strays ∧
    ∃ e w' log r, Registry.provision.connect .nvme (Registry.losing .controller).recorded
        (.pciFunction 64) .empty ({}, []) = (.error e, .empty, w', log) ∧
      r ∈ w'.resources ∧ r.AskedIn log := by
  refine ⟨Registry.plane_keeps _,
    .rpc "CreateNvmeController" "spdkcsi-64" (.noResponse (.ofSecs 60)),
    ⟨[⟨.controller, "spdkcsi-64", "spdkcsi-64", none⟩],
      [⟨.controller, "spdkcsi-64", "spdkcsi-64", none⟩]⟩, _, _, rfl, List.mem_singleton_self _, ?_⟩
  decide

end OffloadVolume
