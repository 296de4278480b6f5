import OffloadVolume.Proofs.Inventory
import OffloadVolume.Proofs.Transaction

/-!
# Chains on a control plane that keeps resources

A chain that is in place is recorded, live, and apart from everything else that is live. Main
statements: `Plane.Keeps.connect`, a creation puts the chain in place or leaves nothing of it but
what was created unseen, and `Plane.Keeps.disconnect`, a deletion leaves the rest.
-/

namespace OffloadVolume

namespace LiveResource

def handles (made : List LiveResource) : Handles := Handles.empty.record (made.map entry)

theorem get_handles {made : List LiveResource} (hn : (made.map (·.collection)).Nodup)
    (k : Collection) (name : String) :
    (handles made).get k = some name ↔ ∃ r ∈ made, r.collection = k ∧ r.name = name := by
  have hn : ((made.map entry).map Prod.fst).Nodup := by rwa [List.map_map]
  rw [handles, Handles.get_record_empty hn]
  simp [entry]

theorem within_handles {made : List LiveResource} (hn : (made.map (·.collection)).Nodup) :
    (handles made).Within (made.map (·.collection)) := by
  intro k name hk
  obtain ⟨r, hr, rfl, -⟩ := (get_handles hn k name).1 hk
  exact List.mem_map_of_mem hr

end LiveResource

namespace Chain

/-- A chain is in place: its resources, one for each stage, are recorded, and they are live besides
the resources of `others`, none of which goes with them. -/
structure InPlace (c : Chain) (others : Set LiveResource) (made : List LiveResource) (h : Handles)
    (live : Set LiveResource) : Prop where
  stages : made.map (·.collection) = c.stages
  recorded : ∀ k name, h.get k = some name ↔ ∃ r ∈ made, r.collection = k ∧ r.name = name
  live_eq : live = others ∪ {r | r ∈ made}
  apart : ∀ r ∈ made, ∀ x ∈ others, ¬x.GoesWith r.collection r.name
  parent : ∀ r ∈ made, r.collection = .namespace → r.parent = h.subsystem

/-- What is recorded is what has to be deleted for `others` to be left. -/
structure Restores (c : Chain) (others : Set LiveResource) (h : Handles)
    (live : Set LiveResource) : Prop where
  left : {r ∈ live | ¬h.Covers c.teardown r} = others
  within : h.Within c.stages

variable {c : Chain} {others live : Set LiveResource} {made : List LiveResource} {h : Handles}

/-- What was made is new. -/
theorem InPlace.not_mem (hp : c.InPlace others made h live) {r : LiveResource} (hr : r ∈ made) :
    r ∉ others := fun hx => hp.apart r hr r hx r.goesWith_self

theorem restores_empty (c : Chain) (others : Set LiveResource) :
    c.Restores others .empty others where
  left := by simp [Handles.Covers]
  within := Handles.within_empty _

/-- When a chain is in place, what is recorded is what has to be deleted for the others to be left.
-/
theorem InPlace.restores (hc : c.Sound) (hp : c.InPlace others made h live) :
    c.Restores others h live where
  within k name hk := by
    obtain ⟨r, hr, rfl, -⟩ := (hp.recorded k name).1 hk
    exact hp.stages ▸ List.mem_map_of_mem hr
  left := by
    ext r
    rw [Set.mem_ofPred_eq, hp.live_eq]
    constructor
    · rintro ⟨hr | hr, hcov⟩
      · exact hr
      · refine absurd ?_ hcov
        have hst : r.collection ∈ c.stages := hp.stages ▸ List.mem_map_of_mem hr
        obtain ht | hs := hc.tornDown _ hst
        · exact Handles.covers_of_recorded ht ((hp.recorded _ _).2 ⟨r, hr, rfl, rfl⟩)
        · have hns := hc.swept _ hs
          obtain ⟨hfirst, -, hdel⟩ := hc.subsystem (hns ▸ hst)
          have hsub : .subsystem ∈ made.map (·.collection) := by
            rw [hp.stages, ← hfirst]
            exact List.mem_cons_self
          obtain ⟨x, hx, hxk⟩ := List.mem_map.1 hsub
          have hg := (hp.recorded .subsystem x.name).2 ⟨x, hx, hxk, rfl⟩
          exact Handles.covers_of_parent hdel hns (hp.parent r hr hns) hg
    · intro hr
      refine ⟨.inl hr, ?_⟩
      rintro ⟨k, -, name, hg, hgo⟩
      obtain ⟨x, hx, rfl, rfl⟩ := (hp.recorded k name).1 hg
      exact hp.apart x hx r hr hgo

/-- When a stage fails, what was made goes, and so does a namespace that was created unseen. -/
theorem Sound.rollback (hc : c.Sound) {lost : Set LiveResource} {k : Collection}
    {rest : List Collection} (hks : c.stages = made.map (·.collection) ++ k :: rest)
    (hlost : ∀ r ∈ lost, r.collection = k)
    (hpar : ∀ r ∈ lost, r.collection = .namespace →
      r.parent = (LiveResource.handles made).subsystem) :
    (∀ r ∈ made, (LiveResource.handles made).Covers c.rollback r) ∧
    (∀ r ∈ lost, (LiveResource.handles made).Covers c.rollback r ↔ r.collection = .namespace) ∧
    (LiveResource.handles made).clear c.rollback = .empty := by
  have hn : (made.map (·.collection) ++ k :: rest).Nodup := hks ▸ hc.nodup
  have hget := LiveResource.get_handles hn.of_append_left
  have hback : ∀ l ∈ made.map (·.collection), l ∈ c.rollback := by
    intro l hl
    refine hc.rolledBack l ?_
    rw [hks, List.dropLast_append_cons]
    exact List.mem_append_left _ hl
  refine ⟨fun r hr => ?_, fun r hr => ?_, ?_⟩
  · exact Handles.covers_of_recorded (hback _ (List.mem_map_of_mem hr))
      ((hget _ _).2 ⟨r, hr, rfl, rfl⟩)
  · constructor
    · rintro ⟨l, -, name, hg, ⟨rfl, -⟩ | ⟨-, hns, -⟩⟩
      · obtain ⟨x, hx, hxk, -⟩ := (hget _ _).1 hg
        have hk : k ∈ made.map (·.collection) := (hlost r hr) ▸ hxk ▸ List.mem_map_of_mem hx
        exact absurd rfl ((List.nodup_append.1 hn).2.2 k hk k List.mem_cons_self)
      · exact hns
    · intro hns
      -- The subsystem is the first stage, so that it was made before the namespace failed.
      have hk : k = .namespace := (hlost r hr).symm.trans hns
      obtain ⟨hfirst, hdel, -⟩ := hc.subsystem (by rw [hks, hk]; simp)
      rw [Chain.stages, hfirst, hk] at hks
      cases made with
      | nil => cases hks
      | cons x made =>
        have hx : x.collection = .subsystem := (List.cons.inj hks).1.symm
        have hg := (hget .subsystem x.name).2 ⟨x, List.mem_cons_self, hx, rfl⟩
        exact Handles.covers_of_parent hdel hns (hpar r hr hns) hg
  · exact (LiveResource.within_handles hn.of_append_left).clear_eq_empty hback

end Chain

namespace Plane.Keeps

variable {σ : Type} {p : Plane σ} {live unseen : σ → Set LiveResource} (hp : p.Keeps live unseen)
  (j : Provision) {c : Chain} (hc : c.Sound)

include hp hc

/-- A chain is deleted as a whole. -/
theorem disconnect {others : Set LiveResource} {h : Handles} {w : σ}
    (hr : c.Restores others h (live w)) :
    ∃ w', j.disconnect c p h w = (.ok (), .empty, w') ∧ live w' = others ∧
      unseen w' = unseen w := by
  obtain ⟨w', hall, hl, hu⟩ := hp.deleteAll j c.teardown h w
  refine ⟨w', ?_, hl.trans hr.left, hu⟩
  rw [Provision.disconnect, hall]
  simp only [hc.clear_eq_empty hr.within]

/-- The creation of a chain puts it in place, or leaves nothing of it but what was created unseen. -/
theorem connect (function : Nat) (w : σ) :
    ∃ (lost : Set LiveResource) (h : Handles) (w' : σ), unseen w' = unseen w ∪ lost ∧
      (j.connect c p (.pciFunction function) .empty w = (.ok (), h, w') ∧ lost = ∅ ∧
          (p.NamesFreshly live → ∃ made, c.InPlace (live w) made h (live w') ∧
            ∀ r ∈ made, j.Requests function r) ∨
        ∃ e, j.connect c p (.pciFunction function) .empty w = (.error e, .empty, w') ∧
          (∀ r ∈ live w', r ∈ live w ∨ r ∈ lost ∧ r.collection ≠ .namespace) ∧
          (∀ r ∈ lost, r.collection ≠ .namespace → r ∈ live w') ∧
          (p.NamesFreshly live → live w ⊆ live w')) := by
  have hsub : .subsystem ∉ c.stages.tail := hc.subsystem_first
  obtain ⟨made, lost, result, w₁, hall, hl, hu, hpar, hasked, hnew, hcase⟩ :=
    hp.createAll j function hsub .empty w
  have hconnect := j.connect_empty p c function w
  rw [← Chain.stages, hall] at hconnect
  obtain ⟨rfl, hks, rfl⟩ | ⟨k, rest, e, rfl, hks, hlost⟩ := hcase
  · have hn : (made.map (·.collection)).Nodup := hks ▸ hc.nodup
    have hplace (hfresh : p.NamesFreshly live) :
        c.InPlace (live w) made (LiveResource.handles made) (live w₁) := {
      stages := hks
      recorded := LiveResource.get_handles hn
      live_eq := hl.trans (Set.union_empty _)
      apart := hnew hfresh
      parent := fun r hr => hpar r (.inl hr) }
    exact ⟨∅, LiveResource.handles made, w₁, hu,
      .inl ⟨hconnect, rfl, fun hfresh => ⟨made, hplace hfresh, hasked⟩⟩⟩
  · obtain ⟨hmade, hgone, hempty⟩ := hc.rollback hks hlost fun r hr => hpar r (.inr hr)
    obtain ⟨w₂, hdel, hl₂, hu₂⟩ := hp.deleteAll j c.rollback (LiveResource.handles made) w₁
    rw [hempty] at hdel
    refine ⟨lost, .empty, w₂, hu₂.trans hu, .inr ⟨e, ?_, ?_, ?_, ?_⟩⟩
    · rw [hconnect]
      exact congrArg (Prod.mk _) (j.deleteEach_of_deleteAll p hdel)
    · intro r hr
      rw [hl₂, hl] at hr
      obtain ⟨(hr | hr) | hr, hcov⟩ := hr
      · exact .inl hr
      · exact absurd (hmade r hr) hcov
      · exact .inr ⟨hr, fun hns => hcov ((hgone r hr).2 hns)⟩
    · intro r hr hns
      rw [hl₂, hl]
      exact ⟨.inr hr, fun hcov => hns ((hgone r hr).1 hcov)⟩
    · intro hfresh x hx
      rw [hl₂, hl]
      refine ⟨.inl (.inl hx), ?_⟩
      rintro ⟨k, -, name, hg, hgo⟩
      have hn := (hks ▸ hc.nodup : (made.map (·.collection) ++ _).Nodup).of_append_left
      obtain ⟨r, hr, rfl, rfl⟩ := (LiveResource.get_handles hn k name).1 hg
      exact hnew hfresh r hr x hx hgo

end Plane.Keeps

namespace Plane.Faithful

variable {σ : Type} {p : Plane σ} {live : σ → Set LiveResource} (hp : p.Faithful live)
  {j : Provision} {c : Chain} (hc : c.Sound) {h : Handles} {w w' : σ}
  {result : Except AttachError Unit}

include hp hc

/-- On a faithful control plane the creation of a chain puts it in place, or changes nothing. -/
theorem connect {params : ConnectParams}
    (hrun : j.connect c p params .empty w = (result, h, w')) :
    (∃ e, result = .error e ∧ h = .empty ∧ live w' = live w) ∨
    result = .ok () ∧ ∃ function made, params = .pciFunction function ∧
      c.InPlace (live w) made h (live w') ∧ ∀ r ∈ made, j.Requests function r := by
  cases params with
  | tcpPort port =>
    cases hrun
    exact .inl ⟨_, rfl, rfl, rfl⟩
  | pciFunction function =>
    obtain ⟨lost, h₁, w₁, hu, hcase⟩ := hp.toKeeps.connect j hc function w
    obtain ⟨hd, -, hplace⟩ | ⟨e, hd, hsub, -, hsup⟩ := hcase
    · cases hd.symm.trans hrun
      obtain ⟨made, hplace, hasked⟩ := hplace hp.fresh
      exact .inr ⟨rfl, function, made, rfl, hplace, hasked⟩
    · cases hd.symm.trans hrun
      have hlost : lost = ∅ := by simpa using hu.symm
      refine .inl ⟨e, rfl, rfl, Set.Subset.antisymm ?_ (hsup hp.fresh)⟩
      intro r hr
      obtain hr | ⟨hr, -⟩ := hsub r hr
      · exact hr
      · rw [hlost] at hr
        cases hr

/-- On a faithful control plane a chain is deleted as a whole. -/
theorem disconnect {others : Set LiveResource} (hr : c.Restores others h (live w)) {h' : Handles}
    (hrun : j.disconnect c p h w = (result, h', w')) : h' = .empty ∧ live w' = others := by
  obtain ⟨w₁, hd, hl, -⟩ := hp.toKeeps.disconnect j hc hr
  cases hd.symm.trans hrun
  exact ⟨rfl, hl⟩

end Plane.Faithful
end OffloadVolume
