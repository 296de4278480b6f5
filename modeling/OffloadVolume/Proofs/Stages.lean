import OffloadVolume.Backend
import OffloadVolume.Proofs.Handles

/-!
# The stages of a chain

What the creation and the two ways of deletion of a chain have to do with each other. Main
statements: `Transport.sound_of_chain?`, the built-in chains are sound, and
`Provision.Maintains.connect` and `Provision.Maintains.disconnect`, what single requests keep is kept
by the creation and by the deletion of a chain.
-/

namespace OffloadVolume

namespace Handles

def Within (h : Handles) (ks : List Collection) : Prop := ∀ k name, h.get k = some name → k ∈ ks

theorem within_empty (ks : List Collection) : empty.Within ks := by
  intro k name hk
  rw [get_empty] at hk
  cases hk

theorem Within.set {h : Handles} {ks : List Collection} (hw : h.Within ks) {k : Collection}
    {name : Option String} (hk : name = none ∨ k ∈ ks) : (h.set k name).Within ks := by
  intro l text hl
  rw [get_set] at hl
  split at hl
  · rename_i hkl
    subst hkl
    exact hk.resolve_left fun hn => by rw [hn] at hl; cases hl
  · exact hw l text hl

theorem Within.clear {h : Handles} {ks : List Collection} (hw : h.Within ks)
    (ls : List Collection) : (h.clear ls).Within ks := by
  intro k name hk
  rw [get_clear] at hk
  split at hk
  · cases hk
  · exact hw k name hk

theorem clear_clear (h : Handles) (ks ls : List Collection) :
    (h.clear ks).clear ls = h.clear (ks ++ ls) := by
  rw [clear, clear, clear, List.foldl_append]

/-- Where names are only in some collections, to clear these leaves nothing. -/
theorem Within.clear_eq_empty {h : Handles} {ks ls : List Collection} (hw : h.Within ks)
    (hk : ∀ k ∈ ks, k ∈ ls) : h.clear ls = empty := by
  refine ext_get fun k => ?_
  rw [get_clear, get_empty]
  split
  · rfl
  · rename_i hl
    cases hg : h.get k with
    | none => rfl
    | some name => exact absurd (hk k (hw k name hg)) hl

end Handles

namespace Chain

def stages (c : Chain) : List Collection := c.first :: c.later

/-- How the orders of a chain fit together. -/
structure Sound (c : Chain) : Prop where
  nodup : c.stages.Nodup
  rollback_nodup : c.rollback.Nodup
  /-- All that is there when a stage fails is rolled back. -/
  rolledBack : ∀ k ∈ c.stages.dropLast, k ∈ c.rollback
  /-- All that is there in the end is deleted, or goes with what is. -/
  tornDown : ∀ k ∈ c.stages, k ∈ c.teardown ∨ k ∈ c.swept
  swept : ∀ k ∈ c.swept, k = .namespace
  /-- A namespace goes into the subsystem that is the first stage, and that is deleted either way. -/
  subsystem : .namespace ∈ c.stages →
    c.first = .subsystem ∧ .subsystem ∈ c.rollback ∧ .subsystem ∈ c.teardown
  /-- No stage after the first is a subsystem. -/
  subsystem_first : .subsystem ∉ c.later

/-- When all is deleted that is to be deleted, no name is left. -/
theorem Sound.clear_eq_empty {c : Chain} (hc : c.Sound) {h : Handles} (hw : h.Within c.stages) :
    (h.clear c.teardown).clear c.swept = .empty := by
  rw [Handles.clear_clear]
  exact hw.clear_eq_empty fun k hk => List.mem_append.2 (hc.tornDown k hk)

/-- How a chain's deletion can stop and go on: it deletes each resource once, the subsystem last, and
leaves the namespace, which is created last, to the subsystem. -/
structure Resumable (c : Chain) : Prop extends c.Sound where
  teardown_nodup : c.teardown.Nodup
  teardown_stages : ∀ k ∈ c.teardown, k ∈ c.stages
  subsystem_last : .subsystem ∉ c.teardown.dropLast
  namespace_last : .namespace ∉ c.stages.dropLast
  namespace_unsent : .namespace ∉ c.teardown

end Chain

/-- The creation of a stage, a deletion and the sweep keep what holds of the names that are recorded
and of the world. -/
structure Provision.Maintains {σ : Type} (j : Provision) (c : Chain) (p : Plane σ)
    (Q : Handles → σ → Prop) : Prop where
  create : ∀ function, ∀ k ∈ c.stages, ∀ h w, Q h w →
    Q (j.create p function k h w).2.1 (j.create p function k h w).2.2
  delete : ∀ k h w, Q h w → Q (j.delete p k h w).2.1 (j.delete p k h w).2.2
  sweep : ∀ h w, Q h w → Q (h.clear c.swept) w

namespace Provision.Maintains

variable {σ : Type} {j : Provision} {c : Chain} {p : Plane σ} {Q : Handles → σ → Prop}
  (hq : j.Maintains c p Q)

include hq

theorem createAll (function : Nat) {ks : List Collection} (hk : ∀ k ∈ ks, k ∈ c.stages)
    (h : Handles) (w : σ) (hw : Q h w) :
    Q (j.createAll p function ks h w).2.1 (j.createAll p function ks h w).2.2 := by
  induction ks generalizing h w with
  | nil => exact hw
  | cons k ks ih =>
    have hw₁ := hq.create function k (hk k List.mem_cons_self) h w hw
    rw [Provision.createAll]
    generalize j.create p function k h w = out at hw₁
    obtain ⟨_ | _, h₁, w₁⟩ := out
    · exact hw₁
    · exact ih (fun k hm => hk k (List.mem_cons_of_mem _ hm)) h₁ w₁ hw₁

theorem deleteAll (ks : List Collection) (h : Handles) (w : σ) (hw : Q h w) :
    Q (j.deleteAll p ks h w).2.1 (j.deleteAll p ks h w).2.2 := by
  induction ks generalizing h w with
  | nil => exact hw
  | cons k ks ih =>
    have hw₁ := hq.delete k h w hw
    rw [Provision.deleteAll]
    generalize j.delete p k h w = out at hw₁
    obtain ⟨_ | _, h₁, w₁⟩ := out
    · exact hw₁
    · exact ih h₁ w₁ hw₁

theorem deleteEach (ks : List Collection) (h : Handles) (w : σ) (hw : Q h w) :
    Q (j.deleteEach p ks h w).1 (j.deleteEach p ks h w).2 := by
  induction ks generalizing h w with
  | nil => exact hw
  | cons k ks ih => exact ih _ _ (hq.delete k h w hw)

/-- What single requests keep is kept by the creation of a chain, with its rollback. -/
theorem connect (params : ConnectParams) (h : Handles) (w : σ) (hw : Q h w) :
    Q (j.connect c p params h w).2.1 (j.connect c p params h w).2.2 := by
  unfold Provision.connect
  cases params.requireFunction with
  | error e => exact hw
  | ok function =>
    have hw₁ := hq.create function c.first List.mem_cons_self h w hw
    simp only []
    generalize j.create p function c.first h w = out at hw₁
    obtain ⟨_ | _, h₁, w₁⟩ := out
    · exact hw₁
    · have hlater : ∀ k ∈ c.later, k ∈ c.stages := fun k hk => List.mem_cons_of_mem _ hk
      have hw₂ := hq.createAll function hlater h₁ w₁ hw₁
      simp only []
      generalize j.createAll p function c.later h₁ w₁ = out at hw₂
      obtain ⟨_ | _, h₂, w₂⟩ := out
      · exact hq.deleteEach c.rollback h₂ w₂ hw₂
      · exact hw₂

/-- What single requests keep is kept by the deletion of a chain. -/
theorem disconnect (h : Handles) (w : σ) (hw : Q h w) :
    Q (j.disconnect c p h w).2.1 (j.disconnect c p h w).2.2 := by
  have hw₁ := hq.deleteAll c.teardown h w hw
  unfold Provision.disconnect
  generalize j.deleteAll p c.teardown h w = out at hw₁
  obtain ⟨_ | _, h₁, w₁⟩ := out
  · exact hw₁
  · exact hq.sweep h₁ w₁ hw₁

end Provision.Maintains

/-- Names are recorded only for the stages of the chain. -/
theorem Provision.maintains_within {σ : Type} (j : Provision) (c : Chain) (p : Plane σ) :
    j.Maintains c p fun h _ => h.Within c.stages where
  create function k hk h w hw := by
    unfold create
    cases j.request function h k with
    | error e => exact hw
    | ok request =>
      simp only []
      generalize p.perform j.timeout (.create k) request w = out
      obtain ⟨_ | _, w'⟩ := out
      · exact hw
      · exact hw.set (.inr hk)
  delete k h w hw := by
    unfold delete
    cases h.get k with
    | none => exact hw
    | some name =>
      simp only []
      generalize p.perform j.timeout (.delete k) { name, allowMissing := true } w = out
      obtain ⟨_ | _, w'⟩ := out
      · exact hw
      · exact hw.set (.inl rfl)
  sweep _ _ hw := hw.clear c.swept

section

variable {σ : Type} {j : Provision} {c : Chain} {p : Plane σ} {h h' : Handles} {w w' : σ}
  {result : Except AttachError Unit}

theorem Provision.within_of_connect {params : ConnectParams} (hw : h.Within c.stages)
    (hrun : j.connect c p params h w = (result, h', w')) : h'.Within c.stages := by
  have hkept := (j.maintains_within c p).connect params h w hw
  rwa [hrun] at hkept

theorem Provision.within_of_disconnect (hw : h.Within c.stages)
    (hrun : j.disconnect c p h w = (result, h', w')) : h'.Within c.stages := by
  have hkept := (j.maintains_within c p).disconnect h w hw
  rwa [hrun] at hkept

end

/-- The chains behind the transports are sound. -/
theorem Transport.sound_of_chain? {t : Transport} {c : Chain} (ht : t.chain? = some c) :
    c.Sound := by
  cases t <;> cases ht <;> constructor <;> decide

/-- The deletion of the chains behind the transports can stop and go on. -/
theorem Transport.resumable_of_chain? {t : Transport} {c : Chain} (ht : t.chain? = some c) :
    c.Resumable where
  toSound := sound_of_chain? ht
  teardown_nodup := by cases t <;> cases ht <;> decide
  teardown_stages := by cases t <;> cases ht <;> decide
  subsystem_last := by cases t <;> cases ht <;> decide
  namespace_last := by cases t <;> cases ht <;> decide
  namespace_unsent := by cases t <;> cases ht <;> decide

end OffloadVolume
