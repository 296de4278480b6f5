import OffloadVolume.Proofs.Orphans
import OffloadVolume.Proofs.Teardown
import OffloadVolume.Rehearsal.Plane

/-!
# Inputs that are found wrong

A wrong input is found when the request that needs it is made, which may be after others were sent.
Main statement: `Provision.silent_iff`, it is found before anything is sent exactly if the first stage
cannot be asked for, or all later stages can.
-/

namespace OffloadVolume

/-! ## Wrong inputs -/

theorem isConfig_or {reason other : Option AttachError} (hr : ∀ e ∈ reason, e.isConfig = true)
    (ho : ∀ e ∈ other, e.isConfig = true) : ∀ e ∈ reason.or other, e.isConfig = true := by
  cases reason with
  | none => exact ho
  | some e => exact hr

theorem VolumeContext.isConfig_missing (v : VolumeContext) (key : String) :
    ∀ e ∈ v.missing? key, e.isConfig = true := by
  intro e he
  simp only [missing?] at he
  split at he
  · cases he
    rfl
  · cases he

namespace Provision

theorem isConfig_outOfRange (function : Nat) : ∀ e ∈ outOfRange? function, e.isConfig = true := by
  intro e he
  simp only [outOfRange?] at he
  split at he
  · cases he
    rfl
  · cases he

variable (j : Provision)

theorem isConfig_badPort : ∀ e ∈ j.badPort?, e.isConfig = true := by
  intro e he
  simp only [badPort?] at he
  split at he
  · split at he
    · cases he
      rfl
    · cases he
  · cases he

/-- A request that is not made is one for a wrong input. -/
theorem isConfig_refusal (function : Nat) (k : Collection) :
    ∀ e ∈ j.refusal function k, e.isConfig = true := by
  have hmissing := j.volume.isConfig_missing
  cases k with
  | subsystem | «namespace» => exact hmissing _
  | controller => exact isConfig_outOfRange function
  | virtioBlk => exact isConfig_or (hmissing _) (isConfig_outOfRange function)
  | remote =>
    have htarget := isConfig_or (hmissing "targetAddr") (hmissing "nqn")
    have hport := isConfig_or (hmissing "targetPort") (isConfig_or j.isConfig_badPort htarget)
    exact isConfig_or (hmissing "model") hport

/-- A creation fails for a wrong input when its request is not made. -/
theorem Fails.unasked_of_isConfig {function : Nat} {k : Collection} {attempt : List Exchange}
    {e : AttachError} (hf : j.Fails function k attempt e) (he : e.isConfig = true) :
    attempt = [] ∧ j.refusal function k = some e := by
  cases hf with
  | unasked hr => exact ⟨rfl, hr⟩
  | refused _ => cases he
  | late _ => cases he

/-! ## What was sent before -/

variable {σ : Type} {c : Chain} (p : Plane σ)

/-- When a creation fails for a wrong input, what was sent is the creation of all stages before the one
that needs the input, and their rollback. -/
theorem connect_of_isConfig (hc : c.Sound) {function : Nat} {w w' : σ} {e : AttachError}
    {h : Handles} {exchanges : List Exchange}
    (hrun : j.connect c p.recorded (.pciFunction function) .empty (w, []) =
      (.error e, h, w', exchanges)) (he : e.isConfig = true) :
    ∃ made k rest creates deletes, c.stages = made.map Prod.fst ++ k :: rest ∧
      j.refusal function k = some e ∧ exchanges = creates ++ deletes ∧
      List.Forall₂ (Exchange.Creates j function) creates made ∧
      List.Forall₂ Exchange.Deletes deletes
        ((Handles.empty.record made).recordedIn c.rollback) := by
  obtain ⟨made, creates, w₁, hcr, hcase⟩ := j.connect_cases p hc.rollback_nodup function w
  obtain ⟨-, hconnect⟩ | ⟨k, rest, attempt, deletes, e', hks, hf, hd, hconnect⟩ := hcase
  · cases hconnect.symm.trans hrun
  · cases hconnect.symm.trans hrun
    obtain ⟨rfl, hr⟩ := hf.unasked_of_isConfig j he
    exact ⟨made, k, rest, creates, deletes, hks, hr, by rw [List.append_nil], hcr, hd⟩

/-- What was created could be asked for. -/
theorem refusal_of_made {function : Nat} {creates : List Exchange}
    {made : List (Collection × String)}
    (hcr : List.Forall₂ (Exchange.Creates j function) creates made) :
    ∀ m ∈ made, j.refusal function m.1 = none := by
  intro m hm
  obtain ⟨x, -, h, request, reply, hr, -⟩ := Exchange.exists_exchange hcr hm
  exact j.refusal_of_request hr

/-- Whatever the control plane answers, a creation that fails for a wrong input has sent nothing. -/
def Silent (c : Chain) (function : Nat) : Prop :=
  ∀ (σ : Type) (p : Plane σ) (w w' : σ) (e : AttachError) (h : Handles) (exchanges : List Exchange),
    j.connect c p.recorded (.pciFunction function) .empty (w, []) = (.error e, h, w', exchanges) →
    e.isConfig = true → exchanges = []

end Provision

def Plane.answering : Plane Unit where
  submit _ c request w := (.answered (CallScript.reply {} c request), w)

theorem Plane.answering_preserves :
    Plane.answering.recorded.Preserves fun m => ∀ x ∈ m.2, x.answered = true where
  create _ _ _ m hm := by
    intro x hx
    obtain hx | hx := List.mem_append.1 hx
    · exact hm x hx
    · rw [List.mem_singleton.1 hx]
      rfl
  delete _ _ _ m hm := by
    intro x hx
    obtain hx | hx := List.mem_append.1 hx
    · exact hm x hx
    · rw [List.mem_singleton.1 hx]
      rfl

namespace Provision

variable (j : Provision) {c : Chain}

/-- If the first stage can be asked for, but a later one cannot, something is sent before that is
found. -/
theorem not_silent (hc : c.Sound) {function : Nat} (hfirst : j.refusal function c.first = none)
    {k : Collection} (hk : k ∈ c.later) {e : AttachError} (he : j.refusal function k = some e) :
    ¬j.Silent c function := by
  intro hs
  obtain ⟨made, creates, w', hcr, hcase⟩ :=
    j.connect_cases Plane.answering hc.rollback_nodup function ()
  have hasked := j.refusal_of_made hcr
  obtain ⟨hks, -⟩ | ⟨l, rest, attempt, deletes, e', hks, hf, -, hrun⟩ := hcase
  · have hmem : k ∈ made.map Prod.fst := hks ▸ List.mem_cons_of_mem _ hk
    obtain ⟨m, hm, rfl⟩ := List.mem_map.1 hmem
    cases (hasked m hm).symm.trans he
  · have hall := (Plane.answering_preserves.maintains j c).connect (.pciFunction function) .empty
      ((), []) (List.forall_mem_nil _)
    rw [hrun] at hall
    have hnone : attempt = [] := by
      cases attempt with
      | nil => rfl
      | cons x attempt =>
        have ha := hf.unanswered j x List.mem_cons_self
        cases ha.symm.trans (hall x (by simp))
    subst hnone
    cases hf with
    | unasked hl =>
      have hconfig := j.isConfig_refusal function l e' hl
      have hempty := hs Unit Plane.answering () w' e' _ _ hrun hconfig
      simp only [List.append_nil, List.append_eq_nil_iff] at hempty
      obtain ⟨rfl, rfl⟩ := hempty
      cases hcr
      obtain ⟨hl', -⟩ := List.cons.inj hks
      cases (hl' ▸ hfirst).symm.trans hl

/-- A wrong input is found before anything is sent exactly if the first stage cannot be asked for, or
all the others can. -/
theorem silent_iff {t : Transport} (ht : t.chain? = some c) (function : Nat) :
    j.Silent c function ↔
      j.refusal function c.first ≠ none ∨ ∀ k ∈ c.later, j.refusal function k = none := by
  have hc := Transport.sound_of_chain? ht
  constructor
  · intro hs
    by_contra hn
    simp only [not_or, not_not, not_forall] at hn
    obtain ⟨hfirst, k, hk, hne⟩ := hn
    obtain ⟨e, he⟩ := Option.ne_none_iff_exists'.1 hne
    exact j.not_silent hc hfirst hk he hs
  · intro hgood σ p w w' e h exchanges hrun he
    obtain ⟨made, k, rest, creates, deletes, hks, hr, rfl, hcr, hd⟩ :=
      j.connect_of_isConfig p hc hrun he
    cases hcr with
    | nil =>
      rw [show Handles.empty.record [] = .empty from rfl, Handles.recordedIn_empty] at hd
      cases hd
      rfl
    | @cons x m creates made hx hcr =>
      -- The first stage was created, and a later one could not be asked for.
      obtain ⟨hm, hlater⟩ := List.cons.inj hks
      have hfirst := j.refusal_of_made (.cons hx hcr) m List.mem_cons_self
      rw [← hm] at hfirst
      obtain hbad | hgood := hgood
      · exact absurd hfirst hbad
      · have hk : k ∈ c.later := by
          rw [hlater]
          exact List.mem_append_right _ List.mem_cons_self
        cases (hgood k hk).symm.trans hr

def portless : Provision where
  volume := ⟨[("model", "vol-1"), ("targetAddr", "10.0.0.2"),
    ("nqn", "nqn.2016-06.io.spdk:cnode1")]⟩
  naming := {}
  timeout := .ofSecs 60

/-- Behind a virtio-blk function, the missing port is found first. -/
theorem silent_of_portless_virtioBlk :
    Transport.virtioBlk.chain? = some .virtioBlk ∧ portless.Silent .virtioBlk 64 ∧
    (portless.connect .virtioBlk Plane.answering (.pciFunction 64) .empty ()).1 =
      .error (.invalidArgument (.missingKey "targetPort")) := by
  have hfirst : portless.refusal 64 Chain.virtioBlk.first ≠ none := by decide
  exact ⟨rfl, (portless.silent_iff (t := .virtioBlk) rfl 64).2 (.inl hfirst), rfl⟩

/-- Behind an NVMe function, it is found when a subsystem and a controller were created already. -/
theorem not_silent_of_portless_nvme :
    ¬portless.Silent .nvme 64 ∧
    ∃ e h w' exchanges, portless.connect .nvme Plane.answering.recorded (.pciFunction 64) .empty
        ((), []) = (.error e, h, w', exchanges) ∧
      e = .invalidArgument (.missingKey "targetPort") ∧ e.isConfig = true ∧
      exchanges.map (·.call) =
        [.create .subsystem, .create .controller, .delete .subsystem, .delete .controller] := by
  refine ⟨fun hs => ?_, _, _, _, _, rfl, rfl, rfl, rfl⟩
  have hnone := hs Unit Plane.answering () () _ _ _ rfl rfl
  cases hnone

end Provision
end OffloadVolume
