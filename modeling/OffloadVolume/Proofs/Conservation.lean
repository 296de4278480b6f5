import OffloadVolume.Proofs.Attachment
import OffloadVolume.Proofs.Compensation
import OffloadVolume.Proofs.Registry
import OffloadVolume.Proofs.Restoration

/-!
# Attachments and detachments leave a control plane as it was

On a control plane that keeps its resources faithfully, an attachment adds the resources of its chain
or nothing, and a detachment takes them away again. Main statement: `Initiator.conserved_of_connect`.
-/

namespace OffloadVolume.Initiator

variable {α σ : Type}

/-- The event is no attachment, and no change by others to a part of the world. -/
def Event.Leaves (e : Event σ) (f : σ → α) : Prop :=
  match e with
  | .attach => False
  | .detach => True
  | .change g => ∀ w, f (g w) = f w

/-- What a record, the result and what is left of an attachment with nothing recorded tell about the
resources that are live, of which there were `before` at first. -/
structure Conserved (i : Initiator) (c : Chain) (j : Provision) (p : Plane σ) (h : Host σ)
    (live : σ → Set LiveResource) (before : Set LiveResource) (log : List Report)
    (result : Except AttachError String) (s : State Handles) (w : σ) : Prop where
  /-- A failed attachment leaves nothing behind. -/
  failed : (∃ e, result = .error e) → live w = before ∧ s.backend = .empty
  /-- An attachment on a function that was handed out adds the resources of the chain, which are
  new, under the ids that are asked for on that function. -/
  attached : ∀ n slot path, ⟨.allocate n, .ok slot⟩ ∈ log → result = .ok path →
    ∃ made, c.InPlace before made s.backend (live w) ∧
      ∀ r ∈ made, r ∉ before ∧ j.Requests slot.function r
  /-- Whatever comes after an attachment and leaves the control plane to the initiator, a detachment
  that gets as far as the backend takes away what was added. -/
  detached : ∀ path, result = .ok path → ∀ events : List (Event σ), (∀ e ∈ events, e.Leaves live) →
    ∀ s₁ w₁, i.run (c.backend j p) h events (s, w) = (s₁, w₁) → ∀ answer s₂ w₂ log',
      i.disconnect (c.backend j p).recorded h.recorded s₁ (w₁, []) = (answer, s₂, w₂, log') →
        (∃ x ∈ log', x.step = .backendDisconnect) → live w₂ = before ∧ s₂.backend = .empty

variable {i : Initiator} {c : Chain} {j : Provision} {p : Plane σ} {h : Host σ}
  {live : σ → Set LiveResource} {others : Set LiveResource}

section

variable (hc : c.Sound) (hp : p.Faithful live) (hh : h.Leaves live)

include hc hp hh

/-- A detachment takes away what is recorded, or leaves everything. -/
theorem restores_disconnect {s s' : State Handles} {w w' : σ} {log : List Report}
    {answer : Except AttachError Unit} (hr : c.Restores others s.backend (live w))
    (hrun : i.disconnect (c.backend j p).recorded h.recorded s (w, []) = (answer, s', w', log)) :
    c.Restores others s'.backend (live w') ∧
      ((∃ x ∈ log, x.step = .backendDisconnect) → live w' = others ∧ s'.backend = .empty) := by
  have hde := disconnect_detaching hh hrun
  generalize s'.backend = kept at hde ⊢
  cases hde with
  | unasked hlog hf =>
    refine ⟨hf ▸ hr, ?_⟩
    rintro ⟨x, hx, hstep⟩
    exact absurd hstep (hlog x hx)
  | asked _ hbefore hdisconnect hf =>
    obtain ⟨rfl, hl⟩ := hp.disconnect hc (hbefore ▸ hr) hdisconnect
    have hlive : live w' = others := hf.trans hl
    exact ⟨hlive ▸ Chain.restores_empty c others, fun _ => ⟨hlive, rfl⟩⟩

/-- Whatever happens but an attachment, what is recorded stays what has to be deleted. -/
theorem restores_step {e : Event σ} (he : e.Leaves live) {m : State Handles × σ}
    (hr : c.Restores others m.1.backend (live m.2)) :
    c.Restores others (i.step (c.backend j p) h m e).1.backend
      (live (i.step (c.backend j p) h m e).2) := by
  obtain ⟨s, w⟩ := m
  cases e with
  | attach => exact he.elim
  | detach =>
    obtain ⟨answer, s', w', log, hplain, hrun⟩ := i.disconnect_recorded (c.backend j p) h s w
    rw [step, hplain]
    exact (restores_disconnect hc hp hh hr hrun).1
  | change g =>
    rw [step, show live (g w) = live w from he w]
    exact hr

/-- Until a detachment gets as far as the backend, what is recorded is what has to be deleted. -/
theorem restores_run {events : List (Event σ)} (he : ∀ e ∈ events, e.Leaves live)
    {m : State Handles × σ} (hr : c.Restores others m.1.backend (live m.2)) :
    c.Restores others (i.run (c.backend j p) h events m).1.backend
      (live (i.run (c.backend j p) h events m).2) :=
  i.run_invariant (c.backend j p) h (P := fun m => c.Restores others m.1.backend (live m.2))
    (fun e hmem _ hm => restores_step hc hp hh (he e hmem) hm) hr

/-- After an attachment either nothing has changed, or the chain is in place and the attachment
succeeded. -/
theorem connect_conserves {s s' : State Handles} (hs : s.backend = .empty) {w w' : σ}
    {log : List Report} {result : Except AttachError String}
    (hrun : i.connect (c.backend j p).recorded h.recorded s (w, []) = (result, s', w', log)) :
    (live w' = live w ∧ s'.backend = .empty ∧
      ((∃ path, result = .ok path) → ∀ x ∈ log, ∀ params, x.step ≠ .backendConnect params)) ∨
    (∃ path, result = .ok path) ∧ ∃ function made,
      ⟨.backendConnect (.pciFunction function), .ok ()⟩ ∈ log ∧
      c.InPlace (live w) made s'.backend (live w') ∧ ∀ r ∈ made, j.Requests function r := by
  have hat := connect_attaching hh hrun
  rw [hs] at hat
  generalize s'.backend = kept at hat ⊢
  cases hat with
  | unasked hlog hf => exact .inl ⟨hf, rfl, fun _ => hlog⟩
  | refused _ hbefore hconnect hf =>
    obtain ⟨_, -, rfl, hl⟩ | ⟨hok, -⟩ := hp.connect hc hconnect
    · exact .inl ⟨hf.trans (hl.trans hbefore), rfl, by simp⟩
    · cases hok
  | attached hlog hbefore hconnect hf =>
    obtain ⟨_, he, -⟩ | ⟨-, function, made, rfl, hplace, hasked⟩ := hp.connect hc hconnect
    · cases he
    · rw [hbefore, ← hf] at hplace
      exact .inr ⟨⟨_, rfl⟩, function, made, hlog, hplace, hasked⟩
  | undone _ hbefore hconnect hwait hdisconnect hf =>
    obtain ⟨_, he, -⟩ | ⟨-, function, made, rfl, hplace, -⟩ := hp.connect hc hconnect
    · cases he
    · rw [hbefore, ← hwait] at hplace
      obtain ⟨rfl, hl⟩ := hp.disconnect hc (hplace.restores hc) hdisconnect
      exact .inl ⟨hf.trans hl, rfl, by simp⟩

end

/-- Attach and detach leave the control plane as it was, whatever stage of the chain fails and
whatever the host answers. -/
theorem conserved_of_connect {t : Transport} (ht : t.chain? = some c) (i : Initiator)
    (j : Provision) (hp : p.Faithful live) (hh : h.Leaves live) {s : State Handles}
    (hs : s.backend = .empty) (w : σ) :
    ∃ result s' w' log, i.connect (c.backend j p) h s w = (result, s', w') ∧
      i.connect (c.backend j p).recorded h.recorded s (w, []) = (result, s', w', log) ∧
      i.Conserved c j p h live (live w) log result s' w' := by
  have hc := Transport.sound_of_chain? ht
  obtain ⟨result, s', w', log, hplain, hrun⟩ := i.connect_recorded (c.backend j p) h s w
  refine ⟨result, s', w', log, hplain, hrun, ?_⟩
  have hcomp := (i.course_of_connect (c.backend j p) h s w).compensated
  rw [hrun] at hcomp
  have hslot {n : Nat} {slot : PciSlot} (ha : ⟨.allocate n, .ok slot⟩ ∈ log) {x : Report}
      (hx : x ∈ log) {params : ConnectParams} (hstep : x.step = .backendConnect params) :
      params = .pciFunction slot.function := by
    rw [((hcomp.slot_used slot n ha).2 x hx).1 params hstep, PciSlot.function, Nat.mul_comm]
    rfl
  have hcase := connect_conserves hc hp hh hs hrun
  constructor
  · rintro ⟨e, rfl⟩
    obtain ⟨hlive, hempty, -⟩ | ⟨⟨path, hok⟩, -⟩ := hcase
    · exact ⟨hlive, hempty⟩
    · cases hok
  · rintro n slot path ha rfl
    obtain ⟨-, -, hnone⟩ | ⟨-, function, made, hlog, hplace, hasked⟩ := hcase
    · obtain ⟨shown, hx, -⟩ := (hcomp.slot_used slot n ha).1
      exact absurd rfl (hnone ⟨path, rfl⟩ _ hx _)
    · obtain rfl : function = slot.function := ConnectParams.pciFunction.inj (hslot ha hlog rfl)
      exact ⟨made, hplace, fun r hr => ⟨hplace.not_mem hr, hasked r hr⟩⟩
  · intro path _ events he s₁ w₁ hafter answer s₂ w₂ log' hdet hx
    have hr : c.Restores (live w) s'.backend (live w') := by
      obtain ⟨hlive, hempty, -⟩ | ⟨-, _, made, -, hplace, -⟩ := hcase
      · rw [hlive, hempty]
        exact Chain.restores_empty c _
      · exact hplace.restores hc
    have hr₁ := restores_run (i := i) (j := j) hc hp hh he (m := (s', w')) hr
    rw [hafter] at hr₁
    exact (restores_disconnect hc hp hh hr₁ hdet).2 hx

/-- Beside another volume, a function is handed out, and the four resources of the chain are added. -/
theorem conserved_of_connect_neighbour :
    Transport.nvme.chain? = some .nvme ∧ Registry.accepting.Faithful Registry.resources ∧
    Registry.host.Leaves Registry.resources ∧
    ∃ s' w' log made, (Registry.initiator .nvme).connect
        (Chain.nvme.backend Registry.provision Registry.accepting) Registry.host
        { backend := .empty } Registry.neighbour = (.ok "/dev/nvme0n1", s', w') ∧
      (Registry.initiator .nvme).connect
        (Chain.nvme.backend Registry.provision Registry.accepting).recorded Registry.host.recorded
        { backend := .empty } (Registry.neighbour, []) = (.ok "/dev/nvme0n1", s', w', log) ∧
      ⟨.allocate 1, .ok ⟨0, 0⟩⟩ ∈ log ∧
      Chain.nvme.InPlace Registry.neighbour.resources made s'.backend w'.resources ∧
      made.length = 4 ∧
      (Registry.initiator .nvme).Conserved .nvme Registry.provision Registry.accepting
        Registry.host Registry.resources Registry.neighbour.resources log (.ok "/dev/nvme0n1")
        s' w' := by
  have hp : Registry.accepting.Faithful Registry.resources := Registry.plane_faithful fun _ => nofun
  have hh := Registry.host_leaves Registry.resources
  obtain ⟨result, s', w', log, hplain, hrun, hcons⟩ :=
    conserved_of_connect (t := .nvme) rfl (Registry.initiator .nvme) Registry.provision hp hh
      (s := { backend := .empty }) rfl Registry.neighbour
  have hok : result = .ok "/dev/nvme0n1" := (congrArg Prod.fst hplain).symm.trans (by rfl)
  subst hok
  have hlog : _ = log := congrArg (·.2.2.2) hrun
  have hallocated : ⟨.allocate 1, .ok ⟨0, 0⟩⟩ ∈ log := by
    rw [← hlog]
    exact .tail _ (.head _)
  obtain ⟨made, hplace, -⟩ := hcons.attached 1 ⟨0, 0⟩ _ hallocated rfl
  have hlength : made.length = 4 := by
    rw [← List.length_map (f := LiveResource.collection), hplace.stages]
    rfl
  exact ⟨rfl, hp, hh, s', w', log, made, hplain, hrun, hallocated, hplace, hlength, hcons⟩

end OffloadVolume.Initiator
