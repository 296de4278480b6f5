import OffloadVolume.Proofs.Registry
import OffloadVolume.Proofs.Teardown
import OffloadVolume.Rehearsal.Host
import OffloadVolume.Rehearsal.Plane

/-!
# Detachments that are tried again

A detachment from a function looks for the device first, and does nothing without it. Main statement:
`Initiator.detached_iff_found`, when a further detachment takes away what is left.
-/

namespace OffloadVolume.Initiator

variable {σ : Type}

/-- Through every history names are recorded only for the stages of the chain. -/
theorem within_run (i : Initiator) (c : Chain) (j : Provision) (p : Plane σ) (h : Host σ)
    (events : List (Event σ)) {m : State Handles × σ} (hm : m.1.backend.Within c.stages) :
    (i.run (c.backend j p) h events m).1.backend.Within c.stages :=
  i.run_kept h (P := fun kept => kept.Within c.stages)
    (fun params kept w => (j.maintains_within c p).connect params kept w)
    (fun kept w => (j.maintains_within c p).disconnect kept w) events hm

/-- After any history that began with nothing recorded, a detachment from a function all of whose
requests are answered leaves nothing recorded just if the device is found or nothing was recorded
before; without the device it fails, asks nothing of the control plane and changes nothing. -/
theorem detached_iff_found {t : Transport} {c : Chain} (ht : t.chain? = some c) {i : Initiator}
    (hpci : i.target.transport.isPci = true) (j : Provision) (p : Plane σ) (h : Host σ)
    {s₀ : State Handles} (hs : s₀.backend = .empty) (w₀ : σ) (events : List (Event σ))
    {s : State Handles} {w : σ} (hrun : i.run (c.backend j p) h events (s₀, w₀) = (s, w)) :
    ∃ answer s' w' exchanges,
      i.disconnect (c.backend j p) h s w = (answer, s', w') ∧
      i.disconnect (c.backend j p.recorded) (h.beside (List Exchange)) s (w, []) =
        (answer, s', w', exchanges) ∧
      ((∀ x ∈ exchanges, x.answered = true) → (s'.backend = .empty ↔
        (∃ path, (i.findDevice h s w).1 = .ok (some path)) ∨ s.backend = .empty)) ∧
      ((∀ path, (i.findDevice h s w).1 ≠ .ok (some path)) →
        (∃ e, answer = .error e) ∧ s' = s ∧ exchanges = []) := by
  have hc := Transport.resumable_of_chain? ht
  have hwithin : s.backend.Within c.stages := by
    have hw := i.within_run c j p h events (m := (s₀, w₀)) (hs ▸ Handles.within_empty _)
    rwa [hrun] at hw
  have hover := disconnect_over ((Plane.recorded_over p).backend c j)
    (h.beside_over (List Exchange)) i s (w, [])
  have hlook := findDevice_over (h.beside_over (List Exchange)) i s (w, [])
  have hleaves := h.beside_leaves (List Exchange)
  have hquiet := findDevice_leaves hleaves i s (w, [])
  generalize hfind : i.findDevice (h.beside (List Exchange)) s (w, []) = found at hlook hquiet
  obtain ⟨look, w₁, log₁⟩ := found
  obtain rfl : log₁ = [] := hquiet
  generalize hd : i.disconnect (c.backend j p.recorded) (h.beside (List Exchange)) s (w, []) = out
    at hover
  obtain ⟨answer, s', w', exchanges⟩ := out
  have hunfound (hnone : ∀ path, look ≠ .ok (some path)) :
      (∃ e, answer = .error e) ∧ s' = s ∧ exchanges = [] := by
    obtain ⟨e, he⟩ := disconnect_of_unfound (b := c.backend j p.recorded) hpci hfind hnone
    cases hd.symm.trans he
    exact ⟨⟨e, rfl⟩, rfl, rfl⟩
  refine ⟨answer, s', w', exchanges, hover.symm, rfl, fun hans => ?_, fun hnone => ?_⟩
  · rw [← hlook]
    by_cases hfound : ∃ path, look = .ok (some path)
    · obtain ⟨path, rfl⟩ := hfound
      obtain ⟨hkept, hasked⟩ := disconnect_of_found (b := c.backend j p.recorded) hleaves hpci hfind
      obtain ⟨_, kept, _, deletes, hdis, hempty⟩ := j.disconnect_answered p hc hwithin w₁ []
      have hdis : (c.backend j p.recorded).disconnect s.backend (w₁, []) = _ := hdis
      rw [hd, hdis] at hkept hasked
      obtain rfl : exchanges = deletes := hasked
      have hgone : s'.backend = .empty := hkept.trans (hempty hans)
      exact iff_of_true hgone (.inl ⟨path, rfl⟩)
    · obtain ⟨-, rfl, -⟩ := hunfound fun path he => hfound ⟨path, he⟩
      exact ⟨.inr, fun hor => hor.resolve_left hfound⟩
  · rw [← hlook] at hnone
    exact hunfound hnone

/-- A control plane that does not delete subsystems for now, and a host with one function. -/
def outage : Rehearsal := .start {
  plane := CallScript.refusing [.delete .subsystem]
  host := { slots := .ok [⟨2, 0⟩], devices := [("0000:03:00.0", "/dev/nvme0n1")] } }

def appear : Rehearsal → Rehearsal :=
  Rehearsal.setHost fun h => { h with existing := .ok (some "/dev/nvme0n1") }

def vanish : Rehearsal → Rehearsal := Rehearsal.setHost fun h => { h with existing := .ok none }

def recover : Rehearsal → Rehearsal := Rehearsal.setCall (.delete .subsystem) {}

/-- A detachment that failed is completed by another one, while the device is there. -/
theorem detached_after_outage :
    Transport.nvme.chain? = some .nvme ∧
    (Registry.initiator .nvme).target.transport.isPci = true ∧
    ∃ s w answer s' w' exchanges,
      (Registry.initiator .nvme).run (Chain.nvme.backend Registry.provision Rehearsal.plane)
        Rehearsal.host [.attach, .change appear, .detach, .change recover]
        ({ backend := .empty }, outage) = (s, w) ∧
      (Registry.initiator .nvme).disconnect
        (Chain.nvme.backend Registry.provision Rehearsal.plane.recorded)
        (Rehearsal.host.beside (List Exchange)) s (w, []) = (answer, s', w', exchanges) ∧
      s.backend ≠ .empty ∧ exchanges ≠ [] ∧ (∀ x ∈ exchanges, x.answered = true) ∧
      s'.backend = .empty := by
  obtain ⟨answer, s', w', exchanges, -, hd, hans, -⟩ :=
    detached_iff_found (t := .nvme) rfl (i := Registry.initiator .nvme) rfl Registry.provision
      Rehearsal.plane Rehearsal.host
      (show ({ backend := .empty } : State Handles).backend = .empty from rfl) outage
      [.attach, .change appear, .detach, .change recover] rfl
  have hlog : _ = exchanges := congrArg (·.2.2.2) hd
  have hanswered : ∀ x ∈ exchanges, x.answered = true := by
    rw [← hlog]
    decide
  have hsent : exchanges ≠ [] := by
    rw [← hlog]
    exact nofun
  exact ⟨rfl, rfl, _, _, answer, s', w', exchanges, rfl, hd, by decide, hsent, hanswered,
    (hans hanswered).2 (.inl ⟨"/dev/nvme0n1", rfl⟩)⟩

/-- When the device has gone in the meantime, nothing is deleted, although the control plane would
delete all that is left. -/
theorem not_detached_without_device :
    ∃ s₁ w₁ rest s w e s' w',
      (Registry.initiator .nvme).connect
        (Chain.nvme.backend Registry.provision Rehearsal.plane).recorded Rehearsal.host.recorded
        { backend := .empty } (outage, []) = (.ok "/dev/nvme0n1", s₁, w₁,
          ⟨.existing "vol-1", .ok none⟩ :: ⟨.allocate 1, .ok ⟨2, 0⟩⟩ :: rest) ∧
      (Registry.initiator .nvme).run (Chain.nvme.backend Registry.provision Rehearsal.plane)
        Rehearsal.host [.change appear, .detach, .change vanish, .change recover] (s₁, w₁) =
          (s, w) ∧
      (Registry.initiator .nvme).disconnect
        (Chain.nvme.backend Registry.provision Rehearsal.plane.recorded)
        (Rehearsal.host.beside (List Exchange)) s (w, []) = (.error e, s', w', []) ∧
      s'.backend ≠ .empty ∧
      ((Chain.nvme.backend Registry.provision Rehearsal.plane).disconnect s.backend w).1 = .ok () := by
  refine ⟨_, _, _, _, _, .deviceNotFound "0000:03:00.0", _, _, rfl, rfl, rfl, ?_, rfl⟩
  decide

end OffloadVolume.Initiator
