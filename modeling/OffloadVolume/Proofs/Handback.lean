import OffloadVolume.Proofs.Compensation
import OffloadVolume.Proofs.Registry
import OffloadVolume.Proofs.Teardown
import OffloadVolume.Rehearsal.Host
import OffloadVolume.Rehearsal.Plane

/-!
# Functions that go back

A failed attachment gives its function back whether or not all that was created on it could be deleted
again. Main statement: `Initiator.recorded_of_release`, when a function goes back, and what may still
be recorded then.
-/

namespace OffloadVolume.Initiator

variable {σ : Type} {c : Chain} {j : Provision} {p : Plane σ}

/-- A record can be kept of all that an attachment over a chain asks for: of the exchanges with the
control plane, and of its steps. -/
theorem connect_asked (c : Chain) (i : Initiator) (j : Provision) (p : Plane σ) (h : Host σ)
    (s : State Handles) (w : σ) :
    ∃ result s' w' exchanges log, i.connect (c.backend j p) h s w = (result, s', w') ∧
      i.connect (c.backend j p.recorded).recorded (h.beside (List Exchange)).recorded s
        ((w, []), []) = (result, s', (w', exchanges), log) ∧
      Course i log result ∧
      Attaching (c.backend j p.recorded) Prod.snd s.backend (w, []) log result s'.backend
        (w', exchanges) := by
  obtain ⟨result, s', ⟨w', exchanges⟩, log, hasked, hrun⟩ :=
    i.connect_recorded (c.backend j p.recorded) (h.beside (List Exchange)) s (w, [])
  have hplain := connect_over ((Plane.recorded_over p).backend c j)
    (h.beside_over (List Exchange)) i s (w, [])
  rw [hasked] at hplain
  have hcourse := i.course_of_connect (c.backend j p.recorded) (h.beside (List Exchange)) s (w, [])
  rw [hrun] at hcourse
  have hat := connect_attaching (h.beside_leaves (List Exchange)) hrun
  exact ⟨result, s', w', exchanges, log, hplain.symm, hrun, hcourse, hat⟩

/-- Why a name is recorded after an attachment that failed, which kept `before` at first: the
attachment created nothing in its place, its deletion was not answered, or, if the whole chain was to
be deleted because the device did not come, a deletion before its own one was not. -/
inductive Remains (c : Chain) (before : Handles) (log : List Report) (exchanges : List Exchange)
    (k : Collection) (name : String) : Prop where
  | untouched (hold : before.get k = some name)
    (hnone : ∀ x ∈ exchanges, x.call = .create k → x.answered = false)
  | undeleted {x : Exchange} (hx : x ∈ exchanges) (ha : x.answered = false)
    (hdel : x.Deletes (k, name))
  | stopped (hundone : ∃ y ∈ log, y.step = .backendDisconnect) {x : Exchange} (hx : x ∈ exchanges)
    (ha : x.answered = false) {m : Collection × String} (hdel : x.Deletes m)
    (hm : m.1 ∈ c.deletedBefore k)

/-- In each way to go on with the backend, what remains remains for one of these reasons. -/
theorem remains_of_attaching (hc : c.Resumable) {i : Initiator} {before kept : Handles}
    (hw : before.Within c.stages) {w w' : σ} {log : List Report} {exchanges : List Exchange}
    {e : AttachError} (hcomp : Compensated i log (.error e))
    (hat : Attaching (c.backend j p.recorded) Prod.snd before (w, []) log (.error e) kept
      (w', exchanges)) {k : Collection} {name : String} (hk : kept.get k = some name) :
    Remains c before log exchanges k name := by
  cases hat with
  | unasked hlog hf =>
    obtain rfl : exchanges = [] := hf
    exact .untouched hk (List.forall_mem_nil _)
  | @refused params _ _ w₁ w₂ _ _ hbefore hconnect hf =>
    obtain ⟨w₁, sent⟩ := w₁
    obtain rfl : sent = [] := hbefore
    obtain ⟨_, _, w₃, sent, hrun, hleft⟩ := j.connect_left p hc.toSound params before w₁ []
    cases hrun.symm.trans hconnect
    obtain rfl : exchanges = sent := hf
    obtain ⟨hold, hnone⟩ | ⟨x, hx, hdel, ha⟩ := hleft ⟨e, rfl⟩ k name hk
    · exact .untouched hold hnone
    · exact .undeleted hx ha hdel
  | @undone params _ _ whole _ w₁ _ _ w₄ _ hlog _ hconnect _ hdisconnect hf =>
    have hwhole : whole.Within c.stages := Provision.within_of_connect hw hconnect
    obtain rfl : exchanges = w₄.2 := hf
    obtain ⟨-, x, hx, ha, m, hdel, hm⟩ := j.disconnect_left p hc hwhole hdisconnect hk
    obtain rfl | hm := hm
    · exact .undeleted hx ha hdel
    · exact .stopped (hcomp.disconnect_iff.2 ⟨⟨params, hlog⟩, e, rfl⟩) hx ha hdel hm

/-- A function that was handed out goes back whenever the attachment fails, whatever comes of the
deletions. What is recorded then remains because nothing was created in its place, or because its
deletion, or one that comes before it, was not answered. -/
theorem recorded_of_release {t : Transport} (ht : t.chain? = some c) (i : Initiator)
    (j : Provision) (p : Plane σ) (h : Host σ) {s : State Handles}
    (hs : s.backend.Within c.stages) (w : σ) :
    ∃ result s' w' exchanges log, i.connect (c.backend j p) h s w = (result, s', w') ∧
      i.connect (c.backend j p.recorded).recorded (h.beside (List Exchange)).recorded s
        ((w, []), []) = (result, s', (w', exchanges), log) ∧
      ∀ slot, ((∃ x ∈ log, x.step = .release slot) ↔
          (∃ n, ⟨.allocate n, .ok slot⟩ ∈ log) ∧ ∃ e, result = .error e) ∧
        ((∃ x ∈ log, x.step = .release slot) → ∀ k name, s'.backend.get k = some name →
          Remains c s.backend log exchanges k name) := by
  obtain ⟨result, s', w', exchanges, log, hplain, hrun, hcourse, hat⟩ :=
    connect_asked c i j p h s w
  have hcomp := hcourse.compensated
  refine ⟨result, s', w', exchanges, log, hplain, hrun, fun slot => ?_⟩
  refine ⟨hcomp.release_iff slot, fun hback k name hk => ?_⟩
  obtain ⟨-, e, rfl⟩ := (hcomp.release_iff slot).1 hback
  exact remains_of_attaching (Transport.resumable_of_chain? ht) hs hcomp hat hk

/-- A control plane on which some calls fail, and a host with one function, behind which no device
appears. -/
def failing (calls : List Call) : Rehearsal := .start {
  plane := CallScript.refusing calls
  host := { slots := .ok [⟨0, 0⟩] } }

/-- A controller that is left when a stage after it failed, for its own deletion failed, too. -/
theorem recorded_of_release_controller :
    Transport.nvme.chain? = some .nvme ∧ Handles.empty.Within Chain.nvme.stages ∧
    ∃ result s' w' exchanges log, (Registry.initiator .nvme).connect
        (Chain.nvme.backend Registry.provision Rehearsal.plane.recorded).recorded
        (Rehearsal.host.beside (List Exchange)).recorded { backend := .empty }
        ((failing [.create .namespace, .delete .controller], []), []) =
          (result, s', (w', exchanges), log) ∧
      (∃ x ∈ log, x.step = .release ⟨0, 0⟩) ∧
      s'.backend.get .controller = some "nvmeControllers/spdkcsi-0" ∧
      ∃ x ∈ exchanges, x.answered = false ∧
        x.Deletes (.controller, "nvmeControllers/spdkcsi-0") := by
  have hs : Handles.empty.Within Chain.nvme.stages := Handles.within_empty _
  obtain ⟨result, s', w', exchanges, log, -, hrun, hslots⟩ :=
    recorded_of_release (t := .nvme) rfl (Registry.initiator .nvme) Registry.provision
      Rehearsal.plane Rehearsal.host (s := { backend := .empty }) hs
      (failing [.create .namespace, .delete .controller])
  obtain ⟨hback, hremains⟩ := hslots ⟨0, 0⟩
  have hlog : _ = log := congrArg (·.2.2.2) hrun
  have hkept : s'.backend.get .controller = some "nvmeControllers/spdkcsi-0" :=
    (congrArg (·.2.1.backend.get .controller) hrun).symm.trans (by decide)
  have hreleased : ∃ x ∈ log, x.step = .release ⟨0, 0⟩ := by
    refine hback.2 ⟨⟨1, ?_⟩, _, (congrArg Prod.fst hrun).symm⟩
    rw [← hlog]
    exact .tail _ (.head _)
  have hconnected : ¬∃ y ∈ log, y.step = .backendDisconnect := by
    rw [← hlog]
    decide
  cases hremains hreleased .controller _ hkept with
  | untouched hold => cases hold
  | undeleted hx ha hdel =>
    exact ⟨rfl, hs, result, s', w', exchanges, log, hrun, hreleased, hkept, _, hx, ha, hdel⟩
  | stopped hundone => exact absurd hundone hconnected

/-- When no device appears and the controller cannot be deleted, the function goes back while the
controller that was created on it is still recorded. -/
theorem released_with_controller :
    ∃ e s' w' exchanges log, (Registry.initiator .nvme).connect
        (Chain.nvme.backend Registry.provision Rehearsal.plane.recorded).recorded
        (Rehearsal.host.beside (List Exchange)).recorded { backend := .empty }
        ((failing [.delete .controller], []), []) = (.error e, s', (w', exchanges), log) ∧
      (∃ x ∈ log, x.step = .release ⟨0, 0⟩) ∧
      s'.backend.get .controller = some "nvmeControllers/spdkcsi-0" ∧
      ∃ x ∈ exchanges, x.Creates Registry.provision (PciSlot.function ⟨0, 0⟩)
        (.controller, "nvmeControllers/spdkcsi-0") := by
  refine ⟨.deviceTimeout "0000:01:00.0" (.ofSecs 20), _, _, _, _, rfl, by decide, by decide,
    _, List.mem_cons_of_mem _ List.mem_cons_self, ?_⟩
  exact ⟨Handles.empty.set .subsystem (some "nvmeSubsystems/spdkcsi-vol-1"), _, _, rfl, rfl,
    by decide⟩

end OffloadVolume.Initiator
