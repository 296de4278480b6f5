import OffloadVolume.Proofs.Handback
import OffloadVolume.Proofs.Turns

/-!
# What is withdrawn when an attachment fails

When a stage of a chain fails, the backend itself deletes all that was created, whatever comes of each
deletion. When the host's side of the attachment fails, the chain is deleted as in the end, which stops
at the first failure. Main statement: `Initiator.withdrawn_of_connect`, the first way is always best
effort, and the second way is so exactly if no deletion but the last one fails.
-/

namespace OffloadVolume

variable {σ : Type}

/-- The collection whose deletion takes a resource away: a namespace goes with its subsystem. -/
def Collection.carrier : Collection → Collection
  | .namespace => .subsystem
  | k => k

theorem Collection.carrier_of_ne {k : Collection} (hk : k ≠ .namespace) : k.carrier = k := by
  cases k with
  | «namespace» => exact absurd rfl hk
  | subsystem | controller | remote | virtioBlk => rfl

/-- The deletion of a chain deletes the carriers of all its stages. -/
theorem Chain.Resumable.carrier_mem_teardown {c : Chain} (hc : c.Resumable) {k : Collection}
    (hk : k ∈ c.stages) : k.carrier ∈ c.teardown := by
  by_cases hns : k = .namespace
  · subst hns
    exact (hc.subsystem hk).2.2
  · rw [Collection.carrier_of_ne hns]
    exact (hc.tornDown k hk).resolve_right fun hs => hns (hc.swept k hs)

/-- Best effort: the deletion of all that was recorded is asked for, and what is left is just what
could not be deleted. -/
structure Withdrawn (recorded : Handles) (deletes : List Exchange) (left : Handles) : Prop where
  sent : ∀ k name, recorded.get k = some name →
    ∃ text, recorded.get k.carrier = some text ∧ ∃ x ∈ deletes, x.Deletes (k.carrier, text)
  left_iff : ∀ k name, left.get k = some name ↔ recorded.get k = some name ∧
    ∃ text, recorded.get k.carrier = some text ∧
      ∃ x ∈ deletes, x.Deletes (k.carrier, text) ∧ x.answered = false

/-- Without a namespace, to delete each resource is best effort. -/
theorem Withdrawn.of_deletes {h : Handles} {ks : List Collection} (hn : ks.Nodup)
    (hw : h.Within ks) (hns : h.get .namespace = none) {deletes : List Exchange}
    (hd : List.Forall₂ Exchange.Deletes deletes (h.recordedIn ks)) :
    Withdrawn h deletes (h.clear (Exchange.settled deletes)) := by
  have hkeys := h.nodup_recordedIn hn
  have hcarrier {k : Collection} {name : String} (hg : h.get k = some name) : k.carrier = k := by
    refine Collection.carrier_of_ne fun hk => ?_
    rw [hk, hns] at hg
    cases hg
  have hmem {k : Collection} {name : String} (hg : h.get k = some name) :
      (k, name) ∈ h.recordedIn ks := Handles.mem_recordedIn.2 ⟨hw k name hg, hg⟩
  refine ⟨fun k name hg => ?_, fun k name => ?_⟩
  · rw [hcarrier hg]
    exact ⟨name, hg, Exchange.exists_exchange hd (hmem hg)⟩
  · rw [Handles.get_clear]
    constructor
    · intro hleft
      split at hleft
      · cases hleft
      · rename_i hsettled
        obtain ⟨x, hx, hdel, ha⟩ := (Exchange.not_mem_settled_iff hd hkeys (hmem hleft)).1 hsettled
        rw [hcarrier hleft]
        exact ⟨hleft, name, hleft, x, hx, hdel, ha⟩
    · rintro ⟨hg, text, htext, x, hx, hdel, ha⟩
      rw [hcarrier hg] at htext hdel
      cases hg.symm.trans htext
      rwa [if_neg ((Exchange.not_mem_settled_iff hd hkeys (hmem hg)).2 ⟨x, hx, hdel, ha⟩)]

namespace Provision

variable (j : Provision) {c : Chain} (p : Plane σ)

/-- A creation that fails asks for nothing else. -/
theorem Fails.creates {function : Nat} {k : Collection} {attempt : List Exchange} {e : AttachError}
    (hf : j.Fails function k attempt e) : ∀ x ∈ attempt, x.call = .create k := by
  cases hf with
  | unasked => exact List.forall_mem_nil _
  | refused _ => exact List.forall_mem_singleton.2 rfl
  | late _ => exact List.forall_mem_singleton.2 rfl

/-- The creation of a chain that fails is best effort; one that succeeds records every stage. -/
theorem connect_withdrawn (hc : c.Resumable) (params : ConnectParams) (w : σ) :
    ∃ result h' w' before deletes,
      j.connect c p.recorded params .empty (w, []) = (result, h', w', before ++ deletes) ∧
      (∀ x ∈ before, ∃ k, x.call = .create k) ∧ (∀ x ∈ deletes, ∃ m, x.Deletes m) ∧
      (result = .ok () ∧ deletes = [] ∧ h' = Handles.empty.replay before ∧
          (∀ k ∈ c.stages, ∃ name, h'.get k = some name) ∨
        (∃ e, result = .error e) ∧ Withdrawn (Handles.empty.replay before) deletes h') := by
  cases params with
  | tcpPort port =>
    refine ⟨_, .empty, w, [], [], rfl, by simp, by simp, .inr ⟨⟨_, rfl⟩, ?_⟩⟩
    exact Withdrawn.of_deletes List.nodup_nil (Handles.within_empty _) (Handles.get_empty _) .nil
  | pciFunction function =>
    obtain ⟨made, creates, w', hcr, hcase⟩ := j.connect_cases p hc.rollback_nodup function w
    have hcreates : ∀ x ∈ creates, ∃ k, x.call = .create k := by
      intro x hx
      obtain ⟨m, -, _, _, _, -, rfl, -⟩ := Exchange.exists_made hcr hx
      exact ⟨m.1, rfl⟩
    have hreplay := Handles.replay_creates hcr .empty
    obtain ⟨hks, hrun⟩ | ⟨k, rest, attempt, deletes, e, hks, hf, hd, hrun⟩ := hcase
    · refine ⟨.ok (), _, w', creates, [], by rw [hrun, List.append_nil], hcreates, by simp, .inl ?_⟩
      refine ⟨rfl, rfl, hreplay.symm, fun k hk => ?_⟩
      have hkeys : made.map Prod.fst = c.stages := hks
      rw [← hkeys] at hk
      obtain ⟨m, hm, rfl⟩ := List.mem_map.1 hk
      exact ⟨m.2, (Handles.get_record_empty (hkeys ▸ hc.nodup) m.1 m.2).2 hm⟩
    · have hbefore : ∀ x ∈ creates ++ attempt, ∃ k, x.call = .create k := by
        intro x hx
        obtain hx | hx := List.mem_append.1 hx
        · exact hcreates x hx
        · exact ⟨k, hf.creates j x hx⟩
      have hdeletes : ∀ x ∈ deletes, ∃ m, x.Deletes m := by
        intro x hx
        obtain ⟨m, -, hm⟩ := Exchange.exists_made hd hx
        exact ⟨m, hm⟩
      refine ⟨.error e, _, w', creates ++ attempt, deletes, hrun, hbefore, hdeletes,
        .inr ⟨⟨e, rfl⟩, ?_⟩⟩
      rw [Handles.replay_append, hreplay, Handles.replay_of_not_answered (hf.unanswered j)]
      -- What was created comes before the stage that failed, so that it is no namespace and is
      -- rolled back.
      have hdrop : ∀ l ∈ made.map Prod.fst, l ∈ c.stages.dropLast := by
        intro l hl
        rw [Chain.stages, hks, List.dropLast_append_cons]
        exact List.mem_append_left _ hl
      have hn : (made.map Prod.fst).Nodup := by
        have hstages := hc.nodup
        rw [Chain.stages, hks] at hstages
        exact hstages.of_append_left
      refine Withdrawn.of_deletes hc.rollback_nodup (fun l name hg => ?_) ?_ hd
      · have hm := (Handles.get_record_empty hn l name).1 hg
        exact hc.rolledBack l (hdrop l (List.mem_map_of_mem hm))
      · exact Handles.get_record_of_not_mem _ fun hm => hc.namespace_last (hdrop _ hm)

/-- What is left of a whole chain when the deletion of each resource was asked for. -/
theorem withdrawn_of_complete (hc : c.Resumable) {h h' : Handles} (hw : h.Within c.stages)
    (hfull : ∀ k ∈ c.stages, ∃ name, h.get k = some name) {deletes : List Exchange}
    {result : Except AttachError Unit} (hd : j.Deleting (h.recordedIn c.teardown) deletes result)
    (hcase : result = .ok () ∧ h' = .empty ∨
      (∃ e, result = .error e) ∧ h' = h.clear (Exchange.settled deletes))
    (hall : List.Forall₂ Exchange.Deletes deletes (h.recordedIn c.teardown)) :
    Withdrawn h deletes h' := by
  have hn := h.nodup_recordedIn hc.teardown_nodup
  have hcarrier {k : Collection} {name : String} (hg : h.get k = some name) :
      ∃ text, h.get k.carrier = some text ∧ (k.carrier, text) ∈ h.recordedIn c.teardown := by
    have hmem : k.carrier ∈ c.teardown := hc.carrier_mem_teardown (hw k name hg)
    obtain ⟨text, htext⟩ := hfull k.carrier (hc.teardown_stages _ hmem)
    exact ⟨text, htext, Handles.mem_recordedIn.2 ⟨hmem, htext⟩⟩
  refine ⟨fun k name hg => ?_, fun k name => ?_⟩
  · obtain ⟨text, htext, hm⟩ := hcarrier hg
    exact ⟨text, htext, Exchange.exists_exchange hall hm⟩
  · obtain ⟨hok, rfl⟩ | ⟨⟨e, he⟩, rfl⟩ := hcase
    · rw [Handles.get_empty]
      refine iff_of_false nofun ?_
      rintro ⟨-, text, -, x, hx, -, ha⟩
      rw [hd.ok_iff.1 hok x hx] at ha
      cases ha
    · -- The namespace stays with its subsystem, which is the last to be deleted.
      have hsettled : k ∈ Exchange.settled deletes ↔ k.carrier ∈ Exchange.settled deletes := by
        by_cases hns : k = .namespace
        · subst hns
          have hlast := hd.not_mem_settled hc.teardown_nodup he hc.subsystem_last
          have hunsent : .namespace ∉ Exchange.settled deletes := by
            refine hd.not_mem_settled hc.teardown_nodup he fun hm => ?_
            exact hc.namespace_unsent (List.dropLast_subset _ hm)
          exact iff_of_false hunsent hlast
        · rw [Collection.carrier_of_ne hns]
      rw [Handles.get_clear]
      constructor
      · intro hleft
        split at hleft
        · cases hleft
        · rename_i hnot
          obtain ⟨text, htext, hm⟩ := hcarrier hleft
          have hx := (Exchange.not_mem_settled_iff hall hn hm).1 (mt hsettled.2 hnot)
          exact ⟨hleft, text, htext, hx⟩
      · rintro ⟨hg, text, htext, hx⟩
        have hmem : k.carrier ∈ c.teardown := hc.carrier_mem_teardown (hw k name hg)
        have hm := Handles.mem_recordedIn.2 ⟨hmem, htext⟩
        have hnot := (Exchange.not_mem_settled_iff hall hn hm).2 hx
        rwa [if_neg (mt hsettled.1 hnot)]

/-- The deletion of a whole chain is best effort exactly if no deletion but the last one fails. -/
theorem disconnect_withdrawn_iff (hc : c.Resumable) {h : Handles} (hw : h.Within c.stages)
    (hfull : ∀ k ∈ c.stages, ∃ name, h.get k = some name) (w : σ) (log : List Exchange) :
    ∃ result h' w' deletes,
      j.disconnect c p.recorded h (w, log) = (result, h', w', log ++ deletes) ∧
      (∀ x ∈ deletes, ∃ m, x.Deletes m) ∧
      (Withdrawn h deletes h' ↔ ∀ x ∈ deletes, x.answered = false →
        c.teardown.getLast? = some x.call.collection) := by
  obtain ⟨result, h', w', deletes, hrun, hd, hcase⟩ := j.disconnect_deleting p hc hw w log
  refine ⟨result, h', w', deletes, hrun, hd.exists_deletes, ?_⟩
  have hkeys : (h.recordedIn c.teardown).map Prod.fst = c.teardown :=
    Handles.map_fst_recordedIn fun k hk => hfull k (hc.teardown_stages k hk)
  have hn := h.nodup_recordedIn hc.teardown_nodup
  have hcomplete := hd.complete_iff hn
  rw [hkeys] at hcomplete
  rw [← hcomplete]
  constructor
  · intro hwd
    refine hd.complete_of_sent hn fun m hm => ?_
    obtain ⟨hmem, hg⟩ := Handles.mem_recordedIn.1 hm
    obtain ⟨text, htext, x, hx, hdel⟩ := hwd.sent m.1 m.2 hg
    have hne : m.1 ≠ .namespace := fun hns => hc.namespace_unsent (hns ▸ hmem)
    rw [Collection.carrier_of_ne hne] at htext hdel
    cases hg.symm.trans htext
    exact ⟨x, hx, hdel⟩
  · exact j.withdrawn_of_complete hc hw hfull hd hcase

end Provision

namespace Initiator

/-- A backend that failed to connect was not connected. -/
theorem Course.not_connected {i : Initiator} {log : List Report}
    {result : Except AttachError String} (hc : Course i log result) {params : ConnectParams}
    {e : AttachError} (hx : ⟨.backendConnect params, .error e⟩ ∈ log) (others : ConnectParams) :
    ⟨.backendConnect others, .ok ()⟩ ∉ log := by
  cases hc with
  | tcp _ hc => cases hc <;> simp at hx ⊢
  | existing | exhausted => simp at hx
  | held _ _ hc => cases hc <;> simp at hx ⊢

/-- A device is awaited after the backend was connected, and the attachment fails if it does not
come. -/
theorem Course.missed {i : Initiator} {log : List Report} {result : Except AttachError String}
    (hc : Course i log result) {bdf : String} {model : Option String} {timeout : Duration}
    {e : AttachError} (hx : ⟨.waitBdf bdf model timeout, .error e⟩ ∈ log) :
    (∃ params, ⟨.backendConnect params, .ok ()⟩ ∈ log) ∧ result = .error e := by
  cases hc with
  | tcp _ hc => cases hc <;> simp at hx
  | existing | exhausted => simp at hx
  | held _ _ hc =>
    cases hc with
    | refused | appeared => simp at hx
    | missed e' => simp_all

/-- What an attachment asks for and withdraws: creations first, then deletions. Of its own, the
backend withdraws with best effort. What the initiator has it withdraw, when the device does not come,
is the whole chain, and that is best effort exactly if no deletion but the last one of the order
fails. -/
structure Withdrawal (c : Chain) (log : List Report) (before deletes : List Exchange)
    (left : Handles) : Prop where
  only_creates : ∀ x ∈ before, ∃ k, x.call = .create k
  only_deletes : ∀ x ∈ deletes, ∃ m, x.Deletes m
  refused : (∃ params e, ⟨.backendConnect params, .error e⟩ ∈ log) →
    Withdrawn (Handles.empty.replay before) deletes left
  missed : (∃ bdf model timeout e, ⟨.waitBdf bdf model timeout, .error e⟩ ∈ log) →
    (∀ k ∈ c.stages, ∃ name, (Handles.empty.replay before).get k = some name) ∧
    (Withdrawn (Handles.empty.replay before) deletes left ↔
      ∀ x ∈ deletes, x.answered = false → c.teardown.getLast? = some x.call.collection)

section

variable {c : Chain} {i : Initiator} {j : Provision} {p : Plane σ} {w w' : σ}
  {result : Except AttachError String} {exchanges : List Exchange} {log : List Report}
  {left : Handles}

/-- In each way to go on with the backend, this is withdrawn. -/
theorem withdrawal_of_attaching (hc : c.Resumable) (hcourse : Course i log result)
    (hat : Attaching (c.backend j p.recorded) Prod.snd .empty (w, []) log result left
      (w', exchanges)) :
    ∃ before deletes, exchanges = before ++ deletes ∧ Withdrawal c log before deletes left := by
  cases hat with
  | unasked hlog hf =>
    obtain rfl : exchanges = [] := hf
    refine ⟨[], [], rfl, by simp, by simp, ?_, ?_⟩
    · rintro ⟨params, e, hx⟩
      exact absurd rfl (hlog _ hx params)
    · rintro ⟨bdf, model, timeout, e, hx⟩
      obtain ⟨⟨params, hy⟩, -⟩ := hcourse.missed hx
      exact absurd rfl (hlog _ hy params)
  | @refused params e _ w₁ w₂ _ hlog hbefore hconnect hf =>
    obtain ⟨w₁, _⟩ := w₁
    obtain rfl : _ = [] := hbefore
    obtain ⟨_, _, w₃, before, deletes, hd, hcreates, hdeletes, hcase⟩ :=
      j.connect_withdrawn p hc params w₁
    cases hd.symm.trans hconnect
    obtain ⟨hok, -⟩ | ⟨-, hwd⟩ := hcase
    · cases hok
    · refine ⟨before, deletes, hf, hcreates, hdeletes, fun _ => hwd, ?_⟩
      rintro ⟨bdf, model, timeout, e', hx⟩
      obtain ⟨⟨others, hy⟩, -⟩ := hcourse.missed hx
      exact absurd hy (hcourse.not_connected hlog others)
  | @attached params path _ w₁ w₂ _ hlog hbefore hconnect hf =>
    obtain ⟨w₁, _⟩ := w₁
    obtain rfl : _ = [] := hbefore
    obtain ⟨_, _, w₃, before, deletes, hd, hcreates, hdeletes, -⟩ :=
      j.connect_withdrawn p hc params w₁
    cases hd.symm.trans hconnect
    refine ⟨before, deletes, hf, hcreates, hdeletes, ?_, ?_⟩
    · rintro ⟨others, e, hx⟩
      exact absurd hlog (hcourse.not_connected hx params)
    · rintro ⟨bdf, model, timeout, e, hx⟩
      cases (hcourse.missed hx).2
  | @undone params _ _ kept _ w₁ w₂ w₃ w₄ _ hlog hbefore hconnect hwait hdisconnect hf =>
    obtain ⟨w₁, _⟩ := w₁
    obtain rfl : _ = [] := hbefore
    have hwithin : kept.Within c.stages :=
      Provision.within_of_connect (Handles.within_empty _) hconnect
    obtain ⟨_, _, w₅, before, none, hd, hcreates, -, hcase⟩ := j.connect_withdrawn p hc params w₁
    cases hd.symm.trans hconnect
    obtain ⟨-, rfl, rfl, hfull⟩ | ⟨⟨e, he⟩, -⟩ := hcase
    · rw [List.append_nil] at hwait
      obtain ⟨w₃, sent⟩ := w₃
      obtain rfl : before = sent := hwait.symm
      obtain ⟨_, _, w₆, deletes, hd', hdeletes, hiff⟩ :=
        j.disconnect_withdrawn_iff p hc hwithin hfull w₃ before
      cases hd'.symm.trans hdisconnect
      refine ⟨before, deletes, hf, hcreates, hdeletes, ?_, fun _ => ⟨hfull, hiff⟩⟩
      rintro ⟨others, e, hx⟩
      exact absurd hlog (hcourse.not_connected hx params)
    · cases he

/-- Whatever the control plane and the host answer, an attachment withdraws this. -/
theorem withdrawn_of_connect {t : Transport} {c : Chain} (ht : t.chain? = some c) (i : Initiator)
    (j : Provision) (p : Plane σ) (h : Host σ) {s : State Handles} (hs : s.backend = .empty)
    (w : σ) :
    ∃ result s' w' before deletes log, i.connect (c.backend j p) h s w = (result, s', w') ∧
      i.connect (c.backend j p.recorded).recorded (h.beside (List Exchange)).recorded s
        ((w, []), []) = (result, s', (w', before ++ deletes), log) ∧
      Withdrawal c log before deletes s'.backend := by
  obtain ⟨result, s', w', exchanges, log, hplain, hrun, hcourse, hat⟩ :=
    connect_asked c i j p h s w
  rw [hs] at hat
  obtain ⟨before, deletes, rfl, hwd⟩ :=
    withdrawal_of_attaching (Transport.resumable_of_chain? ht) hcourse hat
  exact ⟨result, s', w', before, deletes, log, hplain, hrun, hwd⟩

end

/-- When no device appears and the subsystem, which is deleted last, cannot be deleted, it is left with
its namespace, and nothing else is. -/
theorem withdrawn_but_subsystem :
    Transport.nvme.chain? = some .nvme ∧
    ∃ result s' w' before deletes log, (Registry.initiator .nvme).connect
        (Chain.nvme.backend Registry.provision Rehearsal.plane.recorded).recorded
        (Rehearsal.host.beside (List Exchange)).recorded { backend := .empty }
        ((failing [.delete .subsystem], []), []) = (result, s', (w', before ++ deletes), log) ∧
      (∃ bdf model timeout e, ⟨.waitBdf bdf model timeout, .error e⟩ ∈ log) ∧
      Withdrawn (Handles.empty.replay before) deletes s'.backend ∧
      s'.backend = { subsystem := some "nvmeSubsystems/spdkcsi-vol-1",
                     «namespace» := some "nvmeNamespaces/spdcksi-vol-1" } := by
  obtain ⟨result, s', w', before, deletes, log, -, hrun, hwd⟩ :=
    withdrawn_of_connect (t := .nvme) rfl (Registry.initiator .nvme) Registry.provision
      Rehearsal.plane Rehearsal.host (s := { backend := .empty }) rfl
      (failing [.delete .subsystem])
  have hlog : _ = log := congrArg (·.2.2.2) hrun
  have hasked : _ = before ++ deletes := congrArg (·.2.2.1.2) hrun
  have hkept : s'.backend = _ := (congrArg (·.2.1.backend) hrun).symm
  have hmissed : ∃ bdf model timeout e, ⟨.waitBdf bdf model timeout, .error e⟩ ∈ log := by
    rw [← hlog]
    exact ⟨_, _, _, _, .tail _ (.tail _ (.tail _ (.head _)))⟩
  refine ⟨rfl, result, s', w', before, deletes, log, hrun, hmissed, ?_, hkept.trans (by decide)⟩
  refine (hwd.missed hmissed).2.2 fun x hx ha => ?_
  have hsent : ∀ y ∈ before ++ deletes, y.answered = false →
      Chain.nvme.teardown.getLast? = some y.call.collection := by
    rw [← hasked]
    decide
  exact hsent x (List.mem_append_right _ hx) ha

/-- When no device appears and the link to the target, which is deleted first, cannot be deleted,
nothing else is tried, and the whole chain is left. -/
theorem not_withdrawn_behind_remote :
    ∃ e s' w' before deletes log, (Registry.initiator .nvme).connect
        (Chain.nvme.backend Registry.provision Rehearsal.plane.recorded).recorded
        (Rehearsal.host.beside (List Exchange)).recorded { backend := .empty }
        ((failing [.delete .remote], []), []) = (.error e, s', (w', before ++ deletes), log) ∧
      (∃ bdf model timeout e, ⟨.waitBdf bdf model timeout, .error e⟩ ∈ log) ∧
      before.map (·.call) =
        [.create .subsystem, .create .controller, .create .remote, .create .namespace] ∧
      deletes.map (·.call) = [.delete .remote] ∧
      s'.backend = Handles.empty.replay before ∧
      ¬Withdrawn (Handles.empty.replay before) deletes s'.backend := by
  refine ⟨.deviceTimeout "0000:01:00.0" (.ofSecs 20), _, _, [_, _, _, _], [_], _, rfl,
    ⟨_, _, _, _, .tail _ (.tail _ (.tail _ (.head _)))⟩, by decide, by decide, by decide, ?_⟩
  intro hwd
  obtain ⟨text, -, x, hx, hdel⟩ := hwd.sent .controller "nvmeControllers/spdkcsi-0" (by decide)
  obtain rfl := List.mem_singleton.1 hx
  have hcall : Call.delete .remote = .delete .controller := hdel.call
  cases hcall

end Initiator
end OffloadVolume
