import OffloadVolume.Proofs.Deletion

/-!
# What is left when a chain is taken away

A name is left when its deletion is not answered, or when an earlier one is not and the deletions
stop there. Main statements: `Provision.disconnect_left` and `Provision.connect_left`, which names
the deletion and the failed creation of a chain leave, and `Provision.disconnect_answered`, the
deletion leaves no name if all its requests are answered.
-/

namespace OffloadVolume

/-- The collections that are deleted before another one. What has no deletion of its own goes with
the last one that has. -/
def Chain.deletedBefore (c : Chain) (k : Collection) : List Collection :=
  c.teardown.takeWhile (· ≠ k)

example : Chain.nvme.deletedBefore .controller = [.remote] := rfl

example : Chain.virtioBlk.deletedBefore .virtioBlk = [] := rfl

namespace Provision

variable {σ : Type} (j : Provision) (p : Plane σ)

/-- The deletion of a chain leaves no name if all its requests are answered. -/
theorem disconnect_answered {c : Chain} (hc : c.Resumable) {h : Handles} (hw : h.Within c.stages)
    (w : σ) (log : List Exchange) :
    ∃ result h' w' deletes,
      j.disconnect c p.recorded h (w, log) = (result, h', w', log ++ deletes) ∧
      ((∀ x ∈ deletes, x.answered = true) → h' = .empty) := by
  obtain ⟨result, h', w', deletes, hrun, hd, hcase⟩ := j.disconnect_deleting p hc hw w log
  refine ⟨result, h', w', deletes, hrun, fun ha => ?_⟩
  obtain ⟨-, hempty⟩ | ⟨⟨e, he⟩, -⟩ := hcase
  · exact hempty
  · cases he.symm.trans (hd.ok_iff.2 ha)

/-- A name that the deletion of a chain leaves was recorded, and its own deletion was not answered,
or one before it. -/
theorem disconnect_left {c : Chain} (hc : c.Resumable) {h h' : Handles} {m m' : σ × List Exchange}
    {result : Except AttachError Unit} (hw : h.Within c.stages)
    (hrun : j.disconnect c p.recorded h m = (result, h', m')) {k : Collection} {name : String}
    (hk : h'.get k = some name) : h.get k = some name ∧
      ∃ x ∈ m'.2, x.answered = false ∧
        ∃ l, x.Deletes l ∧ (l = (k, name) ∨ l.1 ∈ c.deletedBefore k) := by
  obtain ⟨w, log⟩ := m
  obtain ⟨_, _, w', deletes, hdis, hd, hcase⟩ := j.disconnect_deleting p hc hw w log
  cases hdis.symm.trans hrun
  obtain ⟨-, rfl⟩ | ⟨⟨e, he⟩, rfl⟩ := hcase
  · rw [Handles.get_empty] at hk
    cases hk
  · rw [Handles.get_clear] at hk
    split at hk
    · cases hk
    · rename_i hleft
      obtain ⟨x, hx, hx'⟩ := hd.exists_unanswered he hk hleft
      exact ⟨hk, x, List.mem_append_right _ hx, hx'⟩

/-- What a failed creation sends last is not answered. -/
theorem Fails.unanswered {function : Nat} {k : Collection} {attempt : List Exchange}
    {e : AttachError} (hf : j.Fails function k attempt e) : ∀ x ∈ attempt, x.answered = false := by
  cases hf with
  | unasked => exact List.forall_mem_nil _
  | refused _ => simp [Exchange.answered]
  | late _ => simp [Exchange.answered]

/-- When a stage after the first fails, a name is left that was there before and in whose collection
nothing was created, or whose deletion was not answered. -/
theorem left_of_rollback {c : Chain} (hc : c.Sound) {function : Nat} {h : Handles}
    {made : List (Collection × String)} {creates attempt deletes : List Exchange} {k : Collection}
    {rest : List Collection} {e : AttachError} (hks : c.stages = made.map Prod.fst ++ k :: rest)
    (hcreates : List.Forall₂ (Exchange.Creates j function) creates made)
    (hfails : j.Fails function k attempt e)
    (hd : List.Forall₂ Exchange.Deletes deletes ((h.record made).recordedIn c.rollback))
    {l : Collection} {name : String}
    (hl : ((h.record made).clear (Exchange.settled deletes)).get l = some name) :
    (h.get l = some name ∧
      ∀ x ∈ creates ++ attempt ++ deletes, x.call = .create l → x.answered = false) ∨
    ∃ x ∈ creates ++ attempt ++ deletes, x.Deletes (l, name) ∧ x.answered = false := by
  rw [Handles.get_clear] at hl
  split at hl
  · cases hl
  · rename_i hsettled
    by_cases hback : l ∈ c.rollback
    · have hm := Handles.mem_recordedIn.2 ⟨hback, hl⟩
      have hn := (h.record made).nodup_recordedIn hc.rollback_nodup
      obtain ⟨x, hx, hdel, ha⟩ := (Exchange.not_mem_settled_iff hd hn hm).1 hsettled
      exact .inr ⟨x, List.mem_append_right _ hx, hdel, ha⟩
    · have hnot : l ∉ made.map Prod.fst := by
        intro hmem
        refine hback (hc.rolledBack l ?_)
        rw [hks, List.dropLast_append_cons]
        exact List.mem_append_left _ hmem
      refine .inl ⟨by rwa [h.get_record_of_not_mem hnot] at hl, fun x hx hcall => ?_⟩
      obtain hx | hx := List.mem_append.1 hx
      · obtain hx | hx := List.mem_append.1 hx
        · obtain ⟨m, hm, hcr⟩ := Exchange.exists_made hcreates hx
          obtain ⟨_, _, _, _, rfl, -⟩ := hcr
          cases hcall
          exact absurd (List.mem_map_of_mem hm) hnot
        · exact hfails.unanswered j x hx
      · obtain ⟨m, hm, _, rfl⟩ := Exchange.exists_made hd hx
        cases hcall

/-- What a failed creation of a chain leaves recorded was there before, and nothing was created in
its place, or its own deletion was not answered. -/
theorem connect_left {c : Chain} (hc : c.Sound) (params : ConnectParams) (h : Handles) (w : σ)
    (log : List Exchange) :
    ∃ result h' w' exchanges,
      j.connect c p.recorded params h (w, log) = (result, h', w', log ++ exchanges) ∧
      ((∃ e, result = .error e) → ∀ k name, h'.get k = some name →
        (h.get k = some name ∧ ∀ x ∈ exchanges, x.call = .create k → x.answered = false) ∨
        ∃ x ∈ exchanges, x.Deletes (k, name) ∧ x.answered = false) := by
  cases params with
  | tcpPort port =>
    exact ⟨_, h, w, [], by rw [List.append_nil]; rfl, fun _ k name hk => .inl ⟨hk, by simp⟩⟩
  | pciFunction function =>
    obtain ⟨made, creates, w', hcr, hcase⟩ :=
      j.connect_course p hc.rollback_nodup function h w log
    obtain ⟨-, hrun⟩ | ⟨k, rest, attempt, deletes, e, hks, hf, hdel, hrun⟩ := hcase
    · exact ⟨_, _, w', _, hrun, by rintro ⟨e, he⟩; cases he⟩
    · refine ⟨_, _, w', _, hrun, fun _ l text hl => ?_⟩
      obtain ⟨rfl, rfl⟩ | ⟨-, hd⟩ := hdel
      · cases hcr
        refine .inl ⟨hl, fun x hx _ => hf.unanswered j x ?_⟩
        simpa using hx
      · exact j.left_of_rollback hc hks hcr hf hd hl

end Provision
end OffloadVolume
