import OffloadVolume.Proofs.Tenancy

/-!
# Exhaustion

Handing functions out again and again, with nothing else happening, comes to an end. Main
statements: `exists_exhausted`, and `exists_answer`, on the way every available function is handed
out.
-/

namespace OffloadVolume.Tenancy

variable {n : Tenancy} {bridges k : Nat} {s : PciSlot}

def Available (n : Tenancy) (s : PciSlot) : Prop := n.claims.Available n.present s

/-- After an allocation all functions are available but the one that was handed out. -/
theorem available_allocate : (n.step (.allocate bridges)).Available s ↔
    n.Available s ∧ n.answer bridges ≠ .ok s := Claims.available_allocate

theorem available_of_answer (h : n.answer bridges = .ok s) : s.Within bridges ∧ n.Available s :=
  Claims.available_of_allocate h

theorem answer_cases (n : Tenancy) (bridges : Nat) :
    (∃ s, n.answer bridges = .ok s ∧ s.Within bridges ∧ n.Available s ∧
      ∀ t : PciSlot, t.Within bridges → t.function < s.function → ¬n.Available t) ∨
    (n.answer bridges = .error (.functionsExhausted bridges) ∧
      ∀ t : PciSlot, t.Within bridges → ¬n.Available t) := by
  obtain ⟨s, hs, h⟩ | ⟨hs, h⟩ := n.claims.allocate_cases n.present bridges
  · exact .inl ⟨s, by rw [answer, hs], h⟩
  · exact .inr ⟨by rw [answer, hs], h⟩

def free (n : Tenancy) (bridges : Nat) : List PciSlot :=
  ((List.range (bridges * functionsPerBridge)).map PciSlot.ofFunction).filter
    ((n.claims.prune n.present).isFree n.present)

theorem mem_free : s ∈ n.free bridges ↔ s.Within bridges ∧ n.Available s := by
  simp only [free, List.mem_filter, List.mem_map, List.mem_range, Claims.isFree_prune,
    PciSlot.within_iff, Available]

/-- With each function that is handed out there are fewer free ones, so that allocations come to an
end. -/
theorem length_free_allocate (h : n.answer bridges = .ok s) :
    ((n.step (.allocate bridges)).free bridges).length < (n.free bridges).length := by
  have hs : s ∈ n.free bridges := mem_free.2 (available_of_answer h)
  have hf : (n.step (.allocate bridges)).free bridges = (n.free bridges).filter (· != s) := by
    simp only [free, List.filter_filter]
    refine List.filter_congr fun t _ => Bool.eq_iff_iff.2 ?_
    have : (n.step (.allocate bridges)).Available t ↔ n.Available t ∧ n.answer bridges ≠ .ok t :=
      available_allocate
    simp only [Available, h, ← Claims.isFree_prune] at this
    simp only [this, Bool.and_eq_true, bne_iff_ne, ne_eq, Except.ok.injEq]
    exact and_comm.trans (and_congr_left fun _ => not_congr eq_comm)
  rw [hf, List.length_filter_lt_length_iff_exists]
  exact ⟨s, hs, by simp⟩

/-- After enough allocations there is no function left. -/
theorem exists_exhausted (n : Tenancy) (bridges : Nat) :
    ∃ k, (n.run (List.replicate k (.allocate bridges))).answer bridges =
      .error (.functionsExhausted bridges) := by
  induction hl : (n.free bridges).length using Nat.strongRecOn generalizing n with
  | ind l ih =>
    obtain ⟨s, hs, -⟩ | ⟨hs, -⟩ := n.answer_cases bridges
    · obtain ⟨k, hk⟩ := ih _ (hl ▸ length_free_allocate hs) (n.step (.allocate bridges)) rfl
      exact ⟨k + 1, hk⟩
    · exact ⟨0, hs⟩

/-- As long as an available function is not handed out, it stays available. -/
theorem available_run_allocate (h : n.Available s)
    (hk : ∀ j < k, (n.run (List.replicate j (.allocate bridges))).answer bridges ≠ .ok s) :
    (n.run (List.replicate k (.allocate bridges))).Available s := by
  induction k with
  | zero => exact h
  | succ k ih =>
    rw [List.replicate_succ', run_append]
    exact available_allocate.2 ⟨ih fun j hj => hk j (by omega), hk k (by omega)⟩

/-- A function that is available is handed out after enough allocations. -/
theorem exists_answer (hw : s.Within bridges) (h : n.Available s) :
    ∃ k, (n.run (List.replicate k (.allocate bridges))).answer bridges = .ok s := by
  by_contra hne
  obtain ⟨k, hk⟩ := n.exists_exhausted bridges
  obtain ⟨t, ht, -⟩ | ⟨-, hnone⟩ := answer_cases (n.run (List.replicate k (.allocate bridges))) bridges
  · rw [hk] at ht
    cases ht
  · exact hnone s hw (available_run_allocate h fun j _ hj => hne ⟨j, hj⟩)

end OffloadVolume.Tenancy
