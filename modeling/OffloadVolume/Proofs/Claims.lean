import OffloadVolume.Host.Claims

/-!
# Fresh claims

A claim is fresh until some allocation looks while its device is there. Fresh claims alone decide
what can be handed out. Main statements: `allocate_cases`, what an allocation answers, and
`fresh_allocate` and `fresh_release`, what becomes of the fresh claims.
-/

namespace OffloadVolume

def PciSlot.Within (bridges : Nat) (s : PciSlot) : Prop :=
  s.pf < bridges ∧ s.vf < functionsPerBridge

theorem PciSlot.within_iff {bridges : Nat} {s : PciSlot} :
    s.Within bridges ↔ ∃ n, n < bridges * functionsPerBridge ∧ ofFunction n = s := by
  constructor
  · intro h
    refine ⟨s.function, ?_, ofFunction_function h.2⟩
    obtain ⟨hp, hv⟩ := h
    simp only [function, functionsPerBridge] at *
    omega
  · rintro ⟨n, hn, rfl⟩
    simp only [Within, ofFunction, functionsPerBridge] at *
    omega

namespace Claims

variable {present : PciSlot → Bool} {c : Claims} {s t : PciSlot} {bridges : Nat}

/-- A function is claimed, and no allocation has seen its device since. -/
def Fresh (c : Claims) (s : PciSlot) : Prop := ⟨s, false⟩ ∈ c.entries

/-- A function can be handed out: it has no device and no fresh claim. -/
def Available (present : PciSlot → Bool) (c : Claims) (s : PciSlot) : Prop :=
  present s = false ∧ ¬c.Fresh s

/-- A claim stays fresh as long as its device is not there when an allocation looks. -/
theorem fresh_prune : (c.prune present).Fresh s ↔ c.Fresh s ∧ present s = false := by
  simp only [Fresh, prune, List.mem_filterMap]
  constructor
  · rintro ⟨e, he, hs⟩
    split at hs
    · simp at hs
    · split at hs
      · simp at hs
      · simp only [Option.some.injEq] at hs
        subst hs
        exact ⟨he, by simpa using ‹¬present _ = true›⟩
  · rintro ⟨he, hs⟩
    exact ⟨⟨s, false⟩, he, by simp [hs]⟩

theorem mem_prune_of_absent {e : Claim} (he : e ∈ (c.prune present).entries)
    (hs : present e.slot = false) : e.appeared = false := by
  simp only [prune, List.mem_filterMap] at he
  obtain ⟨f, _, hf⟩ := he
  split at hf
  · simp only [Option.some.injEq] at hf
    subst hf
    simp_all
  · split at hf
    · simp at hf
    · simp only [Option.some.injEq] at hf
      subst hf
      simp_all

/-- After pruning, a function is free exactly if it was available before. -/
theorem isFree_prune :
    (c.prune present).isFree present s = true ↔ c.Available present s := by
  simp only [isFree, find?, Available, Bool.and_eq_true, Bool.not_eq_true',
    Option.isNone_iff_eq_none, List.find?_eq_none, beq_iff_eq]
  refine and_congr_right fun hs => ⟨fun h hf => ?_, fun h e he hes => h ?_⟩
  · exact h _ (fresh_prune.2 ⟨hf, hs⟩) rfl
  · subst hes
    have ha := mem_prune_of_absent he hs
    obtain ⟨slot, appeared⟩ := e
    subst ha
    exact (fresh_prune.1 he).1

/-- What an allocation answers: the first available function on the bridges, or that there is
none. -/
theorem allocate_cases (present : PciSlot → Bool) (bridges : Nat) (c : Claims) :
    (∃ s, c.allocate present bridges = (.ok s, ⟨(c.prune present).entries ++ [⟨s, false⟩]⟩) ∧
      s.Within bridges ∧ c.Available present s ∧
      ∀ t : PciSlot, t.Within bridges → t.function < s.function → ¬c.Available present t) ∨
    (c.allocate present bridges = (.error (.functionsExhausted bridges), c.prune present) ∧
      ∀ t : PciSlot, t.Within bridges → ¬c.Available present t) := by
  unfold allocate firstFree
  cases hf : firstFrom (fun n => (c.prune present).isFree present (.ofFunction n)) 0
      (bridges * functionsPerBridge) with
  | some n =>
    obtain ⟨-, hn, hfree, hleast⟩ := firstFrom_eq_some_iff.1 hf
    refine .inl ⟨.ofFunction n, by simp, PciSlot.within_iff.2 ⟨n, by omega, rfl⟩,
      isFree_prune.1 hfree, fun t ht hlt ha => ?_⟩
    rw [PciSlot.function_ofFunction] at hlt
    have := hleast t.function (Nat.zero_le _) hlt
    rw [PciSlot.ofFunction_function ht.2] at this
    simp [isFree_prune.2 ha] at this
  | none =>
    refine .inr ⟨by simp, fun t ht ha => ?_⟩
    obtain ⟨n, hn, rfl⟩ := PciSlot.within_iff.1 ht
    have := firstFrom_eq_none_iff.1 hf n (Nat.zero_le _) (by omega)
    simp [isFree_prune.2 ha] at this

/-- An allocation leaves the fresh claims whose device is not there, and adds what it answers. -/
theorem fresh_allocate : (c.allocate present bridges).2.Fresh s ↔
    (c.Fresh s ∧ present s = false) ∨ (c.allocate present bridges).1 = .ok s := by
  obtain ⟨t, ht, -⟩ | ⟨ht, -⟩ := allocate_cases present bridges c
  · have hmem : Fresh ⟨(c.prune present).entries ++ [⟨t, false⟩]⟩ s ↔
        (c.prune present).Fresh s ∨ s = t := by simp [Fresh]
    simp only [ht, hmem, fresh_prune, Except.ok.injEq, eq_comm]
  · simp [ht, fresh_prune]

theorem fresh_release : (c.release t).Fresh s ↔ c.Fresh s ∧ s ≠ t := by
  simp [Fresh, release]

/-- What is handed out could be handed out. -/
theorem available_of_allocate (h : (c.allocate present bridges).1 = .ok s) :
    s.Within bridges ∧ c.Available present s := by
  obtain ⟨t, ht, hw, ha, -⟩ | ⟨ht, -⟩ := allocate_cases present bridges c
  · rw [ht] at h
    cases h
    exact ⟨hw, ha⟩
  · rw [ht] at h
    cases h

/-- While the devices stay, an allocation takes away what it hands out and nothing else. -/
theorem available_allocate : (c.allocate present bridges).2.Available present s ↔
    c.Available present s ∧ (c.allocate present bridges).1 ≠ .ok s := by
  simp only [Available, fresh_allocate, not_or, not_and, and_assoc]
  refine and_congr_right fun hs => and_congr_left fun _ => ?_
  exact ⟨fun h hf => h hf hs, fun h hf => absurd hf h⟩

end Claims
end OffloadVolume
