import OffloadVolume.Proofs.Exhaustion

/-!
# Functions that come back

Whether a function that an attachment kept can be handed out again once its device has come and
gone. The claims learn of a device only if an allocation looks while it is there; otherwise the
claim stays for good. Main statements: `stranded_iff` and `reclaims_iff_none_stranded`, this is the
only way in which functions are refused although one of them is not in use, and `answer_pairs`,
attaching and detaching in turn uses every function up.
-/

namespace OffloadVolume.Tenancy

variable {n : Tenancy} {bridges k : Nat} {s : PciSlot}

def Unused (n : Tenancy) (s : PciSlot) : Prop :=
  n.present s = false ∧ ∀ t ∈ n.tenures, t.slot = s → ¬t.Holds

/-- Functions are refused only if each of them has a device or is held. -/
def Reclaims (n : Tenancy) : Prop :=
  ∀ bridges, n.answer bridges = .error (.functionsExhausted bridges) →
    ∀ s : PciSlot, s.Within bridges → n.present s = true ∨ ∃ t ∈ n.tenures, t.slot = s ∧ t.Holds

/-- A function is not in use, but an attachment that kept it had a device which came and went
without an allocation that saw it. -/
def Stranded (n : Tenancy) (s : PciSlot) : Prop :=
  n.Unused s ∧ ∃ t ∈ n.tenures, t.slot = s ∧ t.hold = .kept ∧ t.vanished = true ∧ t.Fresh

/-- The stranded functions are those that are not in use and yet cannot be handed out. -/
theorem stranded_iff (htr : n.Tracked) (hso : n.Sound) :
    n.Stranded s ↔ n.Unused s ∧ ¬n.Available s := by
  refine and_congr_right fun hun => ?_
  rw [Available, available_iff htr, not_and_or, not_forall]
  constructor
  · rintro ⟨t, ht, hs, -, -, hf⟩
    exact .inr ⟨t, fun h => h ht hs hf⟩
  · rintro (hp | ⟨t, ht⟩)
    · exact absurd hun.1 hp
    · simp only [not_forall, not_not] at ht
      obtain ⟨ht, hs, hf⟩ := ht
      have hh := hun.2 t ht hs
      refine ⟨t, ht, hs, ?_⟩
      simp only [Tenure.Holds, not_or, not_and, Bool.not_eq_false] at hh
      cases hhold : t.hold with
      | guarded => exact absurd hhold hh.1
      | kept => exact ⟨rfl, hh.2 hhold, hf⟩
      | released =>
        have hc := (hso t ht).cleared hhold
        rw [hf.2] at hc
        cases hc

/-- Where nothing is stranded, functions are refused only while they are in use. -/
theorem reclaims_of_none_stranded (htr : n.Tracked) (hso : n.Sound) (h : ∀ s, ¬n.Stranded s) :
    n.Reclaims := by
  intro bridges hb s hs
  by_contra hne
  simp only [not_or, not_exists, not_and, Bool.not_eq_true] at hne
  refine h s ((stranded_iff htr hso).2 ⟨hne, ?_⟩)
  obtain ⟨t, ht, -⟩ | ⟨-, hnone⟩ := n.answer_cases bridges
  · rw [hb] at ht
    cases ht
  · exact hnone s hs

theorem unused_allocate : (n.step (.allocate bridges)).Unused s ↔
    n.Unused s ∧ n.answer bridges ≠ .ok s := by
  have hold : (∀ t ∈ n.noticed, t.slot = s → ¬t.Holds) ↔ ∀ t ∈ n.tenures, t.slot = s → ¬t.Holds := by
    simp [noticed, Tenure.holds_notice]
  rw [Unused, Unused, and_assoc]
  refine and_congr_right fun _ => ?_
  cases ha : n.answer bridges with
  | error e => simp [tenures_allocate_error ha, hold]
  | ok slot => simp [tenures_allocate_ok ha, hold, Tenure.holds_handedOut, and_comm]

/-- Allocations neither strand a function nor save one. -/
theorem stranded_allocate (htr : n.Tracked) (hso : n.Sound) :
    (n.step (.allocate bridges)).Stranded s ↔ n.Stranded s := by
  rw [stranded_iff htr hso, stranded_iff (tracked_step n _ htr) (sound_step n _ hso),
    available_allocate, unused_allocate]
  constructor
  · rintro ⟨⟨hun, hne⟩, hna⟩
    exact ⟨hun, fun ha => hna ⟨ha, hne⟩⟩
  · rintro ⟨hun, hna⟩
    exact ⟨⟨hun, fun ha => hna (available_of_answer ha).2⟩, fun h => hna h.1⟩

/-- However many allocations follow, what is stranded stays so. -/
theorem stranded_run_allocate (p : PciSlot → Bool) (es : List Event) (bs : List Nat) :
    ((start p).run (es ++ bs.map .allocate)).Stranded s ↔ ((start p).run es).Stranded s := by
  induction bs using List.reverseRecOn with
  | nil => simp
  | append_singleton bs b ih =>
    rw [List.map_append, ← List.append_assoc, run_append, ← ih]
    exact stranded_allocate (tracked_run p _) (sound_run p _)

/-! ## Attaching and detaching in turn -/

/-- An attachment is handed its function, whose device comes; it keeps the function; and the device
goes. -/
def pair (bridges k : Nat) : List Event :=
  [.allocate bridges, .devices (· == .ofFunction k), .keep k, .devices fun _ => false]

def pairs (bridges : Nat) : Nat → List Event
  | 0 => []
  | k + 1 => pairs bridges k ++ pair bridges k

structure Spent (k : Nat) (n : Tenancy) : Prop where
  present : n.present = fun _ => false
  fresh : ∀ s : PciSlot, s.vf < functionsPerBridge → (n.claims.Fresh s ↔ s.function < k)
  length : n.tenures.length = k
  ended : ∀ t ∈ n.tenures, t.hold = .kept ∧ t.vanished = true

theorem Spent.answer (h : n.Spent k) (hk : k ≤ bridges * functionsPerBridge) :
    n.answer bridges = if k < bridges * functionsPerBridge then .ok (.ofFunction k)
      else .error (.functionsExhausted bridges) := by
  have hav {s : PciSlot} (hs : s.Within bridges) : n.Available s ↔ k ≤ s.function := by
    simp [Available, Claims.Available, h.present, h.fresh s hs.2]
  obtain ⟨s, hs, hw, ha, hleast⟩ | ⟨hs, hnone⟩ := n.answer_cases bridges
  · obtain ⟨m, hm, rfl⟩ := PciSlot.within_iff.1 hw
    have hkm := (hav hw).1 ha
    rw [PciSlot.function_ofFunction] at hkm
    have hlt : k < bridges * functionsPerBridge := by omega
    have hwk : (PciSlot.ofFunction k).Within bridges := PciSlot.within_iff.2 ⟨k, hlt, rfl⟩
    have hmk : ¬k < m := fun hlt => hleast _ hwk (by simpa using hlt) ((hav hwk).2 (by simp))
    rw [hs, if_pos hlt, show m = k by omega]
  · rw [hs, if_neg]
    intro hlt
    have hwk : (PciSlot.ofFunction k).Within bridges := PciSlot.within_iff.2 ⟨k, hlt, rfl⟩
    exact hnone _ hwk ((hav hwk).2 (by simp))

theorem tenures_pair (n : Tenancy) (bridges k : Nat) : (n.run (pair bridges k)).tenures =
    (((n.step (.allocate bridges)).tenures.map (·.see (· == .ofFunction k))).map (·.keep k)).map
      (·.see fun _ => false) := rfl

theorem fresh_pair : (n.run (pair bridges k)).claims.Fresh s ↔
    n.claims.Fresh s ∧ n.present s = false ∨ n.answer bridges = .ok s := Claims.fresh_allocate

/-- An attachment that is over is not changed by a later one. -/
theorem Spent.ended_pair (h : n.Spent k) (i : Nat) {t : Tenure}
    (ht : t ∈ ((n.noticed.map (·.see (· == .ofFunction i))).map (·.keep i)).map
      (·.see fun _ => false)) : t.hold = .kept ∧ t.vanished = true := by
  simp only [noticed, List.mem_map, exists_exists_and_eq_and] at ht
  obtain ⟨t, ht, rfl⟩ := ht
  obtain ⟨hk, hv⟩ := h.ended t ht
  simp [Tenure.notice, Tenure.see, Tenure.keep, hk, hv]

/-- One more attachment whose device comes and goes spends one more function. -/
theorem Spent.pair (h : n.Spent k) (hk : k < bridges * functionsPerBridge) :
    (n.run (pair bridges k)).Spent (k + 1) := by
  have ha := h.answer (Nat.le_of_lt hk)
  rw [if_pos hk] at ha
  have ht := tenures_pair n bridges k
  rw [tenures_allocate_ok ha, h.length] at ht
  constructor
  · rfl
  · intro s hs
    have heq : PciSlot.ofFunction k = s ↔ s.function = k := by
      constructor
      · rintro rfl
        simp
      · rintro rfl
        exact PciSlot.ofFunction_function hs
    simp only [fresh_pair, h.fresh s hs, h.present, and_true, ha, Except.ok.injEq, heq]
    omega
  · simp [ht, noticed, h.length]
  · intro t htm
    simp only [ht, List.map_cons, List.mem_cons] at htm
    obtain rfl | htm := htm
    · simp [Tenure.see, Tenure.keep]
    · exact h.ended_pair k htm

/-- Without a function to hand out, an attachment fails and changes nothing. -/
theorem Spent.pair_of_exhausted (h : (n.Spent (bridges * functionsPerBridge))) :
    (n.run (Tenancy.pair bridges k)).Spent (bridges * functionsPerBridge) := by
  have ha := h.answer (Nat.le_refl _)
  rw [if_neg (Nat.lt_irrefl _)] at ha
  have ht := tenures_pair n bridges k
  rw [tenures_allocate_error ha] at ht
  constructor
  · rfl
  · intro s hs
    simp [fresh_pair, h.fresh s hs, h.present, ha]
  · simp [ht, noticed, h.length]
  · exact fun t htm => h.ended_pair k (ht ▸ htm)

/-- Attachments one after another spend one function each, until there are none left. -/
theorem spent_pairs (bridges k : Nat) :
    ((start fun _ => false).run (pairs bridges k)).Spent (min k (bridges * functionsPerBridge)) := by
  induction k with
  | zero =>
    rw [Nat.zero_min]
    exact ⟨rfl, by simp [pairs, start, Claims.Fresh], rfl, by simp [pairs, start]⟩
  | succ k ih =>
    rw [pairs, run_append]
    by_cases hk : k < bridges * functionsPerBridge
    · rw [Nat.min_eq_left (Nat.le_of_lt hk)] at ih
      rw [Nat.min_eq_left hk]
      exact ih.pair hk
    · rw [Nat.min_eq_right (by omega)] at ih ⊢
      exact ih.pair_of_exhausted

/-- Attachments that are attached and detached in turn are handed the functions in turn, each
once. -/
theorem answer_pairs (bridges k : Nat) :
    ((start fun _ => false).run (pairs bridges k)).answer bridges =
      if k < bridges * functionsPerBridge then .ok (.ofFunction k)
      else .error (.functionsExhausted bridges) := by
  rw [(spent_pairs bridges k).answer (Nat.min_le_right ..)]
  by_cases hk : k < bridges * functionsPerBridge
  · rw [Nat.min_eq_left (Nat.le_of_lt hk)]
  · rw [Nat.min_eq_right (by omega), if_neg (Nat.lt_irrefl _), if_neg hk]

/-- Functions are refused, after a run and any further allocations, only if each has a device or is
held, exactly if the run has stranded none. Attaching and detaching in turn strands them all. -/
theorem reclaims_iff_none_stranded (p : PciSlot → Bool) (es : List Event) :
    ((∀ bs : List Nat, ((start p).run (es ++ bs.map .allocate)).Reclaims) ↔
      ∀ s, ¬((start p).run es).Stranded s) ∧
    ∀ bridges k, ((start fun _ => false).run (pairs bridges k)).answer bridges =
      if k < bridges * functionsPerBridge then .ok (.ofFunction k)
      else .error (.functionsExhausted bridges) := by
  refine ⟨⟨?_, ?_⟩, answer_pairs⟩
  · intro h s hs
    obtain ⟨-, t, ht, hts, -⟩ := id hs
    have hw : s.Within (s.pf + 1) := ⟨by omega, hts ▸ (sound_run p es t ht).place⟩
    obtain ⟨k, hk⟩ := ((start p).run es).exists_exhausted (s.pf + 1)
    have hre := h (List.replicate k (s.pf + 1)) (s.pf + 1)
    have hst := (stranded_run_allocate p es (List.replicate k (s.pf + 1))).2 hs
    rw [List.map_replicate, run_append] at hre hst
    obtain hp | ⟨u, hu, hus, hh⟩ := hre hk s hw
    · rw [hst.1.1] at hp
      cases hp
    · exact hst.1.2 u hu hus hh
  · intro h bs
    refine reclaims_of_none_stranded (tracked_run p _) (sound_run p _) fun s hs => h s ?_
    exact (stranded_run_allocate p es bs).1 hs

/-- After 32 attachments on one bridge, each detached before the next, no function is left although
none is in use. -/
theorem not_reclaims_run : ¬((start fun _ => false).run (pairs 1 32)).Reclaims := by
  intro h
  have hs := spent_pairs 1 32
  obtain hp | ⟨t, ht, -, hh⟩ := h 1 (hs.answer (by decide)) ⟨0, 0⟩ ⟨by decide, by decide⟩
  · simp [hs.present] at hp
  · obtain ⟨hk, hv⟩ := hs.ended t ht
    simp [Tenure.Holds, hk, hv] at hh

end OffloadVolume.Tenancy
