import Mathlib.Data.List.Pairwise
import OffloadVolume.Proofs.Exhaustion

/-!
# Exclusive functions

Whether two attachments can hold one function. The device of an attachment may come and go while
the attachment still guards its function; if an allocation looks in between, the claim ends although
the function is held. Main statement: `exclusive_iff_none_lost`, this is the only way in which two
attachments come to hold one function.
-/

namespace OffloadVolume

/-- An attachment guards its function, an allocation has seen the device, and the device is gone. -/
def Tenure.Lost (p : PciSlot → Bool) (t : Tenure) : Prop :=
  t.hold = .guarded ∧ t.noticed = true ∧ p t.slot = false

namespace Tenancy

variable {n : Tenancy} {bridges : Nat} {p : PciSlot → Bool} {t : Tenure} {es : List Event}

def Exclusive (n : Tenancy) : Prop :=
  n.tenures.Pairwise fun t u => t.Holds → u.Holds → t.slot ≠ u.slot

instance (n : Tenancy) : Decidable n.Exclusive := inferInstanceAs (Decidable (List.Pairwise _ _))

def NoneLost (n : Tenancy) : Prop := ∀ t ∈ n.tenures, ¬t.Lost n.present

theorem pairwise_or {R : Tenure → Tenure → Prop} {l : List Tenure} {t u : Tenure}
    (h : l.Pairwise R) (ht : t ∈ l) (hu : u ∈ l) (hne : t ≠ u) : R t u ∨ R u t := by
  have : Std.Symm fun t u => R t u ∨ R u t := ⟨fun _ _ => Or.symm⟩
  exact (h.imp fun {t u} h => Or.inl (b := R u t) h).forall ht hu hne

theorem exclusive_map {g : Tenure → Tenure} (hs : ∀ t, (g t).slot = t.slot)
    (hg : ∀ t, (g t).Holds → t.Holds) (h : n.Exclusive) :
    (n.tenures.map g).Pairwise fun t u => t.Holds → u.Holds → t.slot ≠ u.slot := by
  refine List.pairwise_map.2 (h.imp fun {t u} htu ht hu => ?_)
  rw [hs, hs]
  exact htu (hg t ht) (hg u hu)

/-! ## Runs without a loss -/

/-- Functions are held by one attachment each, and nobody gave back what another one holds. -/
structure Secure (n : Tenancy) : Prop where
  exclusive : n.Exclusive
  uncleared : ∀ t ∈ n.tenures, t.Holds → t.cleared = false

/-- An available function is held by nobody, unless it was lost. -/
theorem Secure.lost_of_available (h : n.Secure) (htr : n.Tracked) (hso : n.Sound) (ht : t ∈ n.tenures)
    (hh : t.Holds) (ha : n.Available t.slot) : t.Lost n.present := by
  obtain ⟨hp, hf⟩ := (available_iff htr).1 ha
  have hn : t.noticed = true := by
    by_contra hn
    exact hf t ht rfl ⟨by simpa using hn, h.uncleared t ht hh⟩
  have hv := (hso t ht).vanished_of_noticed hn hp
  exact ⟨hh.resolve_right fun hk => by simp [hv] at hk, hn, hp⟩

/-- Unless a device is lost, an event keeps functions secure. -/
theorem secure_step (e : Event) (htr : n.Tracked) (hso : n.Sound) (hl : n.NoneLost)
    (h : n.Secure) : (n.step e).Secure := by
  cases e with
  | allocate bridges =>
    have hold : ∀ t ∈ n.noticed, t.Holds → t.cleared = false := by
      simp only [noticed, List.mem_map]
      rintro _ ⟨t, ht, rfl⟩
      exact h.uncleared t ht
    have hex := exclusive_map (g := (·.notice n.present)) (fun _ => rfl) (fun _ => Tenure.holds_notice.1)
      h.exclusive
    cases ha : n.answer bridges with
    | error e => exact ⟨by rw [Exclusive, tenures_allocate_error ha]; exact hex,
        by rw [tenures_allocate_error ha]; exact hold⟩
    | ok slot =>
      constructor
      · rw [Exclusive, tenures_allocate_ok ha]
        refine List.pairwise_cons.2 ⟨?_, hex⟩
        simp only [noticed, List.mem_map]
        rintro _ ⟨t, ht, rfl⟩ - hh rfl
        exact hl t ht (h.lost_of_available htr hso ht hh (available_of_answer ha).2)
      · rw [tenures_allocate_ok ha]
        simpa using hold
  | release i =>
    cases hu : n.guard? i with
    | none => rwa [step_release_none hu]
    | some u =>
      rw [step_release_some hu]
      refine ⟨exclusive_map (fun _ => rfl) (fun _ h => (Tenure.holds_of_release h).1) h.exclusive, ?_⟩
      simp only [List.mem_map]
      rintro _ ⟨t, ht, rfl⟩ hh
      obtain ⟨hh, hne⟩ := Tenure.holds_of_release hh
      obtain ⟨hu, hg⟩ := guard?_eq_some hu
      -- `u` guards its function, so that no other attachment holds it
      have hs : t.slot ≠ u.slot :=
        (pairwise_or h.exclusive ht hu hne).elim (fun h => h hh (.inl hg))
          fun h => (h (.inl hg) hh).symm
      simp [Tenure.release, hs, h.uncleared t ht hh]
  | keep i =>
    refine ⟨exclusive_map (fun _ => Tenure.slot_keep) (fun _ => Tenure.holds_of_keep) h.exclusive, ?_⟩
    simp only [step, List.mem_map]
    rintro _ ⟨t, ht, rfl⟩ hh
    have := h.uncleared t ht (Tenure.holds_of_keep hh)
    unfold Tenure.keep
    split <;> exact this
  | devices p =>
    refine ⟨exclusive_map (fun _ => rfl) (fun _ => Tenure.holds_of_see) h.exclusive, ?_⟩
    simp only [step, List.mem_map]
    rintro _ ⟨t, ht, rfl⟩ hh
    exact h.uncleared t ht (Tenure.holds_of_see hh)

/-- As long as no device was lost, functions are secure. -/
theorem secure_run (h : ∀ q, q <+: es → ((start p).run q).NoneLost) :
    ((start p).run es).Secure := by
  induction es using List.reverseRecOn with
  | nil => exact ⟨List.Pairwise.nil, fun t ht => by simp [start] at ht⟩
  | append_singleton es e ih =>
    rw [run_append]
    exact secure_step e (tracked_run p es) (sound_run p es) (h es (List.prefix_append ..))
      (ih fun q hq => h q (hq.trans (List.prefix_append ..)))

/-- An allocation does not make an attachment lose its device. -/
theorem noneLost_allocate (h : n.NoneLost) : (n.step (.allocate bridges)).NoneLost := by
  have hold : ∀ t ∈ n.noticed, ¬t.Lost n.present := by
    simp only [noticed, List.mem_map]
    rintro _ ⟨t, ht, rfl⟩ ⟨hg, hn, hp⟩
    refine h t ht ⟨hg, ?_, hp⟩
    simpa [Tenure.notice, show n.present t.slot = false from hp] using hn
  cases ha : n.answer bridges with
  | error e => rw [NoneLost, tenures_allocate_error ha]; exact hold
  | ok slot =>
    simp only [NoneLost, tenures_allocate_ok ha, List.mem_cons, forall_eq_or_imp]
    exact ⟨fun hl => by simpa using hl.2.1, hold⟩

/-- Allocations alone lose nothing. -/
theorem noneLost_run_allocate (h : ∀ q, q <+: es → ((start p).run q).NoneLost) (bs : List Nat) :
    ∀ q, q <+: es ++ bs.map .allocate → ((start p).run q).NoneLost := by
  induction bs using List.reverseRecOn with
  | nil => simpa using h
  | append_singleton bs b ih =>
    intro q hq
    rw [List.map_append, ← List.append_assoc, List.map_singleton, List.prefix_concat_iff] at hq
    obtain rfl | hq := hq
    · rw [run_append]
      exact noneLost_allocate (ih _ (List.prefix_refl _))
    · exact ih q hq

/-! ## Losses -/

/-- Whenever a function was handed out, no earlier attachment held it any more. -/
def Orderly (n : Tenancy) : Prop := n.tenures.Pairwise fun t u => t.slot = u.slot → ¬u.Holds

theorem orderly_step (e : Event) (hex : (n.step e).Exclusive) (h : n.Orderly) :
    (n.step e).Orderly := by
  cases e with
  | allocate bridges =>
    have hold : n.noticed.Pairwise fun t u => t.slot = u.slot → ¬u.Holds :=
      Tenure.pairwise_map (fun _ => rfl) (fun _ => Tenure.holds_notice.1) h
    cases ha : n.answer bridges with
    | error e => rw [Orderly, tenures_allocate_error ha]; exact hold
    | ok slot =>
      rw [Exclusive, tenures_allocate_ok ha, List.pairwise_cons] at hex
      rw [Orderly, tenures_allocate_ok ha]
      exact List.pairwise_cons.2 ⟨fun u hu hs hh => hex.1 u hu (.inl rfl) hh hs, hold⟩
  | release i =>
    cases hu : n.guard? i with
    | none => rwa [step_release_none hu]
    | some u =>
      rw [step_release_some hu]
      exact Tenure.pairwise_map (fun _ => rfl) (fun _ hh => (Tenure.holds_of_release hh).1) h
  | keep i =>
    exact Tenure.pairwise_map (fun _ => Tenure.slot_keep) (fun _ => Tenure.holds_of_keep) h
  | devices p => exact Tenure.pairwise_map (fun _ => rfl) (fun _ => Tenure.holds_of_see) h

/-- Functions are handed out in order as long as they are held exclusively. -/
theorem orderly_run (h : ∀ q, q <+: es → ((start p).run q).Exclusive) :
    ((start p).run es).Orderly := by
  induction es using List.reverseRecOn with
  | nil => exact List.Pairwise.nil
  | append_singleton es e ih =>
    have hex := h _ (List.prefix_refl _)
    rw [run_append] at hex ⊢
    exact orderly_step e hex (ih fun q hq => h q (hq.trans (List.prefix_append ..)))

/-- A function that was lost can be handed out. -/
theorem Orderly.available_of_lost (h : n.Orderly) (htr : n.Tracked) (hse : n.Settled)
    (ht : t ∈ n.tenures) (hl : t.Lost n.present) : n.Available t.slot := by
  obtain ⟨hg, hn, hp⟩ := hl
  refine (available_iff htr).2 ⟨hp, fun u hu hs hf => ?_⟩
  have hne : u ≠ t := by
    rintro rfl
    simp [hf.1] at hn
  obtain ⟨h₁, -⟩ | ⟨-, h₂⟩ := pairwise_or (List.pairwise_and_iff.2 ⟨h, hse⟩) hu ht hne
  · exact h₁ hs (.inl hg)
  · exact h₂ hs.symm hf

theorem guarded_allocate {s : PciSlot} (h : ∃ t ∈ n.tenures, t.slot = s ∧ t.hold = .guarded) :
    ∃ t ∈ (n.step (.allocate bridges)).tenures, t.slot = s ∧ t.hold = .guarded := by
  obtain ⟨t, ht, hs, hg⟩ := h
  have hmem : t.notice n.present ∈ n.noticed := List.mem_map_of_mem ht
  cases ha : n.answer bridges with
  | error e => exact ⟨t.notice n.present, by rwa [tenures_allocate_error ha], hs, hg⟩
  | ok slot => exact ⟨t.notice n.present, by rw [tenures_allocate_ok ha]; exact .tail _ hmem, hs, hg⟩

/-- A guarded function that can be handed out is held twice after enough allocations. -/
theorem exists_not_exclusive {s : PciSlot} (hs : s.vf < functionsPerBridge) (ha : n.Available s)
    (hg : ∃ t ∈ n.tenures, t.slot = s ∧ t.hold = .guarded) :
    ∃ bs : List Nat, ¬(n.run (bs.map .allocate)).Exclusive := by
  have hw : s.Within (s.pf + 1) := ⟨by omega, hs⟩
  obtain ⟨k, hk⟩ := exists_answer hw ha
  refine ⟨List.replicate (k + 1) (s.pf + 1), fun hex => ?_⟩
  have hgk : ∃ t ∈ (n.run (List.replicate k (.allocate (s.pf + 1)))).tenures,
      t.slot = s ∧ t.hold = .guarded := by
    clear hk hex
    induction k with
    | zero => exact hg
    | succ k ih => rw [List.replicate_succ', run_append]; exact guarded_allocate ih
  obtain ⟨t, ht, hts, htg⟩ := hgk
  rw [List.map_replicate, List.replicate_succ', run_append, run_cons, run_nil, Exclusive,
    tenures_allocate_ok hk, List.pairwise_cons] at hex
  exact hex.1 _ (List.mem_map_of_mem ht) (.inl rfl) (.inl htg) hts.symm

/-- Functions are held by one attachment each at all times of a run, however many allocations
follow, exactly if at no time of it an attachment loses the device of a function that it guards. -/
theorem exclusive_iff_none_lost (p : PciSlot → Bool) (es : List Event) :
    (∀ q, q <+: es → ∀ bs : List Nat, ((start p).run (q ++ bs.map .allocate)).Exclusive) ↔
      ∀ q, q <+: es → ((start p).run q).NoneLost := by
  constructor
  · intro h q hq t ht hl
    have hor : ((start p).run q).Orderly := orderly_run fun r hr => by
      simpa using h r (hr.trans hq) []
    have ha := hor.available_of_lost (tracked_run p q) (settled_run p q) ht hl
    obtain ⟨bs, hbs⟩ := exists_not_exclusive (sound_run p q t ht).place ha ⟨t, ht, rfl, hl.1⟩
    exact hbs (run_append _ _ ▸ h q hq bs)
  · intro h q hq bs
    have hnone := noneLost_run_allocate (fun r hr => h r (hr.trans hq)) bs
    exact (secure_run hnone).exclusive

/-- The device of the first function comes, is seen by an allocation, and goes, all while the
function is guarded; then it is handed out again. -/
theorem not_exclusive_run : ¬((start fun _ => false).run
    [.allocate 1, .devices (· == ⟨0, 0⟩), .allocate 1, .devices fun _ => false,
      .allocate 1]).Exclusive := by
  decide

end Tenancy
end OffloadVolume
