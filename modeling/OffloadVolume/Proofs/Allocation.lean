import Mathlib.Data.List.Nodup
import OffloadVolume.Proofs.Tenancy

/-!
# Allocations

An allocation looks at the devices and then takes the first function that has neither a device nor
a claim. Main statement: `Sysfs.handsOut_of_distinct`, this is what a device tree does with every
claim and every function, and a function that is given back is handed out next if it is the first
free one.
-/

namespace OffloadVolume

/-- A function comes before another one: on an earlier bridge, or earlier on the same one. -/
def PciSlot.Precedes (s t : PciSlot) : Prop := s.pf < t.pf ∨ s.pf = t.pf ∧ s.vf < t.vf

/-- Functions are numbered in the order in which they are handed out. -/
theorem PciSlot.function_lt_iff {s t : PciSlot} (hs : s.vf < functionsPerBridge)
    (ht : t.vf < functionsPerBridge) : s.function < t.function ↔ s.Precedes t := by
  simp only [function, Precedes, functionsPerBridge] at *
  omega

theorem PciSlot.Precedes.asymm {s t : PciSlot} (h : s.Precedes t) : ¬t.Precedes s := by
  unfold Precedes at *
  omega

namespace Claims

variable {present : PciSlot → Bool} {bridges : Nat} {c d : Claims} {s t : PciSlot}

def Distinct (c : Claims) : Prop := (c.entries.map (·.slot)).Nodup

instance (c : Claims) : Decidable c.Distinct := inferInstanceAs (Decidable (List.Nodup _))

theorem slot_of_find? {e : Claim} (he : c.find? s = some e) : e.slot = s := by
  simpa using List.find?_some he

theorem find?_eq_none_iff : c.find? s = none ↔ s ∉ c.entries.map (·.slot) := by
  simp [find?]

theorem distinct_empty : empty.Distinct := List.nodup_nil

theorem Distinct.release (hc : c.Distinct) (s : PciSlot) : (c.release s).Distinct :=
  hc.sublist (List.filter_sublist.map _)

/-- An allocation drops the claims whose device was seen and is gone, and keeps the order of the
others. -/
theorem slots_prune : (c.prune present).entries.map (·.slot) =
    (c.entries.filter fun e => present e.slot || !e.appeared).map (·.slot) := by
  rw [prune, ← List.filterMap_eq_filter, List.map_filterMap, List.map_filterMap]
  refine List.filterMap_congr fun e _ => ?_
  cases hp : present e.slot <;> cases ha : e.appeared <;> simp [Option.guard, hp, ha]

theorem Distinct.prune (hc : c.Distinct) : (c.prune present).Distinct := by
  rw [Distinct, slots_prune]
  exact hc.sublist (List.filter_sublist.map _)

/-- What becomes of a claim when an allocation looks at the devices. -/
theorem find?_prune (hc : c.Distinct) : (c.prune present).find? s = (c.find? s).bind fun e =>
    if present s then some ⟨s, true⟩ else if e.appeared then none else some e := by
  obtain ⟨entries⟩ := c
  induction entries with
  | nil => rfl
  | cons e entries ih =>
    obtain ⟨hnot, hrest⟩ := List.nodup_cons.1 hc
    have ih := ih hrest
    simp only [find?, prune, List.filterMap_cons] at ih ⊢
    by_cases hs : e.slot = s
    · -- no other claim is on the function, so that the rest has none either
      have hnone : entries.find? (·.slot == s) = none :=
        find?_eq_none_iff (c := ⟨entries⟩) |>.2 (hs ▸ hnot)
      rw [hnone, Option.bind_none] at ih
      obtain ⟨slot, appeared⟩ := e
      subst hs
      cases present slot <;> cases appeared <;> simp [ih]
    · have hne : (e.slot == s) = false := by simpa using hs
      cases hp : present e.slot <;> cases ha : e.appeared <;> simp [hne, ih]

/-- The claims `d` are the claims `c` after an allocation looked at the devices: those have ended
that were marked and whose device is gone, and those are marked whose device is there. -/
structure Reviewed (present : PciSlot → Bool) (c d : Claims) : Prop where
  ended : ∀ s, d.find? s = none ↔
    c.find? s = none ∨ c.find? s = some ⟨s, true⟩ ∧ present s = false
  marked : ∀ s, d.find? s = some ⟨s, true⟩ ↔ c.find? s ≠ none ∧ present s = true
  unmarked : ∀ s, d.find? s = some ⟨s, false⟩ ↔
    c.find? s = some ⟨s, false⟩ ∧ present s = false

theorem reviewed_prune (present : PciSlot → Bool) (hc : c.Distinct) :
    Reviewed present c (c.prune present) := by
  have hcases (s : PciSlot) : c.find? s = none ∨ ∃ a, c.find? s = some ⟨s, a⟩ := by
    cases he : c.find? s with
    | none => exact .inl rfl
    | some e => exact .inr ⟨e.appeared, by rw [← slot_of_find? he]⟩
  constructor <;> intro s <;> rw [find?_prune hc] <;> obtain he | ⟨a, he⟩ := hcases s <;>
    cases hp : present s <;> simp [he]

/-- A function on the bridges has neither a device nor a claim. -/
def Vacant (present : PciSlot → Bool) (bridges : Nat) (c : Claims) (s : PciSlot) : Prop :=
  s.Within bridges ∧ present s = false ∧ c.find? s = none

/-- What is answered from the claims `c` when a function is asked for, and the claims `d` after it:
the first vacant function, which is claimed then, or that there is none. -/
structure Grants (present : PciSlot → Bool) (bridges : Nat) (c : Claims)
    (answer : Except AttachError PciSlot) (d : Claims) : Prop where
  granted : ∀ s, answer = .ok s ↔
    c.Vacant present bridges s ∧ ∀ t, c.Vacant present bridges t → t ≠ s → s.Precedes t
  claimed : ∀ s, answer = .ok s → ∀ t, d.find? t = if t = s then some ⟨s, false⟩ else c.find? t
  refused : ∀ e, answer = .error e ↔
    e = .functionsExhausted bridges ∧ ∀ t, ¬c.Vacant present bridges t
  unclaimed : ∀ e, answer = .error e → d = c

/-- After the look at the devices, the functions without a device and without a claim are those that
could be handed out before it. -/
theorem vacant_prune :
    (c.prune present).Vacant present bridges s ↔ s.Within bridges ∧ c.Available present s := by
  rw [← isFree_prune]
  simp [Vacant, isFree]

/-- A function that is claimed in addition is found, and the others as before. -/
theorem find?_claimed (hs : c.find? s = none) (t : PciSlot) :
    find? ⟨c.entries ++ [⟨s, false⟩]⟩ t = if t = s then some ⟨s, false⟩ else c.find? t := by
  unfold find? at hs ⊢
  rw [List.find?_append]
  by_cases ht : t = s
  · simp [ht, hs]
  · simp [ht, Ne.symm ht]

theorem Distinct.claimed (hc : c.Distinct) (hs : c.find? s = none) :
    Distinct ⟨c.entries ++ [⟨s, false⟩]⟩ := by
  rw [Distinct, List.map_append, List.map_singleton, ← List.concat_eq_append]
  exact List.Nodup.concat (find?_eq_none_iff.1 hs) hc

theorem Distinct.allocate (hc : c.Distinct) : (c.allocate present bridges).2.Distinct := by
  obtain ⟨s, hs, hw, ha, -⟩ | ⟨hs, -⟩ := allocate_cases present bridges c
  · rw [hs]
    exact hc.prune.claimed (vacant_prune.2 ⟨hw, ha⟩).2.2
  · rw [hs]
    exact hc.prune

theorem Grants.of_vacant (hs : c.Vacant present bridges s)
    (hfirst : ∀ t, c.Vacant present bridges t → t ≠ s → s.Precedes t) :
    c.Grants present bridges (.ok s) ⟨c.entries ++ [⟨s, false⟩]⟩ where
  granted s' := by
    constructor
    · rintro ⟨⟩
      exact ⟨hs, hfirst⟩
    · rintro ⟨hs', hfirst'⟩
      by_contra hne
      have hss : s ≠ s' := fun h => hne (by rw [h])
      exact (hfirst s' hs' hss.symm).asymm (hfirst' s hs hss)
  claimed := by
    rintro s' ⟨⟩
    exact find?_claimed hs.2.2
  refused e := by
    constructor
    · rintro ⟨⟩
    · rintro ⟨-, hnone⟩
      exact absurd hs (hnone s)
  unclaimed := by rintro e ⟨⟩

theorem Grants.of_none (hnone : ∀ t, ¬c.Vacant present bridges t) :
    c.Grants present bridges (.error (.functionsExhausted bridges)) c where
  granted s := by
    constructor
    · rintro ⟨⟩
    · rintro ⟨hs, -⟩
      exact absurd hs (hnone s)
  claimed := by rintro s ⟨⟩
  refused e := by
    constructor
    · rintro ⟨⟩
      exact ⟨rfl, hnone⟩
    · rintro ⟨rfl, -⟩
      rfl
  unclaimed := by
    rintro e ⟨⟩
    rfl

/-- An allocation grants from the claims that its look at the devices leaves. -/
theorem grants_allocate (present : PciSlot → Bool) (bridges : Nat) (c : Claims) :
    (c.prune present).Grants present bridges (c.allocate present bridges).1
      (c.allocate present bridges).2 := by
  obtain ⟨s, hs, hw, ha, hleast⟩ | ⟨hs, hnone⟩ := allocate_cases present bridges c
  · rw [hs]
    apply Grants.of_vacant (vacant_prune.2 ⟨hw, ha⟩)
    intro t ht hne
    have hat := vacant_prune.1 ht
    have hle : ¬t.function < s.function := fun hlt => hleast t hat.1 hlt hat.2
    have hfun : t.function ≠ s.function := fun h => hne ((PciSlot.function_inj hat.1.2 hw.2).1 h)
    exact (PciSlot.function_lt_iff hw.2 hat.1.2).1 (by omega)
  · rw [hs]
    apply Grants.of_none
    intro t ht
    have hat := vacant_prune.1 ht
    exact hnone t hat.1 hat.2

/-- A function that is given back and comes before all vacant ones is handed out next. -/
theorem allocate_release (hw : s.Within bridges) (hp : present s = false)
    (hfirst : ∀ t, (c.prune present).Vacant present bridges t → t ≠ s → s.Precedes t) :
    ((c.release s).allocate present bridges).1 = .ok s := by
  apply ((grants_allocate present bridges (c.release s)).granted s).2
  constructor
  · exact vacant_prune.2 ⟨hw, hp, fun hf => (fresh_release.1 hf).2 rfl⟩
  · intro t ht hne
    obtain ⟨hwt, hpt, hft⟩ := vacant_prune.1 ht
    exact hfirst t (vacant_prune.2 ⟨hwt, hpt, fun hf => hft (fresh_release.2 ⟨hf, hne⟩)⟩) hne

end Claims

theorem Tenancy.distinct_step (n : Tenancy) (e : Event) (hn : n.claims.Distinct) :
    (n.step e).claims.Distinct := by
  cases e with
  | allocate bridges => exact hn.allocate
  | release i =>
    cases hu : n.guard? i with
    | none => rwa [step_release_none hu]
    | some u =>
      rw [step_release_some hu]
      exact hn.release u.slot
  | keep i => exact hn
  | devices p => exact hn

/-- Whatever happens, no function is claimed twice. -/
theorem Tenancy.distinct_run (p : PciSlot → Bool) (es : List Event) :
    ((start p).run es).claims.Distinct :=
  run_induction (P := fun n => n.claims.Distinct) distinct_step es Claims.distinct_empty

namespace Sysfs

variable {τ : Type}

def shown (tree : Sysfs) (m : Machine τ) (s : PciSlot) : Bool := tree.hasFunction m.files s.bdf

/-- How the functions of a machine are handed out, with the claims `c` that a look at its devices
leaves. An allocation grants from these; giving a function back ends its claim alone, and the
function is granted next if it has no device and comes before all vacant ones. -/
structure HandsOut (tree : Sysfs) (bridges : Nat) (m : Machine τ) (c : Claims) : Prop where
  reviewed : m.claims.Reviewed (tree.shown m) c
  allocate : ∃ answer d, tree.allocator.allocate bridges m = (answer, { m with claims := d }) ∧
    c.Grants (tree.shown m) bridges answer d ∧ d.Distinct
  release : ∀ s, ∃ d, tree.allocator.release s m = { m with claims := d } ∧ d.Distinct ∧
    (∀ t, d.find? t = if s = t then none else m.claims.find? t) ∧
    (s.Within bridges → tree.shown m s = false →
      (∀ t, c.Vacant (tree.shown m) bridges t → t ≠ s → s.Precedes t) →
        (tree.allocator.allocate bridges { m with claims := d }).1 = .ok s)

/-- No run claims a function twice; and as long as none is claimed twice, the functions of a machine
are handed out one by one, the first vacant one first. -/
theorem handsOut_of_distinct (tree : Sysfs) :
    (∀ p es, ((Tenancy.start p).run es).claims.Distinct) ∧
    ∀ bridges (m : Machine τ), m.claims.Distinct → ∃ c, tree.HandsOut bridges m c := by
  refine ⟨Tenancy.distinct_run, fun bridges m hm => ⟨m.claims.prune (tree.shown m), ?_⟩⟩
  constructor
  · exact Claims.reviewed_prune (tree.shown m) hm
  · exact ⟨_, _, rfl, Claims.grants_allocate (tree.shown m) bridges m.claims, hm.allocate⟩
  · intro s
    exact ⟨m.claims.release s, rfl, hm.release s, m.claims.find?_release s, Claims.allocate_release⟩

/-- Three functions are claimed: the device of the first is there, that of the second was there. -/
def busy : Machine Unit where
  files := Files.empty.change (.mkdir "/sys/bus/pci/devices/0000:01:00.0")
  claims := ⟨[⟨⟨0, 0⟩, false⟩, ⟨⟨0, 1⟩, true⟩, ⟨⟨4, 0⟩, false⟩]⟩
  rest := ()

/-- The second function is granted again. -/
theorem handsOut_of_distinct_busy : busy.claims.Distinct ∧
    (∃ c, HandsOut { root := "/sys" } 1 busy c) ∧
    (allocator { root := "/sys" } |>.allocate 1 busy).1 = .ok ⟨0, 1⟩ := by
  have hdistinct : busy.claims.Distinct := by decide
  have hshown : shown { root := "/sys" } busy ⟨0, 0⟩ = true ∧
      shown { root := "/sys" } busy ⟨0, 1⟩ = false := by decide +kernel
  obtain ⟨c, h⟩ := (handsOut_of_distinct { root := "/sys" }).2 1 busy hdistinct
  refine ⟨hdistinct, ⟨c, h⟩, ?_⟩
  obtain ⟨answer, d, hanswer, hgrants, -⟩ := h.allocate
  rw [hanswer]
  apply (hgrants.granted ⟨0, 1⟩).2
  constructor
  · have hended : c.find? ⟨0, 1⟩ = none := (h.reviewed.ended _).2 (.inr ⟨by decide, hshown.2⟩)
    exact ⟨⟨by decide, by decide⟩, hshown.2, hended⟩
  · rintro ⟨pf, vf⟩ ⟨⟨hpf, -⟩, hp, -⟩ hne
    obtain rfl : pf = 0 := by simpa using hpf
    have hzero : vf ≠ 0 := by
      rintro rfl
      rw [hshown.1] at hp
      cases hp
    have hone : vf ≠ 1 := fun h => hne (by rw [h])
    exact .inr ⟨rfl, by change 1 < vf; omega⟩

end Sysfs
end OffloadVolume
