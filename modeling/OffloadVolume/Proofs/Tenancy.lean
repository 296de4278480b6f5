import Mathlib.Data.List.Induction
import OffloadVolume.Host.SysfsHost
import OffloadVolume.Proofs.Claims

/-!
# Tenancies

Many attachments are handed functions out of the same claims, while devices come and go. A tenure
is what became of one function that was handed out; its last four fields are history that the
claims do not keep. Main statement: `tracked_run`, in every run the fresh claims are those of the
tenures whose device no allocation has seen and whose function was not given back.
-/

namespace OffloadVolume

/-- How far an attachment has come with a function that it was handed. -/
inductive Hold where
  | guarded
  | kept
  | released
  deriving DecidableEq, Repr

/-- What became of a function that was handed out. -/
structure Tenure where
  number : Nat
  slot : PciSlot
  hold : Hold := .guarded
  /-- The device has been there since. -/
  appeared : Bool := false
  /-- The device has been there since and has gone again. -/
  vanished : Bool := false
  /-- An allocation looked while the device was there. -/
  noticed : Bool := false
  /-- The function was given back, by this attachment or by another one. -/
  cleared : Bool := false
  deriving DecidableEq, Repr

namespace Tenure

variable {p : PciSlot → Bool} {i : Nat} {t u : Tenure}

/-- The attachment holds the function: it guards it, or it kept it and the device has not come and
gone. -/
def Holds (t : Tenure) : Prop := t.hold = .guarded ∨ t.hold = .kept ∧ t.vanished = false

instance (t : Tenure) : Decidable t.Holds := inferInstanceAs (Decidable (_ ∨ _))

/-- No allocation has seen the device, and the function was not given back. -/
def Fresh (t : Tenure) : Prop := t.noticed = false ∧ t.cleared = false

def see (p : PciSlot → Bool) (t : Tenure) : Tenure :=
  { t with appeared := t.appeared || p t.slot
           vanished := t.vanished || (t.appeared && !p t.slot) }

def notice (p : PciSlot → Bool) (t : Tenure) : Tenure :=
  { t with noticed := t.noticed || p t.slot }

def keep (i : Nat) (t : Tenure) : Tenure :=
  if t.number = i ∧ t.hold = .guarded then { t with hold := .kept } else t

def release (t u : Tenure) : Tenure :=
  { t with hold := if t = u then .released else t.hold
           cleared := t.cleared || t.slot == u.slot }

@[simp] theorem slot_see : (t.see p).slot = t.slot := rfl
@[simp] theorem slot_notice : (t.notice p).slot = t.slot := rfl
@[simp] theorem slot_release : (t.release u).slot = t.slot := rfl
@[simp] theorem slot_keep : (t.keep i).slot = t.slot := by unfold keep; split <;> rfl

theorem holds_handedOut {s : PciSlot} : Holds { number := i, slot := s } := .inl rfl

theorem holds_notice : (t.notice p).Holds ↔ t.Holds := Iff.rfl

theorem holds_of_see (h : (t.see p).Holds) : t.Holds := by
  simp only [Holds, see, Bool.or_eq_false_iff] at *
  exact h.imp_right fun h => ⟨h.1, h.2.1⟩

theorem holds_of_keep (h : (t.keep i).Holds) : t.Holds := by
  unfold keep at h
  split at h
  · exact .inl (by simp_all)
  · exact h

theorem holds_of_release (h : (t.release u).Holds) : t.Holds ∧ t ≠ u := by
  simp only [Holds, release] at *
  split at h <;> simp_all

theorem fresh_see : (t.see p).Fresh ↔ t.Fresh := Iff.rfl

theorem fresh_notice : (t.notice p).Fresh ↔ t.Fresh ∧ p t.slot = false := by
  simp only [Fresh, notice, Bool.or_eq_false_iff]
  exact and_right_comm

theorem fresh_keep : (t.keep i).Fresh ↔ t.Fresh := by unfold keep; split <;> rfl

theorem fresh_release : (t.release u).Fresh ↔ t.Fresh ∧ t.slot ≠ u.slot := by
  simp [Fresh, release, and_assoc]

/-- The history of a tenure fits itself and the devices that are there. -/
structure Sound (p : PciSlot → Bool) (t : Tenure) : Prop where
  place : t.slot.vf < functionsPerBridge
  cleared : t.hold = .released → t.cleared = true
  seen : p t.slot = true → t.appeared = true
  noticed : t.noticed = true → t.appeared = true
  gone : t.appeared = true → p t.slot = true ∨ t.vanished = true

theorem Sound.handedOut {s : PciSlot} (hs : s.vf < functionsPerBridge) (hp : p s = false) :
    Sound p { number := i, slot := s } := by
  constructor <;> simp [hs, hp]

theorem Sound.see {q : PciSlot → Bool} (h : t.Sound p) : (t.see q).Sound q where
  place := h.place
  cleared := h.cleared
  seen hq := by simp_all [Tenure.see]
  noticed hn := by simp [Tenure.see, h.noticed hn]
  gone ha := by
    cases hq : q t.slot with
    | true => exact .inl hq
    | false => exact .inr (by simp_all [Tenure.see])

theorem Sound.notice (h : t.Sound p) : (t.notice p).Sound p where
  place := h.place
  cleared := h.cleared
  seen := h.seen
  noticed hn := by
    simp only [Tenure.notice, Bool.or_eq_true] at hn
    exact hn.elim h.noticed h.seen
  gone := h.gone

theorem Sound.keep (h : t.Sound p) : (t.keep i).Sound p := by
  unfold Tenure.keep
  split
  · exact ⟨h.place, by simp, h.seen, h.noticed, h.gone⟩
  · exact h

theorem Sound.release (h : t.Sound p) : (t.release u).Sound p where
  place := h.place
  cleared hr := by
    simp only [Tenure.release] at *
    split at hr
    · simp_all
    · simp [h.cleared hr]
  seen := h.seen
  noticed := h.noticed
  gone := h.gone

theorem Sound.vanished_of_noticed (h : t.Sound p) (hn : t.noticed = true) (hp : p t.slot = false) :
    t.vanished = true := by
  simpa [hp] using h.gone (h.noticed hn)

/-- A change of tenures that leaves the slots alone, and the fresh tenures on some of them, does so
for a whole list. -/
theorem exists_fresh_map {l : List Tenure} {s : PciSlot} (g : Tenure → Tenure) (q : PciSlot → Prop)
    (hs : ∀ t, (g t).slot = t.slot) (hf : ∀ t, (g t).Fresh ↔ t.Fresh ∧ q t.slot) :
    (∃ t ∈ l.map g, t.slot = s ∧ t.Fresh) ↔ (∃ t ∈ l, t.slot = s ∧ t.Fresh) ∧ q s := by
  simp only [List.mem_map]
  constructor
  · rintro ⟨_, ⟨t, ht, rfl⟩, hts, hft⟩
    have hqt := (hf t).1 hft
    rw [hs] at hts
    exact ⟨⟨t, ht, hts, hqt.1⟩, hts ▸ hqt.2⟩
  · rintro ⟨⟨t, ht, rfl, hft⟩, hq⟩
    exact ⟨g t, ⟨t, ht, rfl⟩, hs t, (hf t).2 ⟨hft, hq⟩⟩

/-- A change of tenures that leaves the slots alone and gives none of them a property keeps this:
earlier tenures of a slot do not have the property. -/
theorem pairwise_map {Q : Tenure → Prop} {g : Tenure → Tenure} {l : List Tenure}
    (hs : ∀ t, (g t).slot = t.slot) (hq : ∀ t, Q (g t) → Q t)
    (h : l.Pairwise fun t u => t.slot = u.slot → ¬Q u) :
    (l.map g).Pairwise fun t u => t.slot = u.slot → ¬Q u := by
  refine List.pairwise_map.2 (h.imp fun {t u} htu hs' hu => ?_)
  rw [hs, hs] at hs'
  exact htu hs' (hq u hu)

end Tenure

/-- The devices, the claims, and the tenures of the attachments, the latest first. -/
structure Tenancy where
  present : PciSlot → Bool
  claims : Claims := {}
  tenures : List Tenure := []

namespace Tenancy

/-- What can happen. Attachments are numbered in the order in which they are handed functions; one
that no longer guards its function can neither give it back nor keep it. -/
inductive Event where
  | allocate (bridges : Nat)
  | release (i : Nat)
  | keep (i : Nat)
  | devices (present : PciSlot → Bool)

def answer (n : Tenancy) (bridges : Nat) : Except AttachError PciSlot :=
  (n.claims.allocate n.present bridges).1

def noticed (n : Tenancy) : List Tenure := n.tenures.map (·.notice n.present)

/-- The tenure of an attachment that guards its function. -/
def guard? (n : Tenancy) (i : Nat) : Option Tenure :=
  n.tenures.find? fun t => t.number == i && t.hold == .guarded

def step (n : Tenancy) : Event → Tenancy
  | .allocate bridges =>
    { n with
      claims := (n.claims.allocate n.present bridges).2
      tenures :=
        match n.answer bridges with
        | .ok slot => { number := n.tenures.length, slot } :: n.noticed
        | .error _ => n.noticed }
  | .release i =>
    match n.guard? i with
    | some u => { n with claims := n.claims.release u.slot, tenures := n.tenures.map (·.release u) }
    | none => n
  | .keep i => { n with tenures := n.tenures.map (·.keep i) }
  | .devices present => { n with present, tenures := n.tenures.map (·.see present) }

def run (n : Tenancy) (es : List Event) : Tenancy := es.foldl step n

def start (present : PciSlot → Bool) : Tenancy := { present }

variable {n : Tenancy} {bridges i : Nat} {s : PciSlot} {u : Tenure}

@[simp] theorem run_nil : n.run [] = n := rfl
@[simp] theorem run_cons (e : Event) (es : List Event) : n.run (e :: es) = (n.step e).run es := rfl
@[simp] theorem run_append (es fs : List Event) : n.run (es ++ fs) = (n.run es).run fs :=
  List.foldl_append

/-- What each event keeps is kept by a list of events. -/
theorem run_induction {P : Tenancy → Prop} (hstep : ∀ n e, P n → P (n.step e)) (es : List Event)
    (h : P n) : P (n.run es) := by
  induction es generalizing n with
  | nil => exact h
  | cons e es ih => exact ih (hstep n e h)

theorem tenures_allocate_ok (h : n.answer bridges = .ok s) :
    (n.step (.allocate bridges)).tenures = { number := n.tenures.length, slot := s } :: n.noticed := by
  simp [step, h]

theorem tenures_allocate_error {e : AttachError} (h : n.answer bridges = .error e) :
    (n.step (.allocate bridges)).tenures = n.noticed := by simp [step, h]

theorem step_release_some (h : n.guard? i = some u) : n.step (.release i) =
    { n with claims := n.claims.release u.slot, tenures := n.tenures.map (·.release u) } := by
  simp [step, h]

theorem step_release_none (h : n.guard? i = none) : n.step (.release i) = n := by simp [step, h]

theorem guard?_eq_some (h : n.guard? i = some u) : u ∈ n.tenures ∧ u.hold = .guarded := by
  have := List.find?_some h
  simp only [Bool.and_eq_true, beq_iff_eq] at this
  exact ⟨List.mem_of_find?_eq_some h, this.2⟩

def ofMachine {τ : Type} (tree : Sysfs) (m : Machine τ) (tenures : List Tenure) : Tenancy :=
  ⟨fun slot => tree.hasFunction m.files slot.bdf, m.claims, tenures⟩

/-- The allocator of a device tree answers and changes the claims as an allocation does. -/
theorem allocate_ofMachine {τ : Type} (tree : Sysfs) (m : Machine τ) (tenures : List Tenure) :
    (tree.allocator.allocate bridges m).1 = (ofMachine tree m tenures).answer bridges ∧
      (tree.allocator.allocate bridges m).2.claims =
        ((ofMachine tree m tenures).step (.allocate bridges)).claims := by
  simp only [Sysfs.allocator, answer, step, ofMachine, and_self]

theorem release_ofMachine {τ : Type} (tree : Sysfs) (m : Machine τ) (tenures : List Tenure)
    (hu : (ofMachine tree m tenures).guard? i = some u) :
    (tree.allocator.release u.slot m).claims =
      ((ofMachine tree m tenures).step (.release i)).claims := by
  rw [step_release_some hu]
  simp only [Sysfs.allocator, ofMachine]

/-- The fresh claims are those of the fresh tenures. -/
def Tracked (n : Tenancy) : Prop :=
  ∀ s, n.claims.Fresh s ↔ ∃ t ∈ n.tenures, t.slot = s ∧ t.Fresh

theorem tracked_step (n : Tenancy) (e : Event) (h : n.Tracked) : (n.step e).Tracked := by
  intro s
  cases e with
  | allocate bridges =>
    have hold : (∃ t ∈ n.noticed, t.slot = s ∧ t.Fresh) ↔ n.claims.Fresh s ∧ n.present s = false :=
      (Tenure.exists_fresh_map (·.notice n.present) (n.present · = false) (fun _ => rfl)
        fun _ => Tenure.fresh_notice).trans (and_congr_left fun _ => (h s).symm)
    refine Claims.fresh_allocate.trans ?_
    rw [← hold]
    change _ ∨ n.answer bridges = .ok s ↔ _
    cases ha : n.answer bridges with
    | error e => simp [tenures_allocate_error ha]
    | ok slot =>
      rw [tenures_allocate_ok ha]
      simp [Tenure.Fresh, or_comm]
  | release i =>
    cases hu : n.guard? i with
    | none => rw [step_release_none hu]; exact h s
    | some u =>
      rw [step_release_some hu]
      refine Claims.fresh_release.trans ?_
      rw [h s]
      exact (Tenure.exists_fresh_map (·.release u) (· ≠ u.slot) (fun _ => rfl)
        fun _ => Tenure.fresh_release).symm
  | keep i =>
    simp [step, h s, Tenure.fresh_keep]
  | devices p =>
    simp [step, h s, Tenure.fresh_see]

/-- Through every history, the claims that are fresh are those of the fresh tenures. -/
theorem tracked_run (p : PciSlot → Bool) (es : List Event) : ((start p).run es).Tracked :=
  run_induction tracked_step es fun s => by simp [start, Claims.Fresh]

/-- A function can be handed out if it has no device and no tenure of it is fresh. -/
theorem available_iff (h : n.Tracked) : n.claims.Available n.present s ↔
    n.present s = false ∧ ∀ t ∈ n.tenures, t.slot = s → ¬t.Fresh := by
  simp only [Claims.Available, h s, not_exists, not_and]

def Sound (n : Tenancy) : Prop := ∀ t ∈ n.tenures, t.Sound n.present

theorem sound_step (n : Tenancy) (e : Event) (h : n.Sound) : (n.step e).Sound := by
  have hmap {p} {g : Tenure → Tenure} (hg : ∀ t, t.Sound n.present → (g t).Sound p) :
      ∀ t ∈ n.tenures.map g, t.Sound p := by
    simp only [List.mem_map]
    rintro _ ⟨t, ht, rfl⟩
    exact hg t (h t ht)
  cases e with
  | allocate bridges =>
    have hold : ∀ t ∈ n.noticed, t.Sound n.present := hmap fun _ ht => ht.notice
    cases ha : n.answer bridges with
    | error e => rw [Sound, tenures_allocate_error ha]; exact hold
    | ok slot =>
      obtain ⟨hw, hav⟩ := Claims.available_of_allocate ha
      simp only [Sound, tenures_allocate_ok ha, List.mem_cons, forall_eq_or_imp]
      exact ⟨.handedOut hw.2 hav.1, hold⟩
  | release i =>
    cases hu : n.guard? i with
    | none => rw [step_release_none hu]; exact h
    | some u => rw [step_release_some hu]; exact hmap fun _ ht => ht.release
  | keep i => exact hmap fun _ ht => ht.keep
  | devices p => exact hmap fun _ ht => ht.see

/-- Through every history, the tenures fit the devices. -/
theorem sound_run (p : PciSlot → Bool) (es : List Event) : ((start p).run es).Sound :=
  run_induction sound_step es fun t ht => by simp [start] at ht

/-- When a function is handed out again, no earlier tenure of it is fresh. -/
def Settled (n : Tenancy) : Prop := n.tenures.Pairwise fun t u => t.slot = u.slot → ¬u.Fresh

theorem settled_step (n : Tenancy) (e : Event) (ht : n.Tracked) (h : n.Settled) :
    (n.step e).Settled := by
  cases e with
  | allocate bridges =>
    have hold : n.noticed.Pairwise fun t u => t.slot = u.slot → ¬u.Fresh :=
      Tenure.pairwise_map (fun _ => rfl) (fun _ hf => (Tenure.fresh_notice.1 hf).1) h
    cases ha : n.answer bridges with
    | error e => rw [Settled, tenures_allocate_error ha]; exact hold
    | ok slot =>
      rw [Settled, tenures_allocate_ok ha]
      refine List.pairwise_cons.2 ⟨?_, hold⟩
      simp only [noticed, List.mem_map]
      rintro _ ⟨t, htn, rfl⟩ hs hf
      exact ((available_iff ht).1 (Claims.available_of_allocate ha).2).2 t htn hs.symm
        (Tenure.fresh_notice.1 hf).1
  | release i =>
    cases hu : n.guard? i with
    | none => rw [step_release_none hu]; exact h
    | some u =>
      rw [step_release_some hu]
      exact Tenure.pairwise_map (fun _ => rfl) (fun _ hf => (Tenure.fresh_release.1 hf).1) h
  | keep i =>
    exact Tenure.pairwise_map (fun _ => Tenure.slot_keep) (fun _ => Tenure.fresh_keep.1) h
  | devices p => exact Tenure.pairwise_map (fun _ => rfl) (fun _ => Tenure.fresh_see.1) h

/-- Through every history, a function is handed out again only when no earlier tenure of it is
fresh. -/
theorem settled_run (p : PciSlot → Bool) (es : List Event) : ((start p).run es).Settled :=
  (run_induction (P := fun n => n.Tracked ∧ n.Settled)
    (fun n e h => ⟨tracked_step n e h.1, settled_step n e h.1 h.2⟩) es
    ⟨tracked_run p [], List.Pairwise.nil⟩).2

end Tenancy
end OffloadVolume
