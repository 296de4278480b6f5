import OffloadVolume.Host.Machine

/-!
# Time

The changes that come to a machine happen at their times, in whatever portions the time passes.
Main statement: `Machine.later_pass`, a machine that lets more time pass is the machine of the later
time.
-/

namespace OffloadVolume

/-! ## Sorting -/

section

variable {α : Type} {le : α → α → Bool}

/-- In a sorted list, the elements with a property that passes on to greater ones come last. -/
theorem filter_append_of_sorted {q : α → Bool} (hq : ∀ a b, le a b → q a → q b) {l : List α}
    (hl : l.Pairwise (le · ·)) : l.filter (fun a => !q a) ++ l.filter q = l := by
  induction l with
  | nil => rfl
  | cons a l ih =>
    obtain ⟨ha, hl⟩ := List.pairwise_cons.1 hl
    by_cases hqa : q a = true
    · have hall : ∀ b ∈ a :: l, q b = true := by
        simpa [hqa] using fun b hb => hq a b (ha b hb) hqa
      rw [List.filter_eq_self.2 hall, List.filter_eq_nil_iff.2 fun b hb => by simp [hall b hb],
        List.nil_append]
    · have hneg : (!q a) = true := by simpa using hqa
      rw [List.filter_cons_of_pos (p := fun a => !q a) hneg, List.filter_cons_of_neg hqa,
        List.cons_append, ih hl]

variable (trans : ∀ a b c, le a b → le b c → le a c) (total : ∀ a b, le a b || le b a)

include trans total

/-- A first element is sorted behind those elements before which it may not stand. -/
theorem mergeSort_cons_eq (a : α) (l : List α) : (a :: l).mergeSort le =
    (l.mergeSort le).filter (fun b => !le a b) ++ a :: (l.mergeSort le).filter (le a) := by
  obtain ⟨l₁, l₂, hcons, hrest, hbefore⟩ := List.mergeSort_cons trans total a l
  have hsorted : (l₁ ++ a :: l₂).Pairwise (le · ·) :=
    hcons ▸ List.pairwise_mergeSort trans total (a :: l)
  have hafter : ∀ b ∈ l₂, le a b = true :=
    (List.pairwise_cons.1 (List.pairwise_append.1 hsorted).2.1).1
  have h₁ : l₁.filter (fun b => !le a b) = l₁ ∧ l₁.filter (le a) = [] :=
    ⟨List.filter_eq_self.2 hbefore,
      List.filter_eq_nil_iff.2 fun b hb => by simpa using hbefore b hb⟩
  have h₂ : l₂.filter (fun b => !le a b) = [] ∧ l₂.filter (le a) = l₂ :=
    ⟨List.filter_eq_nil_iff.2 fun b hb => by simpa using hafter b hb,
      List.filter_eq_self.2 hafter⟩
  rw [hcons, hrest, List.filter_append, List.filter_append, h₁.1, h₁.2, h₂.1, h₂.2,
    List.append_nil, List.nil_append]

/-- It does not matter whether elements are left out before or after sorting. -/
theorem filter_mergeSort (p : α → Bool) (l : List α) :
    (l.mergeSort le).filter p = (l.filter p).mergeSort le := by
  induction l with
  | nil => simp
  | cons a l ih =>
    have hswap (q : α → Bool) : ((l.mergeSort le).filter q).filter p =
        ((l.filter p).mergeSort le).filter q := by
      rw [← ih, List.filter_filter, List.filter_filter]
      exact List.filter_congr fun b _ => Bool.and_comm (p b) (q b)
    rw [mergeSort_cons_eq trans total, List.filter_append, hswap, List.filter_cons]
    by_cases ha : p a = true
    · rw [if_pos ha, List.filter_cons_of_pos ha, mergeSort_cons_eq trans total, hswap]
    · rw [if_neg ha, List.filter_cons_of_neg ha, hswap]
      exact filter_append_of_sorted (fun b c hbc hab => trans a b c hab hbc)
        (List.pairwise_mergeSort trans total (l.filter p))

end

/-! ## Machines -/

namespace Machine

variable {τ : Type}

/-- The changes that come up to a time, in the order of their times. -/
def dueBy (t : Nat) (coming : List ComingChange) : List ComingChange :=
  (coming.filter fun c => c.time ≤ t).mergeSort fun a b => a.time ≤ b.time

/-- What comes up to a time comes up to an earlier one or after that. -/
theorem dueBy_append {t u : Nat} (h : t ≤ u) (coming : List ComingChange) :
    dueBy t coming ++ dueBy u (coming.filter fun c => !(c.time ≤ t)) = dueBy u coming := by
  have trans : ∀ a b c : ComingChange, decide (a.time ≤ b.time) → decide (b.time ≤ c.time) →
      decide (a.time ≤ c.time) := by
    intro a b c hab hbc
    simp only [decide_eq_true_eq] at *
    omega
  have total : ∀ a b : ComingChange, decide (a.time ≤ b.time) || decide (b.time ≤ a.time) := by
    intro a b
    simp only [Bool.or_eq_true, decide_eq_true_eq]
    omega
  have hearly : dueBy t coming = (dueBy u coming).filter fun c => !!(c.time ≤ t) := by
    rw [dueBy, dueBy, filter_mergeSort trans total, List.filter_filter]
    congr 1
    refine List.filter_congr fun c _ => Bool.eq_iff_iff.2 ?_
    simp only [Bool.not_not, Bool.and_eq_true, decide_eq_true_eq]
    omega
  have hlate : dueBy u (coming.filter fun c => !(c.time ≤ t)) =
      (dueBy u coming).filter fun c => !(c.time ≤ t) := by
    rw [dueBy, dueBy, filter_mergeSort trans total, List.filter_filter, List.filter_filter]
    congr 1
    exact List.filter_congr fun c _ => Bool.and_comm _ _
  rw [hearly, hlate]
  apply filter_append_of_sorted _ (List.pairwise_mergeSort trans total _)
  intro a b hab ha
  simp only [Bool.not_eq_true', decide_eq_false_iff_not, decide_eq_true_eq] at *
  omega

theorem pass_eq (m : Machine τ) (n : Nat) : m.pass n =
    { m with
      now := m.now + n
      files := (dueBy (m.now + n) m.coming).foldl (fun f c => f.changeAll c.changes) m.files
      coming := m.coming.filter fun c => !(c.time ≤ m.now + n) } := rfl

/-- Time that passes in two parts passes as in one. -/
theorem pass_pass (m : Machine τ) (a b : Nat) : (m.pass a).pass b = m.pass (a + b) := by
  have hcoming : (m.coming.filter fun c => !(c.time ≤ m.now + a)).filter
      (fun c => !(c.time ≤ m.now + a + b)) =
        m.coming.filter fun c => !(c.time ≤ m.now + a + b) := by
    rw [List.filter_filter]
    refine List.filter_congr fun c _ => Bool.eq_iff_iff.2 ?_
    simp only [Bool.not_eq_true', Bool.and_eq_true, decide_eq_false_iff_not]
    omega
  rw [pass_eq, pass_eq m a, pass_eq m (a + b)]
  simp only [hcoming, ← List.foldl_append, dueBy_append (Nat.le_add_right (m.now + a) b),
    ← Nat.add_assoc]

/-- The machine some milliseconds later, if nothing but time passes. -/
def later (m : Machine τ) : Nat → Machine τ
  | 0 => m
  | n + 1 => m.pass (n + 1)

@[simp] theorem later_zero (m : Machine τ) : m.later 0 = m := rfl

@[simp] theorem now_later (m : Machine τ) (n : Nat) : (m.later n).now = m.now + n := by
  cases n <;> rfl

theorem later_pass (m : Machine τ) (a : Nat) {b : Nat} (hb : 0 < b) :
    (m.later a).pass b = m.later (a + b) := by
  obtain ⟨b, rfl⟩ := Nat.exists_eq_succ_of_ne_zero (Nat.ne_of_gt hb)
  cases a with
  | zero => rw [Nat.zero_add]; rfl
  | succ a => exact m.pass_pass (a + 1) (b + 1)

/-- To wait twice is to wait for the sum. -/
theorem later_later (m : Machine τ) (a b : Nat) : (m.later a).later b = m.later (a + b) := by
  cases b with
  | zero => rfl
  | succ b => exact m.later_pass a (Nat.succ_pos b)

end Machine
end OffloadVolume
