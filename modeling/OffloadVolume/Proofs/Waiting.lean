import Mathlib.Algebra.Order.Floor.Div
import Mathlib.Logic.Function.Iterate
import OffloadVolume.Host.SysfsHost
import OffloadVolume.Proofs.Lookup
import OffloadVolume.Proofs.Timeline

/-!
# Waits

A wait looks at once and after each pause, the last time when its time is over. Main statement:
`Sysfs.waits_poll`, a wait for a device ends with the first of these looks that finds something or
fails, and else with the last one; what happens between two looks does not matter.
-/

namespace OffloadVolume

/-! ## Looks -/

/-- How a wait ends of which `look i` is the look after `i` pauses: with the first look that finds
something or fails, or with the last one. -/
inductive Ends {α : Type} (look : Nat → Except AttachError (Option α)) (last : Nat)
    (overdue : AttachError) : Nat → Except AttachError α → Prop where
  | found {j : Nat} {a : α} (hj : j ≤ last) (before : ∀ i < j, look i = .ok none)
      (here : look j = .ok (some a)) : Ends look last overdue j (.ok a)
  | failed {j : Nat} {e : AttachError} (hj : j ≤ last) (before : ∀ i < j, look i = .ok none)
      (here : look j = .error e) : Ends look last overdue j (.error e)
  | late (never : ∀ i ≤ last, look i = .ok none) : Ends look last overdue last (.error overdue)

namespace Ends

variable {α : Type} {look look' : Nat → Except AttachError (Option α)} {last j k : Nat}
  {overdue : AttachError} {answer answer' : Except AttachError α}

theorem le_last (h : Ends look last overdue j answer) : j ≤ last := by
  cases h with
  | found hj _ _ => exact hj
  | failed hj _ _ => exact hj
  | late _ => exact Nat.le_refl last

/-- Before the end nothing is found. -/
theorem before (h : Ends look last overdue j answer) : ∀ i < j, look i = .ok none := by
  cases h with
  | found _ before _ => exact before
  | failed _ before _ => exact before
  | late never => exact fun i hi => never i (Nat.le_of_lt hi)

/-- No wait goes on after the end of another one. -/
theorem not_lt (h : Ends look last overdue j answer) (h' : Ends look last overdue k answer') :
    ¬j < k := by
  intro hjk
  have hnone := h'.before j hjk
  cases h with
  | found _ _ here => cases here.symm.trans hnone
  | failed _ _ here => cases here.symm.trans hnone
  | late _ => exact absurd h'.le_last (Nat.not_le_of_lt hjk)

/-- The answer is what the look at the end makes of it. -/
theorem answer_eq (h : Ends look last overdue j answer) :
    answer = match look j with
      | .error e => .error e
      | .ok (some a) => .ok a
      | .ok none => .error overdue := by
  cases h with
  | found _ _ here => rw [here]
  | failed _ _ here => rw [here]
  | late never => rw [never last (Nat.le_refl last)]

/-- A wait ends in one way. -/
theorem unique (h : Ends look last overdue j answer) (h' : Ends look last overdue k answer') :
    j = k ∧ answer = answer' := by
  have hjk : j = k :=
    Nat.le_antisymm (Nat.le_of_not_lt (h'.not_lt h)) (Nat.le_of_not_lt (h.not_lt h'))
  subst hjk
  exact ⟨rfl, h.answer_eq.trans h'.answer_eq.symm⟩

/-- Only the looks up to the last one count. -/
theorem congr (hl : ∀ i ≤ last, look' i = look i) (h : Ends look last overdue j answer) :
    Ends look' last overdue j answer := by
  cases h with
  | found hj before here =>
    exact .found hj (fun i hi => (hl i (by omega)).trans (before i hi)) ((hl j hj).trans here)
  | failed hj before here =>
    exact .failed hj (fun i hi => (hl i (by omega)).trans (before i hi)) ((hl j hj).trans here)
  | late never => exact .late fun i hi => (hl i hi).trans (never i hi)

/-- A wait goes on after a look that finds nothing. -/
theorem succ (h0 : look 0 = .ok none) (h : Ends (fun i => look (i + 1)) last overdue j answer) :
    Ends look (last + 1) overdue (j + 1) answer := by
  have hnone {n : Nat} (hn : ∀ i < n, look (i + 1) = .ok none) :
      ∀ i < n + 1, look i = .ok none := by
    intro i hi
    cases i with
    | zero => exact h0
    | succ i => exact hn i (by omega)
  cases h with
  | found hj before here => exact .found (by omega) (hnone before) here
  | failed hj before here => exact .failed (by omega) (hnone before) here
  | late never =>
    exact .late fun i hi => hnone (n := last + 1) (fun i hi => never i (by omega)) i (by omega)

end Ends

/-! ## Clocks -/

namespace Clock

variable {α σ : Type} (c : Clock σ) {pause : Nat} (look : σ → Except AttachError (Option α))
  (overdue : AttachError) (deadline : Nat)

/-- A wait takes as many pauses as it needs to reach the deadline, unless a look ends it. -/
theorem ends_awaitUntil (hp : 1 ≤ pause) {last : Nat} {w : σ}
    (hlast : deadline ≤ c.now w + pause * last)
    (hbefore : ∀ i < last, c.now w + pause * i < deadline) :
    ∃ j, Ends (fun i => look ((c.sleep pause)^[i] w)) last overdue j
        (c.awaitUntil pause look overdue deadline w).1 ∧
      (c.awaitUntil pause look overdue deadline w).2 = (c.sleep pause)^[j] w := by
  fun_induction awaitUntil c pause look overdue deadline w generalizing last with
  | case1 w e hl => exact ⟨0, .failed (Nat.zero_le last) (by simp) hl, rfl⟩
  | case2 w found hl => exact ⟨0, .found (Nat.zero_le last) (by simp) hl, rfl⟩
  | case3 w hl hover =>
    cases last with
    | zero => exact ⟨0, .late (by simpa using hl), rfl⟩
    | succ last => exact absurd (hbefore 0 (by omega)) (by omega)
  | case4 w hl hover ih =>
    rw [Nat.max_eq_right hp] at ih ⊢
    cases last with
    | zero => exact absurd hlast hover
    | succ last =>
      have hnow (n : Nat) : c.now (c.sleep pause w) + pause * n = c.now w + pause * (n + 1) := by
        rw [c.now_sleep, Nat.mul_succ]
        omega
      have hlast' : deadline ≤ c.now (c.sleep pause w) + pause * last := (hnow last).symm ▸ hlast
      obtain ⟨j, hends, hw⟩ := ih hlast' fun i hi => by
        rw [hnow]
        exact hbefore (i + 1) (by omega)
      exact ⟨j + 1, hends.succ hl, hw⟩

end Clock

/-! ## Machines -/

namespace Machine

variable {τ : Type}

/-- To sleep some times is to be later by all the pauses. -/
theorem sleep_iterate {pause : Nat} (hp : 1 ≤ pause) (m : Machine τ) (j : Nat) :
    (clock.sleep pause)^[j] m = m.later (pause * j) := by
  induction j with
  | zero => rfl
  | succ j ih =>
    rw [Function.iterate_succ_apply', ih]
    exact m.later_pass (pause * j) hp

end Machine

/-! ## Device trees -/

namespace Sysfs

/-- A computation fails only because something cannot be read. -/
def OnlyIo {α : Type} (x : Except AttachError α) : Prop :=
  ∀ e, x = .error e → ∃ fault, e = .io fault

theorem onlyIo_outcome {α : Type} (fault? : Option Fault) (a : α) : OnlyIo (outcome fault? a) := by
  intro e he
  cases fault? with
  | none => cases he
  | some fault =>
    cases he
    exact ⟨fault, rfl⟩

variable (s : Sysfs) (f : Files)

/-- A lookup by function fails only because something cannot be read. -/
theorem onlyIo_findByBdf (bdf : String) (model : Option String) :
    OnlyIo (s.findByBdf f bdf model) := by
  rw [findByBdf_eq]
  exact onlyIo_outcome _ _

theorem onlyIo_findByModel (model : String) : OnlyIo (s.findByModel f model) := by
  rw [findByModel_eq]
  exact onlyIo_outcome _ _

variable {s f} {α τ : Type}

/-- How a wait of a machine goes by what its looks find in the files. It looks at once and after
each pause, up to the first pause that reaches the end of its time, and at nothing in between. -/
structure Polls (pause millis : Nat) (look : Files → Except AttachError (Option α))
    (overdue : AttachError) (wait : Machine τ → Except AttachError α × Machine τ) : Prop where
  ends : ∀ m, ∃ j, Ends (fun i => look (m.later (pause * i)).files) (millis ⌈/⌉ pause) overdue j
      (wait m).1 ∧ (wait m).2 = m.later (pause * j)
  bounded : ∀ m, (wait m).2.now < m.now + millis + pause
  patient : ∀ m, (wait m).1 = .error overdue →
    (wait m).2.now = m.now + pause * (millis ⌈/⌉ pause) ∧ m.now + millis ≤ (wait m).2.now ∧
      look (wait m).2.files = .ok none
  blind : ∀ m m', (∀ i ≤ millis ⌈/⌉ pause,
      (m'.later (pause * i)).files = (m.later (pause * i)).files) →
    (wait m').1 = (wait m).1 ∧ ∃ n, (wait m).2 = m.later n ∧ (wait m').2 = m'.later n

theorem ceilDiv_reaches {pause : Nat} (hp : 1 ≤ pause) (millis : Nat) :
    millis ≤ pause * (millis ⌈/⌉ pause) :=
  (ceilDiv_le_iff_le_mul hp).1 (Nat.le_refl _)

theorem mul_lt_of_lt_ceilDiv {pause millis i : Nat} (hp : 1 ≤ pause) (hi : i < millis ⌈/⌉ pause) :
    pause * i < millis :=
  Nat.lt_of_not_le fun hle => absurd ((ceilDiv_le_iff_le_mul hp).2 hle) (Nat.not_le_of_lt hi)

/-- All there is to know of a wait follows from how it ends. -/
theorem Polls.of_ends {pause millis : Nat} {look : Files → Except AttachError (Option α)}
    {overdue : AttachError} {wait : Machine τ → Except AttachError α × Machine τ} (hp : 1 ≤ pause)
    (hlook : ∀ f, look f ≠ .error overdue)
    (hends : ∀ m, ∃ j, Ends (fun i => look (m.later (pause * i)).files) (millis ⌈/⌉ pause) overdue j
      (wait m).1 ∧ (wait m).2 = m.later (pause * j)) : Polls pause millis look overdue wait where
  ends := hends
  bounded m := by
    obtain ⟨j, hj, hw⟩ := hends m
    rw [hw, Machine.now_later]
    cases j with
    | zero => omega
    | succ j =>
      have hlt : pause * j < millis := mul_lt_of_lt_ceilDiv hp hj.le_last
      rw [Nat.mul_succ]
      omega
  patient m hm := by
    obtain ⟨j, hj, hw⟩ := hends m
    rw [hm] at hj
    rw [hw, Machine.now_later]
    cases hj with
    | failed _ _ here => exact absurd here (hlook _)
    | late never =>
      have hreach := Nat.add_le_add_left (ceilDiv_reaches hp millis) m.now
      exact ⟨rfl, hreach, never _ (Nat.le_refl _)⟩
  blind m m' hfiles := by
    obtain ⟨j, hj, hw⟩ := hends m
    obtain ⟨k, hk, hw'⟩ := hends m'
    have hsame := hk.congr fun i hi => congrArg look (hfiles i hi).symm
    obtain ⟨rfl, hanswer⟩ := hj.unique hsame
    exact ⟨hanswer.symm, pause * j, hw, hw'⟩

/-- A wait of a machine polls, whatever it looks for. -/
theorem polls_await {pause : Nat} (hp : 1 ≤ pause) (millis : Nat)
    {look : Files → Except AttachError (Option α)} {overdue : AttachError}
    (hlook : ∀ f, look f ≠ .error overdue) :
    Polls pause millis look overdue (Machine.clock.await pause
      (fun m : Machine τ => look m.files) overdue (.ofMillis millis)) := by
  apply Polls.of_ends hp hlook
  intro m
  have h := Machine.clock.ends_awaitUntil (fun m : Machine τ => look m.files) overdue
    (m.now + millis) hp (w := m) (Nat.add_le_add_left (ceilDiv_reaches hp millis) m.now)
    fun i hi => Nat.add_lt_add_left (mul_lt_of_lt_ceilDiv hp hi) m.now
  simp only [Machine.sleep_iterate hp] at h
  rw [Clock.await, Duration.millis_ofMillis]
  exact h

def gone (path : String) (f : Files) : Except AttachError (Option Unit) :=
  .ok (if f.isPresent path then none else some ())

/-- Waits for a device of a function, for one of a model and for the end of a path look at the files
at the start and after each pause. They end with what the first of these looks finds, with the fault
of the first one that fails, or with a timeout after the one that comes at the end of the time or
next after it. -/
theorem waits_poll (s : Sysfs) {pause : Nat} (hp : 1 ≤ pause) (millis : Nat) :
    (∀ bdf model, Polls pause millis (fun f => s.findByBdf f bdf model)
      (.deviceTimeout bdf (.ofMillis millis))
      ((s.watcher pause : Watcher (Machine τ)).waitBdf bdf model (.ofMillis millis))) ∧
    (∀ model, Polls pause millis (fun f => s.findByModel f model)
      (.deviceTimeout model (.ofMillis millis))
      ((s.watcher pause : Watcher (Machine τ)).waitModel model (.ofMillis millis))) ∧
    (∀ path, Polls pause millis (gone path) (.deviceNotGone path (.ofMillis millis))
      ((s.watcher pause : Watcher (Machine τ)).waitGone path (.ofMillis millis))) ∧
    (∀ f bdf model, OnlyIo (s.findByBdf f bdf model)) ∧
    ∀ f model, OnlyIo (s.findByModel f model) := by
  refine ⟨fun bdf model => ?_, fun model => ?_, fun path => ?_, s.onlyIo_findByBdf,
    s.onlyIo_findByModel⟩
  · apply polls_await hp millis
    intro f he
    obtain ⟨fault, hfault⟩ := s.onlyIo_findByBdf f bdf model _ he
    cases hfault
  · apply polls_await hp millis
    intro f he
    obtain ⟨fault, hfault⟩ := s.onlyIo_findByModel f model _ he
    cases hfault
  · apply polls_await hp millis
    rintro f ⟨⟩

/-- A machine to whose device tree `0000:01:00.0` comes with a disk, after 450 milliseconds. -/
def lateDisk : Machine Unit :=
  { coming := [⟨450, [.mkdir "/sys/bus/pci/devices/0000:01:00.0/virtio0/block/vda"]⟩], rest := () }

/-- A disk that comes between two looks, before the time is over, is found by the last look after
it. -/
theorem waits_poll_lateDisk :
    1 ≤ 200 ∧ 450 < 500 ∧
      (((watcher { root := "/sys" } 200).waitBdf "0000:01:00.0" none (.ofMillis 500) lateDisk).1 =
        .ok "/dev/vda") ∧
      ((watcher { root := "/sys" } 200).waitBdf "0000:01:00.0" none (.ofMillis 500)
        lateDisk).2.now = 600 := by
  have hpause : 1 ≤ 200 := by decide
  obtain ⟨hbdf, -, -, -, -⟩ := waits_poll (τ := Unit) { root := "/sys" } hpause 500
  obtain ⟨j, hends, hw⟩ := (hbdf "0000:01:00.0" none).ends lateDisk
  have hlooks : Ends (fun i => findByBdf { root := "/sys" } (lateDisk.later (200 * i)).files
      "0000:01:00.0" none) (500 ⌈/⌉ 200) (.deviceTimeout "0000:01:00.0" (.ofMillis 500)) 3
      (.ok "/dev/vda") := by
    apply Ends.found
    · decide
    · decide +kernel
    · decide +kernel
  obtain ⟨rfl, hanswer⟩ := hends.unique hlooks
  refine ⟨hpause, by decide, hanswer, ?_⟩
  rw [hw, Machine.now_later]
  rfl

end Sysfs
end OffloadVolume
