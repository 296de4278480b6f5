import OffloadVolume.Files.Path
import OffloadVolume.Slot

/-!
# Claims

The functions that are held, and the search for a free one. A claim ends when it is released, or
when the device on its function was seen and is gone again. Main statements: `firstFrom_eq_some_iff`
and `firstFrom_eq_none_iff`, the search finds the first number with a property if there is one, and
`find?_release`, giving a function back ends its claim and no other.
-/

namespace OffloadVolume

/-- A function that is held, and whether its device was seen since. -/
structure Claim where
  slot : PciSlot
  appeared : Bool := false
  deriving DecidableEq, Repr

/-- The functions that are held, each once. -/
structure Claims where
  entries : List Claim := []
  deriving DecidableEq, Repr

namespace Claims

def empty : Claims := {}

def find? (c : Claims) (s : PciSlot) : Option Claim := c.entries.find? fun e => e.slot == s

def count (c : Claims) : Nat := c.entries.length

def release (c : Claims) (s : PciSlot) : Claims := ⟨c.entries.filter fun e => e.slot != s⟩

/-- Notes the devices that are there, and ends the claims whose device was seen and is gone. -/
def prune (present : PciSlot → Bool) (c : Claims) : Claims :=
  ⟨c.entries.filterMap fun e =>
    if present e.slot then some { e with appeared := true }
    else if e.appeared then none
    else some e⟩

/-- The first number from a start on, within a count, with a property. -/
def firstFrom (p : Nat → Bool) (start : Nat) : Nat → Option Nat
  | 0 => none
  | count + 1 => if p start then some start else firstFrom p (start + 1) count

/-- A search that ends well has found the least number. -/
theorem firstFrom_eq_some_iff {p : Nat → Bool} {start count n : Nat} :
    firstFrom p start count = some n ↔
      start ≤ n ∧ n < start + count ∧ p n = true ∧ ∀ m, start ≤ m → m < n → p m = false := by
  induction count generalizing start with
  | zero => simp only [firstFrom, reduceCtorEq, false_iff]; omega
  | succ count ih =>
    by_cases h : p start = true
    · simp only [firstFrom, h, if_true, Option.some.injEq]
      constructor
      · rintro rfl
        exact ⟨Nat.le_refl _, by omega, h, fun m h1 h2 => absurd h2 (by omega)⟩
      · rintro ⟨h1, _, _, h4⟩
        by_cases hn : start < n
        · simp [h4 start (Nat.le_refl _) hn] at h
        · omega
    · simp only [firstFrom, h, Bool.false_eq_true, if_false, ih]
      constructor
      · rintro ⟨h1, h2, h3, h4⟩
        refine ⟨by omega, by omega, h3, fun m hm1 hm2 => ?_⟩
        by_cases hm : m = start
        · simpa [hm] using h
        · exact h4 m (by omega) hm2
      · rintro ⟨h1, h2, h3, h4⟩
        have hn : n ≠ start := fun e => h (e ▸ h3)
        exact ⟨by omega, by omega, h3, fun m hm1 hm2 => h4 m (by omega) hm2⟩

/-- A search ends in vain only if no number has the property. -/
theorem firstFrom_eq_none_iff {p : Nat → Bool} {start count : Nat} :
    firstFrom p start count = none ↔ ∀ n, start ≤ n → n < start + count → p n = false := by
  induction count generalizing start with
  | zero => simp only [firstFrom, true_iff]; omega
  | succ count ih =>
    by_cases h : p start = true
    · simp only [firstFrom, h, if_true, reduceCtorEq, false_iff]
      intro hall
      simp [hall start (Nat.le_refl _) (by omega)] at h
    · simp only [firstFrom, h, Bool.false_eq_true, if_false, ih]
      constructor
      · intro hall n h1 h2
        by_cases hn : n = start
        · simpa [hn] using h
        · exact hall n (by omega) (by omega)
      · intro hall n h1 h2
        exact hall n (by omega) (by omega)

theorem find?_release (c : Claims) (s t : PciSlot) :
    (c.release s).find? t = if s = t then none else c.find? t := by
  by_cases h : s = t
  · simp [find?, release, h]
  · simp only [find?, release, h, if_false, List.find?_filter]
    congr 1
    funext e
    by_cases he : e.slot = t
    · simp [he, Ne.symm h]
    · simp [he]

def isFree (present : PciSlot → Bool) (c : Claims) (s : PciSlot) : Bool :=
  !present s && (c.find? s).isNone

/-- The first free function on some bridges, the bridges in turn. -/
def firstFree (present : PciSlot → Bool) (bridges : Nat) (c : Claims) : Option PciSlot :=
  (firstFrom (fun n => c.isFree present (.ofFunction n)) 0 (bridges * functionsPerBridge)).map
    PciSlot.ofFunction

/-- Ends the claims that are over and holds the first free function. -/
def allocate (present : PciSlot → Bool) (bridges : Nat) (c : Claims) :
    Except AttachError PciSlot × Claims :=
  match (c.prune present).firstFree present bridges with
  | some s => (.ok s, ⟨(c.prune present).entries ++ [⟨s, false⟩]⟩)
  | none => (.error (.functionsExhausted bridges), c.prune present)

def allocateMany (present : PciSlot → Bool) (bridges : Nat) :
    Nat → Claims → List (Except AttachError PciSlot) × Claims
  | 0, c => ([], c)
  | n + 1, c =>
    match c.allocate present bridges with
    | (result, c) =>
      match c.allocateMany present bridges n with
      | (results, c) => (result :: results, c)

end Claims

/-- The claims of several device trees, each known by the parts of its path. -/
structure ClaimRegistry where
  entries : List (List String × Claims) := []

namespace ClaimRegistry

def claims (r : ClaimRegistry) (key : List String) : Claims :=
  ((r.entries.find? fun e => e.1 == key).map (·.2)).getD {}

def put (r : ClaimRegistry) (key : List String) (c : Claims) : ClaimRegistry :=
  ⟨(key, c) :: r.entries.filter fun e => e.1 != key⟩

end ClaimRegistry
end OffloadVolume
