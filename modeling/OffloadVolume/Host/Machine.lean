import OffloadVolume.Files.Tree
import OffloadVolume.Host.Claims
import OffloadVolume.Host.Clock

/-!
# Machines

A machine has a clock, files that change as time passes, and functions that are held. What else
there is besides it is of a type `τ`.
-/

namespace OffloadVolume

structure ComingChange where
  time : Nat
  changes : List FileChange
  deriving Repr

/-- A machine at a time, in milliseconds. -/
structure Machine (τ : Type) where
  now : Nat := 0
  files : Files := .empty
  coming : List ComingChange := []
  claims : Claims := {}
  rest : τ

namespace Machine

variable {τ : Type}

/-- Lets time pass: the changes that are due happen in the order of their times. -/
def pass (n : Nat) (m : Machine τ) : Machine τ :=
  let due := (m.coming.filter fun c => c.time ≤ m.now + n).mergeSort fun a b => a.time ≤ b.time
  { m with
    now := m.now + n
    files := due.foldl (fun f c => f.changeAll c.changes) m.files
    coming := m.coming.filter fun c => !(c.time ≤ m.now + n) }

def change (changes : List FileChange) (m : Machine τ) : Machine τ :=
  { m with files := m.files.changeAll changes }

/-- Has files changed so many milliseconds from now. -/
def plan (delay : Nat) (changes : List FileChange) (m : Machine τ) : Machine τ :=
  { m with coming := m.coming ++ [⟨m.now + delay, changes⟩] }

def clock : Clock (Machine τ) where
  now := now
  sleep := pass
  now_sleep _ _ := rfl

end Machine
end OffloadVolume
