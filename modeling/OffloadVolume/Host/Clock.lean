import OffloadVolume.Error

/-!
# Clocks

A world with a clock, and waiting in it: look, and as long as nothing is found and the time is not
over, pause and look again.
-/

namespace OffloadVolume

structure Clock (σ : Type) where
  now : σ → Nat
  sleep : Nat → σ → σ
  now_sleep : ∀ (n : Nat) (w : σ), now (sleep n w) = now w + n

namespace Clock

variable {α σ : Type}

/-- Looks for something until a deadline, with a pause between two looks. The first look is at
once and the last one not before the deadline; a look that fails ends the wait. -/
def awaitUntil (c : Clock σ) (pause : Nat) (look : σ → Except AttachError (Option α))
    (overdue : AttachError) (deadline : Nat) (w : σ) : Except AttachError α × σ :=
  match look w with
  | .error e => (.error e, w)
  | .ok (some found) => (.ok found, w)
  | .ok none =>
    if deadline ≤ c.now w then (.error overdue, w)
    else c.awaitUntil pause look overdue deadline (c.sleep (max 1 pause) w)
termination_by deadline - c.now w
decreasing_by
  rw [c.now_sleep]
  omega

def await (c : Clock σ) (pause : Nat) (look : σ → Except AttachError (Option α))
    (overdue : AttachError) (timeout : Duration) (w : σ) : Except AttachError α × σ :=
  c.awaitUntil pause look overdue (c.now w + timeout.millis) w

end Clock
end OffloadVolume
