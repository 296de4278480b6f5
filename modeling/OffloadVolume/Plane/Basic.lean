import OffloadVolume.Plane.Call
import OffloadVolume.Status

/-!
# Control planes

A control plane changes a world and answers calls. A caller gives each call a time; an answer that
comes later is the same to it as a failure.
-/

namespace OffloadVolume

inductive Outcome (α : Type) where
  | answered (reply : α)
  | failed (status : Status)
  | late
  deriving DecidableEq, Repr

namespace Outcome

/-- What the caller sees, which gave the call so much time. -/
def toExcept (timeout : Duration) : Outcome α → Except Status α
  | answered reply => .ok reply
  | failed status => .error status
  | late => .error (.noResponse timeout)

@[simp] theorem toExcept_answered (timeout : Duration) (reply : α) :
    (answered reply).toExcept timeout = .ok reply := rfl

@[simp] theorem toExcept_failed (timeout : Duration) (status : Status) :
    (failed status : Outcome α).toExcept timeout = .error status := rfl

@[simp] theorem toExcept_late (timeout : Duration) :
    (late : Outcome α).toExcept timeout = .error (.noResponse timeout) := rfl

end Outcome

/-- Whoever takes requests and changes a world. -/
structure Plane (σ : Type) where
  submit : Duration → (c : Call) → c.Request → σ → Outcome c.Reply × σ

namespace Plane

/-- Makes a call and waits for its answer no longer than the timeout. -/
def perform (p : Plane σ) (timeout : Duration) (c : Call) (request : c.Request) (w : σ) :
    Except Status c.Reply × σ :=
  ((p.submit timeout c request w).1.toExcept timeout, (p.submit timeout c request w).2)

end Plane
end OffloadVolume
