import OffloadVolume.Chain.Request

/-!
# Requests that are not made

Whether a create can be asked for depends on the volume and on the function alone, never on what was
created before. Main statement: `Provision.request_eq_error_iff`, a request is not made exactly for
the reasons that `Provision.refusal` lists, and the first of them is the error.
-/

namespace OffloadVolume

/-- What is computed in two steps is computed by each. -/
theorem ok_of_bind {α β : Type} {x : Except AttachError α} {f : α → Except AttachError β} {b : β}
    (hb : (x >>= f) = .ok b) : ∃ a, x = .ok a ∧ f a = .ok b := by
  cases x with
  | error e => cases hb
  | ok a => exact ⟨a, rfl, hb⟩

/-- A reason tells whether a computation fails, and with which error. -/
def Tells {α : Type} (reason : Option AttachError) (x : Except AttachError α) : Prop :=
  ∀ e, x = .error e ↔ reason = some e

namespace Tells

variable {α β : Type} {reason other : Option AttachError}

theorem ok (a : α) : Tells none (.ok a) := fun _ => by simp

theorem error (e : AttachError) : Tells (some e) (.error e : Except AttachError α) :=
  fun _ => by simp

/-- Of two computations in turn, the reason of the first counts if there is one. -/
theorem bind {x : Except AttachError α} {f : α → Except AttachError β} (hx : Tells reason x)
    (hf : ∀ a, x = .ok a → Tells other (f a)) : Tells (reason.or other) (x >>= f) := by
  intro e
  cases x with
  | error e' =>
    rw [(hx e').1 rfl]
    simp [Bind.bind, Except.bind]
  | ok a =>
    have hr : reason = none := by
      cases reason with
      | none => rfl
      | some e' => cases (hx e').2 rfl
    rw [hr, Option.none_or]
    exact hf a rfl e

theorem map {x : Except AttachError α} (hx : Tells reason x) (f : α → β) :
    Tells reason (do let a ← x; return f a) := by
  have h := hx.bind fun a _ => ok (f a)
  rwa [Option.or_none] at h

end Tells

namespace VolumeContext

def missing? (v : VolumeContext) (key : String) : Option AttachError :=
  if v.get? key = none ∨ v.get? key = some "" then some (.invalidArgument (.missingKey key))
  else none

theorem tells_require (v : VolumeContext) (key : String) :
    Tells (v.missing? key) (v.require key) := by
  cases ht : v.get? key with
  | none => simpa [missing?, require, ht] using Tells.error _
  | some text =>
    by_cases he : text = ""
    · simpa [missing?, require, ht, he] using Tells.error _
    · simpa [missing?, require, ht, he] using Tells.ok text

theorem get?_of_require {v : VolumeContext} {key text : String} (ht : v.require key = .ok text) :
    v.get? key = some text := by
  simp only [require] at ht
  split at ht
  · rename_i hg
    split at ht <;> simp_all
  · cases ht

end VolumeContext

namespace Provision

def outOfRange? (function : Nat) : Option AttachError :=
  if maxFunction < function then some (.invalidArgument (.functionOutOfRange function)) else none

theorem tells_endpoint (function : Nat) : Tells (outOfRange? function) (endpoint function) := by
  by_cases hf : maxFunction < function
  · rw [outOfRange?, if_pos hf, endpoint, if_neg (Nat.not_le.2 hf)]
    exact Tells.error _
  · rw [outOfRange?, if_neg hf, endpoint, if_pos (Nat.not_lt.1 hf)]
    exact Tells.ok _

variable (j : Provision)

def badPort? : Option AttachError :=
  match j.volume.get? "model", j.volume.get? "targetPort" with
  | some model, some port =>
    if targetService? port = none then
      some (.invalidArgument (.invalidPort (j.naming.remoteId model) port))
    else none
  | _, _ => none

/-- Why a create cannot be asked for, if it cannot. -/
def refusal (function : Nat) : Collection → Option AttachError
  | .subsystem | .namespace => j.volume.missing? "model"
  | .controller => outOfRange? function
  | .remote =>
    (j.volume.missing? "model").or <| (j.volume.missing? "targetPort").or <|
      j.badPort?.or <| (j.volume.missing? "targetAddr").or <| j.volume.missing? "nqn"
  | .virtioBlk => (j.volume.missing? "model").or (outOfRange? function)

theorem tells_remote (function : Nat) : Tells (j.refusal function .remote) j.remote := by
  refine (j.volume.tells_require _).bind fun model hm => ?_
  refine (j.volume.tells_require _).bind fun port hp => ?_
  have hb : j.badPort? = (if targetService? port = none then
      some (.invalidArgument (.invalidPort (j.naming.remoteId model) port)) else none) := by
    simp only [badPort?, VolumeContext.get?_of_require hm, VolumeContext.get?_of_require hp]
  rw [hb]
  cases targetService? port with
  | none => exact Tells.error _
  | some trsvcid =>
    refine (j.volume.tells_require _).bind fun traddr _ => ?_
    exact (j.volume.tells_require _).map _

/-- The reason against a request is told without what is recorded. -/
theorem tells_request (function : Nat) (h : Handles) (k : Collection) :
    Tells (j.refusal function k) (j.request function h k) := by
  cases k with
  | subsystem => exact (j.volume.tells_require _).map _
  | controller => exact (tells_endpoint function).map _
  | remote => exact j.tells_remote function
  | «namespace» => exact (j.volume.tells_require _).map _
  | virtioBlk =>
    exact (j.volume.tells_require _).bind fun model _ => (tells_endpoint function).map _

/-- A request fails exactly for the reason against it. -/
theorem request_eq_error_iff (function : Nat) (h : Handles) (k : Collection) (e : AttachError) :
    j.request function h k = .error e ↔ j.refusal function k = some e :=
  j.tells_request function h k e

theorem refusal_of_request {function : Nat} {h : Handles} {k : Collection}
    {request : CreateRequest k.Resource} (hr : j.request function h k = .ok request) :
    j.refusal function k = none := by
  cases hf : j.refusal function k with
  | none => rfl
  | some e =>
    rw [(j.request_eq_error_iff function h k e).2 hf] at hr
    cases hr

end Provision
end OffloadVolume
