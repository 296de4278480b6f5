import OffloadVolume.Proofs.Withdrawal
import OffloadVolume.Proofs.WellFormed

/-!
# Creating a virtio-blk chain

A volume is shown as a virtio-blk device in two stages: the link to the storage target, then the
device. Main statement: `Provision.linking_of_connect`, when the device cannot be created the link is
deleted again, once, and stays recorded only if that is not answered.
-/

namespace OffloadVolume

/-! ## Storage targets -/

namespace Numeral

theorem value?_map_digitChar {ds : List Nat} (hds : ∀ d ∈ ds, d < 10) :
    value? 10 (ds.map Nat.digitChar) = some (Nat.ofDigits 10 ds.reverse) := by
  induction ds using List.reverseRecOn with
  | nil => rfl
  | append_singleton ds d ih =>
    have hd : d < 10 := hds d (by simp)
    rw [List.map_append, List.map_singleton, value?_append_singleton,
      ih fun e he => hds e (List.mem_append_left _ he), push?_digitChar (by decide) hd]
    simp only [List.reverse_append, List.reverse_singleton, List.singleton_append,
      Nat.ofDigits_cons, Nat.mul_comm, Nat.add_comm]

theorem digits_ne_sign {ds : List Nat} (hne : ds ≠ []) (hds : ∀ d ∈ ds, d < 10) {c : Char}
    (hc : c = '-' ∨ c = '+') (rest : List Char) : ds.map Nat.digitChar ≠ c :: rest := by
  have hall : ∀ d < 10, Nat.digitChar d ≠ '-' ∧ Nat.digitChar d ≠ '+' := by decide
  cases ds with
  | nil => exact absurd rfl hne
  | cons d ds =>
    obtain ⟨hminus, hplus⟩ := hall d (hds d List.mem_cons_self)
    intro hcons
    obtain ⟨hd, -⟩ := List.cons.inj hcons
    obtain rfl | rfl := hc
    · exact hminus hd
    · exact hplus hd

/-- A numeral is read as its number, if it is within the bound. -/
theorem unsigned?_of_writes {bound n : Nat} {text : String} (hw : Writes text n) (hn : n ≤ bound) :
    unsigned? 10 bound text.toList = some n := by
  obtain ⟨ds, hne, hds, hval, htext⟩ := hw
  have hread : (ofDigits? 10 (ds.map Nat.digitChar)).filter (· ≤ bound) = some n := by
    rw [ofDigits?, if_neg (by simpa using hne), value?_map_digitChar hds, ← hval]
    simpa using hn
  obtain htext | htext := htext
  · rw [htext, unsigned?]
    · exact hread
    · exact digits_ne_sign hne hds (.inr rfl)
  · rw [htext]
    exact hread

/-- A numeral within the bound is read as its number. -/
theorem signed?_of_writes {bound n : Nat} {text : String} (hw : Writes text n) (hn : n ≤ bound) :
    signed? bound text.toList = some (n : Int) := by
  have hunsigned := unsigned?_of_writes hw hn
  obtain ⟨ds, hne, hds, -, htext⟩ := hw
  rw [signed?, hunsigned]
  · rfl
  · intro rest hminus
    obtain htext | htext := htext
    · exact digits_ne_sign hne hds (.inl rfl) rest (htext.symm.trans hminus)
    · cases htext.symm.trans hminus

end Numeral

namespace VolumeContext

def Supplies (v : VolumeContext) (key : String) : Prop :=
  ∃ text, v.get? key = some text ∧ text ≠ ""

/-- The volume tells where its storage target is, on a port that is a positive number of 64 bits. -/
structure LocatesTarget (v : VolumeContext) : Prop where
  model : v.Supplies "model"
  targetPort : v.Supplies "targetPort"
  targetAddr : v.Supplies "targetAddr"
  nqn : v.Supplies "nqn"
  port : ∃ text n, v.get? "targetPort" = some text ∧ Numeral.Writes text n ∧ 0 < n ∧
    n ≤ Numeral.maxSigned64

theorem missing?_eq_none_iff (v : VolumeContext) (key : String) :
    v.missing? key = none ↔ v.Supplies key := by
  unfold missing? Supplies
  cases v.get? key with
  | none => simp
  | some text => by_cases ht : text = "" <;> simp [ht]

end VolumeContext

namespace Exchange

variable {j : Provision} {function : Nat} {x : Exchange} {m : Collection × String}

theorem Creates.call (hx : x.Creates j function m) : x.call = .create m.1 := by
  obtain ⟨_, _, _, -, rfl, -⟩ := hx
  rfl

theorem Creates.answered (hx : x.Creates j function m) : x.answered = true := by
  obtain ⟨_, _, _, -, rfl, -⟩ := hx
  rfl

theorem Creates.refusal (hx : x.Creates j function m) : j.refusal function m.1 = none := by
  obtain ⟨_, _, _, hr, -, -⟩ := hx
  exact j.refusal_of_request hr

end Exchange

namespace Provision

/-- A port is refused exactly if it is no decimal numeral of a positive number of 64 bits. -/
theorem targetService?_eq_none_iff (text : String) :
    targetService? text = none ↔
      ¬∃ n, Numeral.Writes text n ∧ 0 < n ∧ n ≤ Numeral.maxSigned64 := by
  constructor
  · rintro hnone ⟨n, hw, hpos, hle⟩
    rw [targetService?, Numeral.signed?_of_writes hw hle] at hnone
    simp [hpos] at hnone
  · intro hn
    cases hs : targetService? text with
    | none => rfl
    | some s =>
      unfold targetService? at hs
      split at hs
      · rename_i i hi
        split at hs
        · rename_i hpos
          obtain ⟨n, hw, rfl, hle⟩ := Numeral.writes_of_signed? hi hpos
          exact absurd ⟨n, hw, by omega, hle⟩ hn
        · cases hs
      · cases hs

variable (j : Provision)

/-- The link is asked for just if the volume tells where its storage target is. -/
theorem refusal_remote_eq_none_iff (function : Nat) :
    j.refusal function .remote = none ↔ j.volume.LocatesTarget := by
  simp only [refusal, Option.or_eq_none_iff, VolumeContext.missing?_eq_none_iff]
  constructor
  · rintro ⟨hmodel, hport, hbad, haddr, hnqn⟩
    refine ⟨hmodel, hport, haddr, hnqn, ?_⟩
    obtain ⟨model, hm, -⟩ := hmodel
    obtain ⟨text, ht, -⟩ := hport
    by_contra hn
    have hnone := (targetService?_eq_none_iff text).2 fun ⟨n, hw⟩ => hn ⟨text, n, ht, hw⟩
    simp [badPort?, hm, ht, hnone] at hbad
  · rintro ⟨hmodel, hport, haddr, hnqn, text, n, ht, hw⟩
    refine ⟨hmodel, hport, ?_, haddr, hnqn⟩
    have hsome : targetService? text ≠ none := fun hnone =>
      (targetService?_eq_none_iff text).1 hnone ⟨n, hw⟩
    obtain ⟨model, hm, -⟩ := hmodel
    simp [badPort?, hm, ht, hsome]

theorem refusal_virtioBlk_eq_none_iff (function : Nat) :
    j.refusal function .virtioBlk = none ↔ j.volume.Supplies "model" ∧ function ≤ maxFunction := by
  simp only [refusal, Option.or_eq_none_iff, VolumeContext.missing?_eq_none_iff, outOfRange?]
  simp

/-! ## The two stages -/

/-- How a virtio-blk chain is created where nothing is recorded: what is sent, the result, and what is
recorded in the end. -/
inductive Linking (j : Provision) (function : Nat) :
    List Exchange → Except AttachError Unit → Handles → Prop where
  /-- The link cannot be created. -/
  | unlinked {attempt : List Exchange} {e : AttachError} (hf : j.Fails function .remote attempt e) :
    Linking j function attempt (.error e) .empty
  /-- The device cannot be created, and the link is deleted again. -/
  | undone {x y : Exchange} {attempt : List Exchange} {name : String} {e : AttachError}
    (hx : x.Creates j function (.remote, name)) (hf : j.Fails function .virtioBlk attempt e)
    (hy : y.Deletes (.remote, name)) :
    Linking j function (x :: (attempt ++ [y])) (.error e)
      (if y.answered then .empty else { remote := some name })
  | linked {x y : Exchange} {name device : String} (hx : x.Creates j function (.remote, name))
    (hy : y.Creates j function (.virtioBlk, device)) :
    Linking j function [x, y] (.ok ()) { remote := some name, virtioBlk := some device }

variable {j} in
/-- A creation that fails was asked for, unless its request could not be made. -/
theorem Fails.asked_iff {function : Nat} {k : Collection} {attempt : List Exchange} {e : AttachError}
    (hf : j.Fails function k attempt e) :
    (∃ x ∈ attempt, x.call = .create k) ↔ j.refusal function k = none := by
  cases hf with
  | unasked hr => simp [hr]
  | refused hr => simp [j.refusal_of_request hr]
  | late hr => simp [j.refusal_of_request hr]

namespace Linking

variable {j} {function : Nat} {log : List Exchange} {result : Except AttachError Unit} {h : Handles}
  (hl : j.Linking function log result h)

include hl

/-- The link to the target is asked for exactly if the volume tells where the target is. -/
theorem remote_asked_iff :
    (∃ x ∈ log, x.call = .create .remote) ↔ j.volume.LocatesTarget := by
  rw [← j.refusal_remote_eq_none_iff function]
  cases hl with
  | unlinked hf => exact hf.asked_iff
  | undone hx _ _ => exact iff_of_true ⟨_, List.mem_cons_self, hx.call⟩ hx.refusal
  | linked hx _ => exact iff_of_true ⟨_, List.mem_cons_self, hx.call⟩ hx.refusal

/-- The device is asked for exactly if the link was created and the function can be named. -/
theorem virtioBlk_asked_iff :
    (∃ x ∈ log, x.call = .create .virtioBlk) ↔
      (∃ x ∈ log, x.call = .create .remote ∧ x.answered = true) ∧ function ≤ maxFunction := by
  have hmodel {x : Exchange} {name : String} (hx : x.Creates j function (.remote, name)) :
      j.volume.Supplies "model" := ((j.refusal_remote_eq_none_iff function).1 hx.refusal).model
  cases hl with
  | unlinked hf =>
    refine iff_of_false ?_ ?_
    · rintro ⟨x, hx, hcall⟩
      cases (hf.creates j x hx).symm.trans hcall
    · rintro ⟨⟨x, hx, -, ha⟩, -⟩
      cases (hf.unanswered j x hx).symm.trans ha
  | @undone x y attempt name e hx hf hy =>
    have hlinked : ∃ z ∈ x :: (attempt ++ [y]), z.call = .create .remote ∧ z.answered = true :=
      ⟨x, List.mem_cons_self, hx.call, hx.answered⟩
    rw [and_iff_right hlinked, ← and_iff_right (hmodel hx) (b := function ≤ maxFunction),
      ← refusal_virtioBlk_eq_none_iff, ← hf.asked_iff]
    simp [hx.call, hy.call]
  | @linked x y name device hx hy =>
    have hasked := (j.refusal_virtioBlk_eq_none_iff function).1 hy.refusal
    simp [hx.call, hy.call, hx.answered, hasked.2]

/-- The link stays recorded when all went well, or when it could not be deleted again. -/
theorem get_remote_iff :
    (∃ name, h.get .remote = some name) ↔
      (∃ x ∈ log, x.call = .create .remote ∧ x.answered = true) ∧
        (result = .ok () ∨ ∃ y ∈ log, y.call = .delete .remote ∧ y.answered = false) := by
  cases hl with
  | unlinked hf =>
    refine iff_of_false (by simp) ?_
    rintro ⟨⟨x, hx, -, ha⟩, -⟩
    cases (hf.unanswered j x hx).symm.trans ha
  | @undone x y attempt name e hx hf hy =>
    have hattempt : ¬∃ z ∈ attempt, z.call = .delete .remote ∧ z.answered = false := by
      rintro ⟨z, hz, hcall, -⟩
      cases (hf.creates j z hz).symm.trans hcall
    have hlinked : ∃ z ∈ x :: (attempt ++ [y]), z.call = .create .remote ∧ z.answered = true :=
      ⟨x, List.mem_cons_self, hx.call, hx.answered⟩
    have hundone : (∃ z ∈ x :: (attempt ++ [y]), z.call = .delete .remote ∧ z.answered = false) ↔
        y.answered = false := by
      simpa [or_and_right, exists_or, hx.call, hy.call] using fun z hz hcall ha =>
        absurd ⟨z, hz, hcall, ha⟩ hattempt
    rw [and_iff_right hlinked, hundone]
    cases y.answered with
    | true => simp
    | false => simp [Handles.get]
  | @linked x y name device hx hy => simp [Handles.get, hx.call, hx.answered]

/-- The device is recorded exactly if all went well. -/
theorem get_virtioBlk_iff : (∃ device, h.get .virtioBlk = some device) ↔ result = .ok () := by
  cases hl with
  | unlinked hf => simp
  | @undone x y attempt name e hx hf hy =>
    cases y.answered with
    | true => simp
    | false => simp [Handles.get]
  | @linked x y name device hx hy => simp [Handles.get]

end Linking

/-- The stages that were created before one that fails. -/
theorem made_of_stages {made : List (Collection × String)} {k : Collection} {rest : List Collection}
    (hks : [.remote, .virtioBlk] = made.map Prod.fst ++ k :: rest) :
    made = [] ∧ k = .remote ∨ ∃ name, made = [(.remote, name)] ∧ k = .virtioBlk := by
  match made with
  | [] =>
    cases hks
    exact .inl ⟨rfl, rfl⟩
  | [(l, name)] =>
    cases hks
    exact .inr ⟨name, rfl, rfl⟩
  | _ :: _ :: made => simp at hks

variable {σ : Type} (p : Plane σ)

/-- Each creation of a virtio-blk chain goes one of these ways. -/
theorem linking_of_run (function : Nat) (w : σ) :
    ∃ log result h w', j.connect .virtioBlk p.recorded (.pciFunction function) .empty (w, []) =
      (result, h, w', log) ∧ j.Linking function log result h := by
  obtain ⟨made, creates, w', hc, hcase⟩ :=
    j.connect_cases p (c := .virtioBlk) (by decide) function w
  obtain ⟨hks, hrun⟩ | ⟨k, rest, attempt, deletes, e, hks, hf, hd, hrun⟩ := hcase
  · match made, hks with
    | [(_, name), (_, device)], rfl =>
      obtain ⟨x, _, hx, hrest, rfl⟩ := List.forall₂_cons_right_iff.1 hc
      obtain ⟨y, _, hy, hnil, rfl⟩ := List.forall₂_cons_right_iff.1 hrest
      cases hnil
      exact ⟨_, _, _, w', hrun, .linked hx hy⟩
  · obtain ⟨rfl, rfl⟩ | ⟨name, rfl, rfl⟩ := made_of_stages hks
    · cases hc
      cases hd
      refine ⟨_, _, _, w', hrun, ?_⟩
      rw [List.nil_append, List.append_nil]
      exact .unlinked hf
    · obtain ⟨x, _, hx, hnil, rfl⟩ := List.forall₂_cons_right_iff.1 hc
      cases hnil
      obtain ⟨y, _, hy, hnil, rfl⟩ := List.forall₂_cons_right_iff.1 hd
      cases hnil
      refine ⟨_, _, _, w', hrun, ?_⟩
      have hleft : (Handles.empty.record [(.remote, name)]).clear (Exchange.settled [y]) =
          if y.answered then .empty else { remote := some name } := by
        cases ha : y.answered with
        | true =>
          rw [Exchange.settled_cons_of_answered ha, hy.collection]
          rfl
        | false =>
          rw [Exchange.settled_cons_of_not_answered ha]
          rfl
      rw [hleft]
      exact .undone hx hf hy

/-- The creation of a virtio-blk chain with nothing recorded. The link to the storage target is asked
for just if the volume tells where it is, and the device just if the link was created and the function
can be named. When the device cannot be created, the link is deleted again, and the result is the error
of the device. The link stays recorded if its deletion is not answered, and the device is recorded just
if all went well. -/
theorem linking_of_connect (function : Nat) (w : σ) :
    ∃ log result h w',
      j.connect .virtioBlk p (.pciFunction function) .empty w = (result, h, w') ∧
      j.connect .virtioBlk p.recorded (.pciFunction function) .empty (w, []) =
        (result, h, w', log) ∧
      j.Linking function log result h ∧
      ((∃ x ∈ log, x.call = .create .remote) ↔ j.volume.LocatesTarget) ∧
      ((∃ x ∈ log, x.call = .create .virtioBlk) ↔
        (∃ x ∈ log, x.call = .create .remote ∧ x.answered = true) ∧ function ≤ maxFunction) ∧
      ((∃ name, h.get .remote = some name) ↔
        (∃ x ∈ log, x.call = .create .remote ∧ x.answered = true) ∧
          (result = .ok () ∨ ∃ y ∈ log, y.call = .delete .remote ∧ y.answered = false)) ∧
      ((∃ device, h.get .virtioBlk = some device) ↔ result = .ok ()) := by
  obtain ⟨log, result, h, w', hrun, hl⟩ := j.linking_of_run p function w
  have hover := (Plane.recorded_over p).connect j .virtioBlk (.pciFunction function) .empty (w, [])
  rw [hrun] at hover
  exact ⟨log, result, h, w', hover.symm, hrun, hl, hl.remote_asked_iff, hl.virtioBlk_asked_iff,
    hl.get_remote_iff, hl.get_virtioBlk_iff⟩

end Provision
end OffloadVolume
