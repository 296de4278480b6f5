import Mathlib.Data.List.Induction
import Mathlib.Data.Nat.Digits.Defs
import OffloadVolume.Proofs.Registry
import OffloadVolume.Proofs.Turns
import OffloadVolume.Rehearsal.Plane

/-!
# Requests that are well formed

A backend makes its requests from the volume, the function and the names that earlier answers have
left. Main statement: `Provision.wellFormed_of_turns`, each request of a run names what there is to
name, and no name is empty.
-/

namespace OffloadVolume

/-! ## Numbers as texts -/

namespace Numeral

/-- The text is a decimal numeral of the number, perhaps with a plus sign before it. -/
def Writes (text : String) (n : Nat) : Prop :=
  ∃ ds : List Nat, ds ≠ [] ∧ (∀ d ∈ ds, d < 10) ∧ n = Nat.ofDigits 10 ds.reverse ∧
    (text.toList = ds.map Nat.digitChar ∨ text.toList = '+' :: ds.map Nat.digitChar)

theorem digitChar_of_digit? {c : Char} {d : Nat} (hc : digit? c = some d) (hd : d < 10) :
    Nat.digitChar d = c := by
  have hall : ∀ d < 10, Nat.digitChar d = Char.ofNat (48 + d) := by decide
  unfold digit? at hc
  split at hc
  · rename_i hrange
    have hlow : 48 ≤ c.toNat := hrange.1
    have hval : c.toNat = 48 + d := by
      cases hc
      omega
    rw [hall d hd, ← hval, Char.ofNat_toNat]
  · split at hc
    · rename_i hrange
      have hlow : 97 ≤ c.toNat := hrange.1
      cases hc
      omega
    · split at hc
      · rename_i hrange
        have hlow : 65 ≤ c.toNat := hrange.1
        cases hc
        omega
      · cases hc

/-- A number that is read was written in decimal digits. -/
theorem digits_of_value? {cs : List Char} {n : Nat} (hn : value? 10 cs = some n) :
    ∃ ds : List Nat, cs = ds.map Nat.digitChar ∧ (∀ d ∈ ds, d < 10) ∧
      n = Nat.ofDigits 10 ds.reverse := by
  induction cs using List.reverseRecOn generalizing n with
  | nil => exact ⟨[], rfl, by simp, by simpa using hn.symm⟩
  | append_singleton cs c ih =>
    rw [value?_append_singleton] at hn
    unfold push? at hn
    split at hn
    · rename_i m d hm hd
      split at hn
      · rename_i hlt
        cases hn
        obtain ⟨ds, rfl, hds, rfl⟩ := ih hm
        refine ⟨ds ++ [d], ?_, ?_, ?_⟩
        · rw [List.map_append, List.map_singleton, digitChar_of_digit? hd hlt]
        · intro e he
          obtain he | he := List.mem_append.1 he
          · exact hds e he
          · rwa [List.mem_singleton.1 he]
        · rw [List.reverse_append, List.reverse_singleton, List.singleton_append,
            Nat.ofDigits_cons, Nat.mul_comm, Nat.add_comm]
      · cases hn
    · cases hn

theorem digits_of_ofDigits? {cs : List Char} {n : Nat} (hn : ofDigits? 10 cs = some n) :
    ∃ ds : List Nat, ds ≠ [] ∧ (∀ d ∈ ds, d < 10) ∧ n = Nat.ofDigits 10 ds.reverse ∧
      cs = ds.map Nat.digitChar := by
  unfold ofDigits? at hn
  split at hn
  · cases hn
  · rename_i hne
    obtain ⟨ds, rfl, hds, hval⟩ := digits_of_value? hn
    refine ⟨ds, ?_, hds, hval, rfl⟩
    rintro rfl
    exact hne rfl

/-- An unsigned numeral is the numeral of its number. -/
theorem writes_of_unsigned? {bound n : Nat} {text : String}
    (hn : unsigned? 10 bound text.toList = some n) : Writes text n ∧ n ≤ bound := by
  simp only [unsigned?, Option.filter_eq_some_iff, decide_eq_true_eq] at hn
  obtain ⟨hdigits, hle⟩ := hn
  refine ⟨?_, hle⟩
  obtain ⟨ds, hne, hds, hval, hcs⟩ := digits_of_ofDigits? hdigits
  refine ⟨ds, hne, hds, hval, ?_⟩
  split at hcs
  · rename_i hplus
    exact .inr (by rw [hplus, hcs])
  · exact .inl hcs

/-- A signed numeral without a minus sign is the numeral of its number. -/
theorem writes_of_signed? {bound : Nat} {text : String} {i : Int}
    (hi : signed? bound text.toList = some i) (hpos : 0 < i) :
    ∃ n : Nat, Writes text n ∧ i = n ∧ n ≤ bound := by
  unfold signed? at hi
  split at hi
  · obtain ⟨_, hread, rfl⟩ := Option.map_eq_some_iff.1 hi
    obtain ⟨n, -, ⟨⟩⟩ := Option.bind_eq_some_iff.1 hread
    omega
  · obtain ⟨_, hread, rfl⟩ := Option.map_eq_some_iff.1 hi
    obtain ⟨n, hunsigned, ⟨⟩⟩ := Option.bind_eq_some_iff.1 hread
    obtain ⟨hwrites, hle⟩ := writes_of_unsigned? hunsigned
    exact ⟨n, hwrites, rfl, hle⟩

end Numeral

/-! ## What a request names -/

namespace CreateRequest

def subsystem? : (k : Collection) → CreateRequest k.Resource → Option ObjectKey
  | .controller, request => (request.resource.bind Controller.spec).bind ControllerSpec.subsystem
  | .namespace, request => (request.resource.bind Namespace.spec).bind NamespaceSpec.subsystem
  | _, _ => none

def endpoint? : (k : Collection) → CreateRequest k.Resource → Option PciEndpoint
  | .controller, request => (request.resource.bind Controller.spec).bind ControllerSpec.pcie
  | .virtioBlk, request => request.resource.bind VirtioBlk.pcie
  | _, _ => none

def service? : (k : Collection) → CreateRequest k.Resource → Option Int64
  | .remote, request => request.resource.map RemoteController.trsvcid
  | _, _ => none

/-- A request names the function, and the number of the storage target that the volume tells. -/
structure Addresses (j : Provision) (function : Nat) (k : Collection)
    (request : CreateRequest k.Resource) : Prop where
  endpoint : k = .controller ∨ k = .virtioBlk → ∃ e, request.endpoint? k = some e ∧
    e.physicalFunction.toInt = function ∧ e.virtualFunction = 0
  service : k = .remote → ∃ s text n, request.service? k = some s ∧
    j.volume.get? "targetPort" = some text ∧ Numeral.Writes text n ∧ s.toInt = n ∧ 0 < n

/-- What a request takes from the volume, the function and the names that are recorded. -/
structure Suits (j : Provision) (function : Nat) (h : Handles) (k : Collection)
    (request : CreateRequest k.Resource) : Prop extends request.Addresses j function k where
  id : request.id ≠ ""
  subsystem : k = .controller ∨ k = .namespace →
    request.subsystem? k = h.subsystem.map ObjectKey.mk

end CreateRequest

theorem append_ne_empty (s : String) {t : String} (ht : t ≠ "") : s ++ t ≠ "" := by
  intro h
  apply ht
  simpa using (String.append_eq_empty_iff.1 h).2

theorem VolumeContext.ne_empty_of_require {v : VolumeContext} {key text : String}
    (ht : v.require key = .ok text) : text ≠ "" := by
  unfold require at ht
  split at ht
  · split at ht
    · cases ht
    · rename_i hne
      cases ht
      simpa using hne
  · cases ht

theorem Numeral.decimal_ne_empty (n : Nat) : decimal n ≠ "" := by
  intro h
  have hnil : digits 10 n = [] := by simpa [decimal] using h
  exact Nat.toDigits_ne_nil hnil

namespace Provision

theorem endpoint_inv {function : Nat} {e : PciEndpoint} (he : endpoint function = .ok e) :
    e.physicalFunction.toInt = function ∧ e.virtualFunction = 0 := by
  unfold endpoint at he
  split at he
  · rename_i hle
    cases he
    have hlt : function < 2 ^ 31 := by
      simp only [maxFunction, Numeral.maxSigned32] at hle
      omega
    exact ⟨Int32.toInt_ofNat_of_lt hlt, rfl⟩
  · cases he

/-- A port that is read is the positive number that its numeral writes. -/
theorem targetService?_inv {text : String} {s : Int64} (hs : targetService? text = some s) :
    ∃ n, Numeral.Writes text n ∧ s.toInt = n ∧ 0 < n := by
  unfold targetService? at hs
  split at hs
  · rename_i i hi
    split at hs
    · rename_i hpos
      cases hs
      obtain ⟨n, hn, rfl, hle⟩ := Numeral.writes_of_signed? hi hpos
      simp only [Numeral.maxSigned64] at hle
      exact ⟨n, hn, Int64.toInt_ofInt_of_le (by omega) (by omega), by omega⟩
    · cases hs
  · cases hs

variable (j : Provision)

/-- Every request takes what it should. -/
theorem suits_of_request {function : Nat} {h : Handles} {k : Collection}
    {request : CreateRequest k.Resource} (hr : j.request function h k = .ok request) :
    request.Suits j function h k := by
  cases k with
  | subsystem =>
    obtain ⟨model, hm, ⟨⟩⟩ := ok_of_bind hr
    exact ⟨⟨by simp, by simp⟩, append_ne_empty _ (VolumeContext.ne_empty_of_require hm), by simp⟩
  | controller =>
    obtain ⟨e, he, ⟨⟩⟩ := ok_of_bind hr
    exact ⟨⟨fun _ => ⟨e, rfl, endpoint_inv he⟩, by simp⟩,
      append_ne_empty _ (Numeral.decimal_ne_empty function), fun _ => rfl⟩
  | remote =>
    obtain ⟨model, hm, hr⟩ := ok_of_bind hr
    obtain ⟨text, ht, hr⟩ := ok_of_bind hr
    cases hs : targetService? text with
    | none =>
      rw [hs] at hr
      cases hr
    | some s =>
      rw [hs] at hr
      obtain ⟨traddr, -, hr⟩ := ok_of_bind hr
      obtain ⟨subnqn, -, ⟨⟩⟩ := ok_of_bind hr
      obtain ⟨n, hn⟩ := targetService?_inv hs
      exact ⟨⟨by simp, fun _ => ⟨s, text, n, rfl, VolumeContext.get?_of_require ht, hn⟩⟩,
        append_ne_empty _ (VolumeContext.ne_empty_of_require hm), by simp⟩
  | «namespace» =>
    obtain ⟨model, hm, ⟨⟩⟩ := ok_of_bind hr
    exact ⟨⟨by simp, by simp⟩, append_ne_empty _ (VolumeContext.ne_empty_of_require hm),
      fun _ => rfl⟩
  | virtioBlk =>
    obtain ⟨model, -, hr⟩ := ok_of_bind hr
    obtain ⟨e, he, ⟨⟩⟩ := ok_of_bind hr
    exact ⟨⟨fun _ => ⟨e, rfl, endpoint_inv he⟩, by simp⟩,
      append_ne_empty _ (Numeral.decimal_ne_empty function), by simp⟩

end Provision

/-! ## Names that are recorded -/

/-- The exchange was answered, and what it created was recorded in a collection under a name. -/
def Exchange.Records (x : Exchange) (m : Collection × String) : Prop :=
  ∃ request reply, x = ⟨.create m.1, request, .answered reply⟩ ∧
    m.2 = recordedName (m.1.nameOf reply) request.id

theorem Exchange.Creates.records {j : Provision} {function : Nat} {x : Exchange}
    {m : Collection × String} (hx : x.Creates j function m) : x.Records m := by
  obtain ⟨_, request, reply, -, hx, hname⟩ := hx
  exact ⟨request, reply, hx, hname⟩

namespace Handles

/-- What is recorded has a name, and was created before. -/
def Known (h : Handles) (past : List Exchange) : Prop :=
  ∀ k name, h.get k = some name → name ≠ "" ∧ ∃ y ∈ past, y.Records (k, name)

variable {j : Provision} {h : Handles} {past : List Exchange}

theorem known_empty (past : List Exchange) : empty.Known past := by
  intro k name hg
  rw [get_empty] at hg
  cases hg

theorem Known.append (hk : h.Known past) (more : List Exchange) : h.Known (past ++ more) := by
  intro k name hg
  obtain ⟨hne, y, hy, hrec⟩ := hk k name hg
  exact ⟨hne, y, List.mem_append_left _ hy, hrec⟩

theorem Known.set (hk : h.Known past) {k : Collection} {name : Option String}
    (hnew : ∀ s, name = some s → s ≠ "" ∧ ∃ y ∈ past, y.Records (k, s)) :
    (h.set k name).Known past := by
  intro l s hg
  rw [get_set] at hg
  split at hg
  · rename_i hkl
    subst hkl
    exact hnew s hg
  · exact hk l s hg

theorem Known.clear (hk : h.Known past) (ks : List Collection) : (h.clear ks).Known past := by
  intro l s hg
  rw [get_clear] at hg
  split at hg
  · cases hg
  · exact hk l s hg

/-- One exchange that is drawn from what is known leaves it known. -/
theorem Known.update (hk : h.Known past) {x : Exchange} (hx : x.Drawn j h) :
    (x.update h).Known (past ++ [x]) := by
  have hold : h.Known (past ++ [x]) := hk.append [x]
  cases hx with
  | @create function k request hr outcome =>
    cases outcome with
    | answered reply =>
      apply hold.set
      rintro s ⟨⟩
      refine ⟨recordedName_ne_empty (j.suits_of_request hr).id, _, ?_, request, reply, rfl, rfl⟩
      exact List.mem_append_right _ (List.mem_singleton_self _)
    | failed | late => exact hold
  | @delete k name hg outcome =>
    cases outcome with
    | answered reply =>
      apply hold.set
      intro s hs
      cases hs
    | failed | late => exact hold

/-- At each moment of a run, what is recorded was created before. -/
theorem Known.replay {xs : List Exchange} (hk : h.Known past)
    (hx : h.Along (fun x g => x.Drawn j g) xs) : (h.replay xs).Known (past ++ xs) := by
  induction xs generalizing h past with
  | nil => rwa [List.append_nil]
  | cons x xs ih =>
    rw [replay_cons, List.append_cons past x xs]
    exact ih (hk.update hx.1) hx.2

end Handles

/-! ## What comes before a creation -/

/-- A list at one of its elements, when the list is put together from two. -/
theorem split_append {α : Type} {l l' xs ys : List α} {x : α} (hl : l ++ l' = xs ++ x :: ys) :
    (∃ zs, l = xs ++ x :: zs) ∨ ∃ zs, xs = l ++ zs ∧ l' = zs ++ x :: ys := by
  obtain ⟨zs, rfl, hl'⟩ | ⟨zs, rfl, hx⟩ := List.append_eq_append_iff.1 hl
  · exact .inr ⟨zs, rfl, hl'⟩
  · cases zs with
    | nil => exact .inr ⟨[], by simp, by simpa using hx.symm⟩
    | cons z zs =>
      cases hx
      exact .inl ⟨zs, rfl⟩

theorem split_related {α β : Type} {R : α → β → Prop} {xs ys : List α} {x : α} {bs : List β}
    (hr : List.Forall₂ R (xs ++ x :: ys) bs) :
    ∃ before b after, bs = before ++ b :: after ∧ List.Forall₂ R xs before ∧ R x b := by
  induction xs generalizing bs with
  | nil =>
    cases hr with
    | @cons _ b _ after hb _ => exact ⟨[], b, after, rfl, .nil, hb⟩
  | cons a xs ih =>
    cases hr with
    | @cons _ b _ rest hb hr =>
      obtain ⟨before, b', after, rfl, hbefore, hb'⟩ := ih hr
      exact ⟨b :: before, b', after, rfl, .cons hb hbefore, hb'⟩

namespace Provision

variable {σ : Type} (j : Provision) (c : Chain) (p : Plane σ)

variable {j} in
/-- The attempt that fails is the only one, if it is one at all. -/
theorem Fails.split {function : Nat} {k : Collection} {attempt : List Exchange} {e : AttachError}
    (hf : j.Fails function k attempt e) {xs ys : List Exchange} {x : Exchange}
    (hx : attempt = xs ++ x :: ys) : xs = [] ∧ ∃ h request outcome,
      j.request function h k = .ok request ∧ x = ⟨.create k, request, outcome⟩ := by
  cases hf with
  | unasked => simp at hx
  | refused hr =>
    obtain ⟨rfl, ⟨⟩⟩ | ⟨_, rfl, hnil⟩ := List.cons_eq_append_iff.1 hx
    · exact ⟨rfl, _, _, _, hr, rfl⟩
    · simp at hnil
  | late hr =>
    obtain ⟨rfl, ⟨⟩⟩ | ⟨_, rfl, hnil⟩ := List.cons_eq_append_iff.1 hx
    · exact ⟨rfl, _, _, _, hr, rfl⟩
    · simp at hnil

/-- Before a stage is asked for, the stages before it have been created, on the same function. -/
theorem connect_create {c : Chain} (hn : c.rollback.Nodup) {params : ConnectParams}
    {h h' : Handles} {w w' : σ} {result : Except AttachError Unit} {xs ys : List Exchange}
    {k : Collection} {request : CreateRequest k.Resource} {outcome : Outcome k.Resource}
    (hrun : j.connect c p.recorded params h (w, []) =
      (result, h', w', xs ++ ⟨.create k, request, outcome⟩ :: ys)) :
    ∃ function made rest g, params = .pciFunction function ∧
      List.Forall₂ (Exchange.Creates j function) xs made ∧
      c.stages = made.map Prod.fst ++ k :: rest ∧ j.request function g k = .ok request := by
  cases params with
  | tcpPort port =>
    have hnil : [] = xs ++ ⟨.create k, request, outcome⟩ :: ys := congrArg (·.2.2.2) hrun
    simp at hnil
  | pciFunction function =>
    obtain ⟨made, creates, w₁, hcr, hcase⟩ := j.connect_course p hn function h w []
    have hcreated (zs : List Exchange) (hx : creates = xs ++ ⟨.create k, request, outcome⟩ :: zs)
        (later : List Collection) (hks : c.stages = made.map Prod.fst ++ later) :
        ∃ made rest g, List.Forall₂ (Exchange.Creates j function) xs made ∧
          c.stages = made.map Prod.fst ++ k :: rest ∧ j.request function g k = .ok request := by
      subst hx
      obtain ⟨before, m, after, rfl, hbefore, g, request', reply, hr, hx, -⟩ := split_related hcr
      cases hx
      refine ⟨before, after.map Prod.fst ++ later, g, hbefore, ?_, hr⟩
      rw [hks, List.map_append, List.map_cons, List.append_assoc, List.cons_append]
    obtain ⟨hks, hall⟩ | ⟨l, rest, attempt, deletes, e, hks, hf, hdel, hall⟩ := hcase
    · have hlog : creates = xs ++ ⟨.create k, request, outcome⟩ :: ys :=
        congrArg (·.2.2.2) (hall.symm.trans hrun)
      obtain ⟨before, rest, g, hbefore⟩ :=
        hcreated ys hlog [] (by rw [hks, List.append_nil]; rfl)
      exact ⟨function, before, rest, g, rfl, hbefore⟩
    · have hlog : creates ++ attempt ++ deletes = xs ++ ⟨.create k, request, outcome⟩ :: ys :=
        congrArg (·.2.2.2) (hall.symm.trans hrun)
      obtain ⟨zs, hlog⟩ | ⟨zs, -, hdeletes⟩ := split_append hlog
      · obtain ⟨zs', hcreates⟩ | ⟨zs', rfl, hattempt⟩ := split_append hlog
        · obtain ⟨before, rest, g, hbefore⟩ := hcreated zs' hcreates (l :: rest) hks
          exact ⟨function, before, rest, g, rfl, hbefore⟩
        · obtain ⟨rfl, g, request', outcome', hr, hx⟩ := hf.split hattempt
          cases hx
          exact ⟨function, made, rest, g, rfl, by rwa [List.append_nil], hks, hr⟩
      · -- What is sent after a failure deletes, and creates nothing.
        have hmem : ⟨.create k, request, outcome⟩ ∈ deletes := by
          rw [hdeletes]
          exact List.mem_append_right _ List.mem_cons_self
        obtain ⟨-, rfl⟩ | ⟨-, hd⟩ := hdel
        · cases hmem
        · obtain ⟨m, -, outcome', hm⟩ := Exchange.exists_made hd hmem
          cases hm

/-- The subsystem that a controller or a namespace is put into was created before, in the same
call. -/
theorem subsystem_created {t : Transport} {c : Chain} (ht : t.chain? = some c) {function : Nat}
    {xs : List Exchange} {made : List (Collection × String)}
    (hmade : List.Forall₂ (Exchange.Creates j function) xs made) {k : Collection}
    {rest : List Collection} (hks : c.stages = made.map Prod.fst ++ k :: rest)
    (hk : k = .controller ∨ k = .namespace) (h : Handles) :
    ∃ name, (h.replay xs).subsystem = some name ∧ ∃ y ∈ xs, y.Records (.subsystem, name) := by
  have hfirst : c.stages.head? = some .subsystem := by
    cases t with
    | nvmfTcp => cases ht
    | nvme =>
      cases ht
      rfl
    | virtioBlk =>
      cases ht
      have hmem : k ∈ Chain.virtioBlk.stages := by rw [hks]; simp
      obtain rfl | rfl := hk <;> exact absurd hmem (by decide)
  have hnodup : (made.map Prod.fst).Nodup := by
    have hstages := (Transport.sound_of_chain? ht).nodup
    rw [hks] at hstages
    exact hstages.of_append_left
  cases hmade with
  | nil =>
    rw [hks] at hfirst
    cases hfirst
    obtain hk | hk := hk <;> cases hk
  | @cons x m xs made hx hmade =>
    rw [hks] at hfirst
    obtain ⟨l, name⟩ := m
    cases hfirst
    refine ⟨name, ?_, x, List.mem_cons_self, hx.records⟩
    rw [Handles.replay_creates (.cons hx hmade) h]
    exact (h.get_record hnodup .subsystem name).2 (.inl List.mem_cons_self)

end Provision

/-! ## Runs -/

/-- A request to create a resource on a function names what there is to name: the subsystem that is
recorded, which was created before in the same call, the function, and the storage target. -/
structure CreateRequest.WellFormed (j : Provision) (function : Nat) (h : Handles)
    (own : List Exchange) (k : Collection) (request : CreateRequest k.Resource) : Prop
    extends request.Addresses j function k where
  subsystem : k = .controller ∨ k = .namespace → ∃ name, request.subsystem? k = some ⟨name⟩ ∧
    h.subsystem = some name ∧ ∃ y ∈ own, y.Records (.subsystem, name)

/-- Each request of a call is well formed, after what was asked for before it. -/
structure Turn.WellFormed (j : Provision) (past : List Exchange) (t : Turn) : Prop where
  /-- What is recorded at any moment has a name. -/
  named : ∀ xs, xs <+: t.exchanges → ∀ k name, (t.before.replay xs).get k = some name → name ≠ ""
  kept : ∀ k name, t.after.get k = some name → name ≠ ""
  /-- What is deleted was created before, and may be missing. -/
  deletes : ∀ {xs ys k request outcome}, t.exchanges = xs ++ ⟨.delete k, request, outcome⟩ :: ys →
    request.allowMissing = true ∧ ∃ y ∈ past ++ xs, y.Records (k, request.name)
  creates : ∀ {xs ys k request outcome}, t.exchanges = xs ++ ⟨.create k, request, outcome⟩ :: ys →
    ∃ function, t.ask = .connect (.pciFunction function) ∧
      request.WellFormed j function (t.before.replay xs) xs k

namespace Provision

variable {σ : Type} (j : Provision) {c : Chain} (p : Plane σ)

/-- What a call asks for is drawn from what is recorded, and leaves only what was created. -/
theorem turn_drawn {a : Ask} {h : Handles} {past : List Exchange} (hk : h.Known past) {w w' : σ}
    {t : Turn} (hturn : j.turn c p a h w = (t, w')) :
    h.Along (fun x g => x.Drawn j g) t.exchanges ∧ t.after.Known (past ++ t.exchanges) := by
  obtain ⟨-, -, hrun⟩ := run_of_turn hturn
  cases a with
  | connect params =>
    obtain ⟨hafter, hdrawn⟩ := j.connect_drawn c p hrun
    rw [hafter]
    exact ⟨hdrawn, hk.replay hdrawn⟩
  | disconnect =>
    obtain ⟨hdrawn, hafter⟩ := j.disconnect_drawn c p hrun
    have hknown : (h.replay t.exchanges).Known (past ++ t.exchanges) := hk.replay hdrawn
    refine ⟨hdrawn, ?_⟩
    rw [hafter]
    split
    · exact hknown.clear c.swept
    · exact hknown

/-- Each call is well formed if what is recorded before it is known. -/
theorem turn_wellFormed {t : Transport} (ht : t.chain? = some c) {a : Ask} {h : Handles}
    (hw : h.Within c.stages) {past : List Exchange} (hk : h.Known past) {w w' : σ} {u : Turn}
    (hturn : j.turn c p a h w = (u, w')) : u.WellFormed j past := by
  obtain ⟨hdrawn, hafter⟩ := j.turn_drawn p hk hturn
  obtain ⟨hask, rfl, hrun⟩ := run_of_turn hturn
  constructor
  · rintro xs ⟨ys, hxs⟩ k name hg
    rw [← hxs, Handles.along_append] at hdrawn
    exact (hk.replay hdrawn.1 k name hg).1
  · intro k name hg
    exact (hafter k name hg).1
  · intro xs ys k request outcome hxs
    rw [hxs, Handles.along_append] at hdrawn
    obtain ⟨hbefore, hx, -⟩ := hdrawn
    cases hx with
    | @delete _ name hg _ => exact ⟨rfl, (hk.replay hbefore k name hg).2⟩
  · intro xs ys k request outcome hxs
    cases a with
    | disconnect =>
      obtain ⟨result, h', w₁, deletes, hrun', hd, -⟩ :=
        j.disconnect_deleting p (Transport.resumable_of_chain? ht) hw w []
      have hdeletes : u.exchanges = deletes := congrArg (·.2.2.2) (hrun.symm.trans hrun')
      have hmem : ⟨.create k, request, outcome⟩ ∈ deletes := by
        rw [← hdeletes, hxs]
        exact List.mem_append_right _ List.mem_cons_self
      obtain ⟨m, outcome', hm⟩ := hd.exists_deletes _ hmem
      cases hm
    | connect params =>
      rw [hxs, Handles.along_append] at hdrawn
      obtain ⟨-, hx, -⟩ := hdrawn
      rw [serve, hxs] at hrun
      obtain ⟨function, made, rest, g, rfl, hmade, hks, hr⟩ :=
        j.connect_create p (Transport.sound_of_chain? ht).rollback_nodup hrun
      refine ⟨function, hask, (j.suits_of_request hr).toAddresses, fun hk => ?_⟩
      obtain ⟨name, hname, hcreated⟩ := j.subsystem_created ht hmade hks hk u.before
      refine ⟨name, ?_, hname, hcreated⟩
      cases hx with
      | create hr' _ => rw [(j.suits_of_request hr').subsystem hk, hname, Option.map_some]

/-- Each call of a history is well formed after the calls before it. -/
theorem turns_wellFormed {t : Transport} (ht : t.chain? = some c) (asks : List Ask) {h : Handles}
    (hw : h.Within c.stages) {past : List Exchange} (hk : h.Known past) (w : σ)
    {before after : List Turn} {u : Turn} (hu : j.turns c p asks h w = before ++ u :: after) :
    u.WellFormed j (past ++ before.flatMap Turn.exchanges) := by
  induction asks generalizing h past w before with
  | nil => simp [turns] at hu
  | cons a asks ih =>
    cases hturn : j.turn c p a h w with
    | mk v w' =>
      rw [turns_cons, hturn] at hu
      cases before with
      | nil =>
        cases hu
        rw [List.flatMap_nil, List.append_nil]
        exact j.turn_wellFormed p ht hw hk hturn
      | cons b before =>
        obtain ⟨rfl, hrest⟩ := List.cons.inj hu
        obtain ⟨-, hk'⟩ := j.turn_drawn p hk hturn
        rw [List.flatMap_cons, ← List.append_assoc]
        exact ih (j.turn_within p hw hturn) hk' w' hrest

/-- However often a backend is called, and whatever is answered, each request is well formed. -/
theorem wellFormed_of_turns {t : Transport} (ht : t.chain? = some c) (asks : List Ask) (w : σ)
    {before after : List Turn} {u : Turn} (hu : j.turns c p asks .empty w = before ++ u :: after) :
    u.WellFormed j (before.flatMap Turn.exchanges) :=
  j.turns_wellFormed p ht asks (Handles.within_empty c.stages) (Handles.known_empty []) w hu

def nameless : Rehearsal := .start { plane := fun _ => { name := some "" } }

def ids : Handles where
  subsystem := some "spdkcsi-vol-1"
  controller := some "spdkcsi-64"
  remote := some "spckcsi-vol-1"
  «namespace» := some "spdcksi-vol-1"

/-- A chain is deleted under the ids that it was asked for. -/
theorem wellFormed_of_nameless :
    Transport.nvme.chain? = some .nvme ∧ ∃ u v,
      Registry.provision.turns .nvme Rehearsal.plane [.connect (.pciFunction 64), .disconnect]
        .empty nameless = [u] ++ v :: [] ∧
      v.WellFormed Registry.provision ([u].flatMap Turn.exchanges) ∧ v.before = ids := by
  obtain ⟨u, v, hturns, hids⟩ : ∃ u v, Registry.provision.turns .nvme Rehearsal.plane
      [.connect (.pciFunction 64), .disconnect] .empty nameless = [u] ++ v :: [] ∧
      v.before = ids := ⟨_, _, rfl, rfl⟩
  exact ⟨rfl, u, v, hturns, wellFormed_of_turns _ _ (t := .nvme) rfl _ _ hturns, hids⟩

end Provision
end OffloadVolume
