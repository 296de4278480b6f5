import OffloadVolume.Proofs.Registry
import OffloadVolume.Proofs.Resumption
import OffloadVolume.Rehearsal.Plane

/-!
# Names that are kept until they are deleted

A backend is called again and again, also to try a creation again that failed and could not be rolled
back. Main statement: `Provision.remember_iff_not_replaced`, a name that was recorded is forgotten only
when its resource is deleted, unless a creation is answered under another name than the one that is
still recorded.
-/

namespace OffloadVolume

/-! ## Moments -/

namespace Exchange

/-- No name is forgotten but the one whose deletion is answered. -/
def Retains (x : Exchange) (h : Handles) : Prop :=
  ∀ k name, h.get k = some name →
    (x.update h).get k = some name ∨ x.answered = true ∧ x.Deletes (k, name)

/-- A creation is answered under another name than the one recorded. -/
def Replaces : Exchange → Handles → Prop
  | ⟨.create k, request, .answered reply⟩, h =>
    ∃ name ∈ h.get k, recordedName (k.nameOf reply) request.id ≠ name
  | ⟨.delete _, _, _⟩, _ | ⟨_, _, .failed _⟩, _ | ⟨_, _, .late⟩, _ => False

instance (x : Exchange) (h : Handles) : Decidable (x.Replaces h) :=
  match x with
  | ⟨.create k, request, .answered reply⟩ =>
    inferInstanceAs (Decidable (∃ name ∈ h.get k, recordedName (k.nameOf reply) request.id ≠ name))
  | ⟨.create _, _, .failed _⟩ | ⟨.create _, _, .late⟩ | ⟨.delete _, _, _⟩ =>
    inferInstanceAs (Decidable False)

/-- A name is lost without a deletion only when a creation is answered under another one. -/
theorem retains_iff_not_replaces {x : Exchange} {h : Handles} (hf : x.Follows h) :
    x.Retains h ↔ ¬x.Replaces h := by
  obtain ⟨c, request, outcome⟩ := x
  cases outcome with
  | failed status => cases c <;> exact iff_of_true (fun k name hg => .inl hg) id
  | late => cases c <;> exact iff_of_true (fun k name hg => .inl hg) id
  | answered reply =>
    cases c with
    | create l =>
      constructor
      · rintro hr ⟨name, hg, hne⟩
        obtain hsame | ⟨-, outcome, hx⟩ := hr l name hg
        · rw [update, Handles.get_set_self] at hsame
          exact hne (Option.some.inj hsame)
        · cases hx
      · intro hn k name hg
        refine .inl ?_
        rw [update, Handles.get_set]
        split
        · rename_i hlk
          subst hlk
          by_contra hne
          exact hn ⟨name, hg, fun he => hne (congrArg some he)⟩
        · exact hg
    | delete l =>
      refine iff_of_true (fun k name hg => ?_) id
      by_cases hlk : l = k
      · subst hlk
        obtain ⟨name', hg', hx⟩ := hf.deletes l rfl
        rw [hg] at hg'
        cases hg'
        exact .inr ⟨rfl, hx⟩
      · exact .inl (by rw [update, h.get_set_of_ne hlk, hg])

end Exchange

/-! ## One call -/

/-- The resource of a name, which was created in the past, goes with a deletion that is answered. -/
def Turn.Takes (past : List Exchange) (t : Turn) (k : Collection) (name : String) : Prop :=
  ∃ y ∈ past, ∃ r, y.Makes r ∧ r.entry = (k, name) ∧
    ∃ x ∈ t.exchanges, x.answered = true ∧ ∃ m, x.Deletes m ∧ r.GoesWith m.1 m.2

/-- A call forgets a name only when its resource goes: during the call when the deletion of the name
itself is answered, and afterwards when the resource went with another one. -/
structure Turn.Remembers (past : List Exchange) (t : Turn) : Prop where
  during : t.before.Along Exchange.Retains t.exchanges
  afterwards : ∀ k name, (t.before.replay t.exchanges).get k = some name →
    t.after.get k = some name ∨ t.Takes past k name

theorem Turn.remembers_iff {t : Turn} (hf : t.before.Along Exchange.Follows t.exchanges)
    {past : List Exchange} (ha : ∀ k name, (t.before.replay t.exchanges).get k = some name →
      t.after.get k = some name ∨ t.Takes past k name) :
    t.Remembers past ↔ t.before.Along (fun x h => ¬x.Replaces h) t.exchanges := by
  constructor
  · intro hr
    refine (hf.and hr.during).imp fun x _ g hx => ?_
    exact (Exchange.retains_iff_not_replaces hx.1).1 hx.2
  · intro hn
    refine ⟨(hf.and hn).imp fun x _ g hx => ?_, ha⟩
    exact (Exchange.retains_iff_not_replaces hx.1).2 hx.2

/-- A namespace is recorded only while the chain is attached, and beside the subsystem that it was
put into in the past. -/
def Handles.Rooted (h : Handles) (past : List Exchange) (attached : Bool) : Prop :=
  ∀ name, h.get .namespace = some name → attached = true ∧ ∃ y ∈ past, ∃ r s, y.Makes r ∧
    r.entry = (.namespace, name) ∧ r.parent = some s ∧ h.get .subsystem = some s

theorem Handles.Rooted.of_none {h : Handles} (hn : h.get .namespace = none) (past : List Exchange)
    (attached : Bool) : h.Rooted past attached := by
  intro name hg
  rw [hn] at hg
  cases hg

def Turn.succeeds (t : Turn) : Bool :=
  match t.result with
  | .ok _ => true
  | .error _ => false

def Turn.leaves (attached : Bool) (t : Turn) : Bool :=
  match t.ask with
  | .connect _ => t.succeeds
  | .disconnect => attached && !t.succeeds

/-- A chain that is in place is not created again before it was taken away. -/
def Paired : Bool → List Turn → Prop
  | _, [] => True
  | attached, t :: turns =>
    (attached = true → t.ask = .disconnect) ∧ Paired (t.leaves attached) turns

/-- No call forgets a name, but with its resource. -/
def Remember : List Exchange → List Turn → Prop
  | _, [] => True
  | past, t :: turns => t.Remembers past ∧ Remember (past ++ t.exchanges) turns

namespace Provision

variable {σ : Type} (j : Provision) {c : Chain} (p : Plane σ)

/-- The namespace of a chain is put into the subsystem that is recorded in the end. -/
theorem parent_of_created (hc : c.Resumable) {function : Nat} {h : Handles}
    {made : List (Collection × String)} {creates : List Exchange}
    (hkeys : made.map Prod.fst = c.stages)
    (hcr : List.Forall₂ (Exchange.Creates j function) creates made)
    (hfollows : h.Along Exchange.Follows creates) {name : String}
    (hmem : (.namespace, name) ∈ made) :
    ∃ y ∈ creates, ∃ r s, y.Makes r ∧ r.entry = (.namespace, name) ∧ r.parent = some s ∧
      (h.record made).get .subsystem = some s := by
  -- It is put into what is recorded when it is asked for, and no subsystem is recorded from then on.
  obtain ⟨before, x, rest, mb, ma, rfl, rfl, hb, hx⟩ := Exchange.exists_split hcr hmem
  obtain ⟨r, hmakes, hentry⟩ := hx.makes
  have hparent := (Handles.along_append.1 hfollows).2.1.parent r hmakes (congrArg Prod.fst hentry)
  rw [Handles.replay_creates hb] at hparent
  have hfirst := (hc.subsystem (hkeys ▸ List.mem_map_of_mem hmem)).1
  have hlater : .subsystem ∉ ((.namespace, name) :: ma).map Prod.fst := by
    cases mb with
    | nil => simp [Chain.stages, hfirst] at hkeys
    | cons m mb =>
      rw [List.cons_append, List.map_cons, Chain.stages] at hkeys
      obtain ⟨-, hkeys⟩ := List.cons.inj hkeys
      intro hm
      apply hc.subsystem_first
      rw [← hkeys, List.map_append]
      exact List.mem_append_right _ hm
  have hsub : (h.record (mb ++ (.namespace, name) :: ma)).get .subsystem =
      (h.record mb).get .subsystem := by
    rw [h.record_append, Handles.get_record_of_not_mem _ hlater]
  have hkey : .subsystem ∈ (mb ++ (.namespace, name) :: ma).map Prod.fst := by
    rw [hkeys, Chain.stages, hfirst]
    exact List.mem_cons_self
  obtain ⟨m, hm, hms⟩ := List.mem_map.1 hkey
  have hs : (h.record (mb ++ (.namespace, name) :: ma)).get .subsystem = some m.2 :=
    (h.get_record (hkeys ▸ hc.nodup) _ _).2 (.inl (hms ▸ hm))
  have hroot : r.parent = some m.2 := by
    rw [hparent, ← hs, hsub]
    rfl
  exact ⟨x, by simp, r, m.2, hmakes, hentry, hroot, hs⟩

/-- A creation that succeeds puts the namespace into the subsystem that it records. -/
theorem rooted_connect (hc : c.Resumable) {params : ConnectParams} {h : Handles}
    (hroot : h.get .namespace = none) (past : List Exchange) {w w' : σ} {t : Turn}
    (hturn : j.turn c p (.connect params) h w = (t, w')) :
    t.after.Rooted (past ++ t.exchanges) t.succeeds := by
  obtain ⟨-, -, hrun⟩ := run_of_turn hturn
  rw [serve] at hrun
  cases params with
  | tcpPort port =>
    have hafter : t.after = h := (congrArg (·.2.1) hrun).symm
    exact .of_none (hafter ▸ hroot) _ _
  | pciFunction function =>
    obtain ⟨made, creates, w₁, hcr, hcase⟩ :=
      j.connect_course p hc.rollback_nodup function h w []
    obtain ⟨hks, hmade⟩ | ⟨k, rest, attempt, deletes, e, hks, -, -, hmade⟩ := hcase
    · intro name hg
      have hfollows := (j.connect_follows c p hrun).2
      rw [hmade, List.nil_append] at hrun
      have hresult : t.result = .ok () := (congrArg (·.1) hrun).symm
      have hafter : t.after = h.record made := (congrArg (·.2.1) hrun).symm
      have hlog : t.exchanges = creates := (congrArg (·.2.2.2) hrun).symm
      have hkeys : made.map Prod.fst = c.stages := hks
      rw [hafter, h.get_record (hkeys ▸ hc.nodup), hroot] at hg
      have hmem : (.namespace, name) ∈ made := by
        obtain hmem | ⟨-, hold⟩ := hg
        · exact hmem
        · cases hold
      rw [hlog] at hfollows ⊢
      obtain ⟨y, hy, hparent⟩ := j.parent_of_created hc hkeys hcr hfollows hmem
      rw [← hafter] at hparent
      exact ⟨by rw [Turn.succeeds, hresult], y, List.mem_append_right _ hy, hparent⟩
    · rw [hmade] at hrun
      have hafter : t.after = (h.record made).clear (Exchange.settled deletes) :=
        (congrArg (·.2.1) hrun).symm
      have hns : .namespace ∉ made.map Prod.fst := by
        intro hm
        apply hc.namespace_last
        rw [Chain.stages, hks, List.dropLast_append_cons]
        exact List.mem_append_left _ hm
      apply Handles.Rooted.of_none
      rw [hafter, Handles.get_clear, h.get_record_of_not_mem hns, hroot, ite_self]

/-- To delete a chain leaves its namespace with the subsystem, or not at all. -/
theorem rooted_disconnect (hc : c.Resumable) {h : Handles} (hw : h.Within c.stages)
    {past : List Exchange} {attached : Bool} (hroot : h.Rooted past attached) {w w' : σ} {t : Turn}
    (hturn : j.turn c p .disconnect h w = (t, w')) :
    t.after.Rooted (past ++ t.exchanges) (attached && !t.succeeds) := by
  obtain ⟨t', w₁, hturn', -, hd, hcase⟩ := j.turn_disconnect p hc hw w
  cases hturn'.symm.trans hturn
  obtain ⟨-, hafter⟩ | ⟨⟨e, he⟩, hafter⟩ := hcase
  · exact .of_none (by rw [hafter, Handles.get_empty]) _ _
  · intro name hg
    have hsub := hd.not_mem_settled hc.teardown_nodup he hc.subsystem_last
    rw [hafter, Handles.get_clear] at hg
    split at hg
    · cases hg
    · obtain ⟨hatt, y, hy, r, s, hmakes, hentry, hparent, hgs⟩ := hroot name hg
      refine ⟨by simp [hatt, Turn.succeeds, he], y, List.mem_append_left _ hy, r, s, hmakes,
        hentry, hparent, ?_⟩
      rw [hafter, Handles.get_clear, if_neg hsub, hgs]

/-- What is swept in the end goes with the subsystem that was deleted before. -/
theorem afterwards_disconnect (hc : c.Resumable) {h : Handles} (hw : h.Within c.stages)
    {past : List Exchange} {attached : Bool} (hroot : h.Rooted past attached) {w w' : σ} {t : Turn}
    (hturn : j.turn c p .disconnect h w = (t, w')) {k : Collection} {name : String}
    (hg : (h.replay t.exchanges).get k = some name) :
    t.after.get k = some name ∨ t.Takes past k name := by
  obtain ⟨t', w₁, hturn', -, hd, -⟩ := j.turn_disconnect p hc hw w
  cases hturn'.symm.trans hturn
  obtain ⟨-, -, hrun⟩ := run_of_turn hturn
  obtain ⟨-, hafter⟩ := j.disconnect_follows c p hrun
  by_cases hsweep : t.result = .ok () ∧ k ∈ c.swept
  · obtain ⟨hok, hk⟩ := hsweep
    obtain rfl := hc.swept k hk
    have hbefore : h.get .namespace = some name := by
      rw [Handles.replay_deletes hd.exists_deletes, Handles.get_clear] at hg
      split at hg
      · cases hg
      · exact hg
    obtain ⟨-, y, hy, r, s, hmakes, hentry, hparent, hs⟩ := hroot name hbefore
    have hsub : .subsystem ∈ c.teardown := (hc.subsystem (hw _ _ hbefore)).2.2
    have hgone := hd.mem_settled_of_ok hok (.subsystem, s) (Handles.mem_recordedIn.2 ⟨hsub, hs⟩)
    obtain ⟨x, hx, hdel, ha⟩ := (hd.mem_settled_iff hs).1 hgone
    have hgoes : r.GoesWith .subsystem s := .inr ⟨rfl, congrArg Prod.fst hentry, hparent⟩
    exact .inr ⟨y, hy, r, hmakes, hentry, x, hx, ha, (.subsystem, s), hdel, hgoes⟩
  · refine .inl ?_
    rw [hafter]
    split
    · rename_i hok
      have hk : k ∉ c.swept := fun hk => hsweep ⟨hok, hk⟩
      rw [Handles.get_clear, if_neg hk, hg]
    · exact hg

/-- What one call does to the names that are recorded. -/
theorem turn_remembers (hc : c.Resumable) {a : Ask} {h : Handles} (hw : h.Within c.stages)
    {past : List Exchange} {attached : Bool} (hroot : h.Rooted past attached)
    (hp : attached = true → a = .disconnect) {w w' : σ} {t : Turn}
    (hturn : j.turn c p a h w = (t, w')) :
    (t.Remembers past ↔ t.before.Along (fun x g => ¬x.Replaces g) t.exchanges) ∧
      t.after.Within c.stages ∧ t.after.Rooted (past ++ t.exchanges) (t.leaves attached) := by
  have hwithin := j.turn_within p hw hturn
  obtain ⟨hask, hbefore, hrun⟩ := run_of_turn hturn
  subst hbefore
  cases a with
  | connect params =>
    rw [serve] at hrun
    obtain ⟨hafter, hfollows⟩ := j.connect_follows c p hrun
    have hnone : t.before.get .namespace = none := by
      cases hg : t.before.get .namespace with
      | none => rfl
      | some name => cases hp (hroot name hg).1
    refine ⟨t.remembers_iff hfollows fun k name hg => .inl ?_, hwithin, ?_⟩
    · rw [hafter, hg]
    · rw [Turn.leaves, hask]
      exact j.rooted_connect p hc hnone past hturn
  | disconnect =>
    rw [serve] at hrun
    obtain ⟨hfollows, -⟩ := j.disconnect_follows c p hrun
    refine ⟨t.remembers_iff hfollows fun k name hg => ?_, hwithin, ?_⟩
    · exact j.afterwards_disconnect p hc hw hroot hturn hg
    · rw [Turn.leaves, hask]
      exact j.rooted_disconnect p hc hw hroot hturn

/-- No call of a history forgets a name exactly if no creation in it replaces one. -/
theorem remember_iff (hc : c.Resumable) (asks : List Ask) {h : Handles} (hw : h.Within c.stages)
    {past : List Exchange} {attached : Bool} (hroot : h.Rooted past attached) (w : σ)
    (hp : Paired attached (j.turns c p asks h w)) :
    Remember past (j.turns c p asks h w) ↔
      ∀ t ∈ j.turns c p asks h w, t.before.Along (fun x g => ¬x.Replaces g) t.exchanges := by
  induction asks generalizing h past attached w with
  | nil => simp [turns, Remember]
  | cons a asks ih =>
    cases hturn : j.turn c p a h w with
    | mk t w' =>
      rw [turns_cons, hturn] at hp ⊢
      obtain ⟨hask, -, -⟩ := run_of_turn hturn
      have hpair : attached = true → a = .disconnect := fun hatt => hask ▸ hp.1 hatt
      obtain ⟨hone, hw', hroot'⟩ := j.turn_remembers p hc hw hroot hpair hturn
      have hrest := ih hw' hroot' w' hp.2
      rw [Remember, hone, hrest, List.forall_mem_cons]

/-- A chain is called again and again, at first with nothing recorded, and is not created again while
it is in place. Then no name is forgotten, but with its resource, exactly if no creation is answered
under another name than the one that is still recorded. -/
theorem remember_iff_not_replaced {t : Transport} (ht : t.chain? = some c) (asks : List Ask) (w : σ)
    (hp : Paired false (j.turns c p asks .empty w)) :
    Remember [] (j.turns c p asks .empty w) ↔
      ∀ t ∈ j.turns c p asks .empty w, t.before.Along (fun x h => ¬x.Replaces h) t.exchanges := by
  have hroot : Handles.empty.Rooted [] false := .of_none (Handles.get_empty _) _ _
  exact j.remember_iff p (Transport.resumable_of_chain? ht) asks (Handles.within_empty _) hroot w hp

/-- A control plane that neither creates namespaces nor deletes controllers, so that the controller
of a creation that failed stays. -/
def stuck : Rehearsal := .start {
  plane := CallScript.refusing [.create .namespace, .delete .controller] }

/-- The creation is tried again on the same function, whose controller is answered under its name
again. -/
theorem remember_of_same_function :
    Transport.nvme.chain? = some .nvme ∧ ∃ turns,
      Registry.provision.turns .nvme Rehearsal.plane
        [.connect (.pciFunction 64), .connect (.pciFunction 64)] .empty stuck = turns ∧
      Paired false turns ∧ Remember [] turns ∧
      turns.map (·.after.controller) =
        [some "nvmeControllers/spdkcsi-64", some "nvmeControllers/spdkcsi-64"] := by
  have hp : Paired false (Registry.provision.turns .nvme Rehearsal.plane
      [.connect (.pciFunction 64), .connect (.pciFunction 64)] .empty stuck) :=
    ⟨by decide, by decide, trivial⟩
  refine ⟨rfl, _, rfl, hp, ?_, by decide⟩
  exact (remember_iff_not_replaced _ _ (t := .nvme) rfl _ _ hp).2 (by decide)

/-- The creation is tried again on another function, and the controller that was left on the first
one is not known any more. -/
theorem forgotten_on_other_function :
    ∃ turns, Registry.provision.turns .nvme Rehearsal.plane
        [.connect (.pciFunction 64), .connect (.pciFunction 65)] .empty stuck = turns ∧
      Paired false turns ∧ ¬Remember [] turns ∧
      turns.map (·.after.controller) =
        [some "nvmeControllers/spdkcsi-64", some "nvmeControllers/spdkcsi-65"] ∧
      ∀ t ∈ turns, ∀ x ∈ t.exchanges, x.call = .delete .controller → x.answered = false := by
  refine ⟨_, rfl, ⟨by decide, by decide, trivial⟩, ?_, by decide, by decide⟩
  intro hr
  -- The controller of the second call is answered right after its subsystem.
  have hkept := hr.2.1.during.2.1 .controller "nvmeControllers/spdkcsi-64" (by decide)
  obtain hsame | ⟨-, outcome, hx⟩ := hkept
  · exact absurd hsame (by decide)
  · cases hx

end Provision
end OffloadVolume
