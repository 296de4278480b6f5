import Mathlib.Data.List.Induction
import OffloadVolume.Proofs.Attachment
import OffloadVolume.Proofs.Compensation

/-!
# What an initiator remembers

An initiator is called again and again, and remembers the path of its device and the address of its
function. Main statement: `Initiator.tracked_of_run`, it remembers what the latest attachment has
answered and has allocated, unless it has been detached since.
-/

namespace OffloadVolume

/-! ## Values that stand -/

section

variable {α γ : Type} {sets : α → γ → Prop} {clears : α → Prop}

/-- The value that was set last, and not cleared since. -/
def Standing (sets : α → γ → Prop) (clears : α → Prop) (xs : List α) (v : γ) : Prop :=
  ∃ before x later, xs = before ++ x :: later ∧ sets x v ∧
    ∀ y ∈ later, ¬clears y ∧ ∀ u, ¬sets y u

theorem not_standing_nil (v : γ) : ¬Standing sets clears [] v := by
  rintro ⟨before, x, later, hxs, -⟩
  simp at hxs

/-- One more entry sets a value, or leaves the one that stands unless it clears it. -/
theorem standing_concat {xs : List α} {x : α} {v : γ} :
    Standing sets clears (xs ++ [x]) v ↔
      sets x v ∨ Standing sets clears xs v ∧ ¬clears x ∧ ∀ u, ¬sets x u := by
  constructor
  · rintro ⟨before, y, later, hxs, hy, hlater⟩
    cases later using List.reverseRecOn with
    | nil =>
      obtain ⟨-, ⟨⟩⟩ := List.append_inj' hxs rfl
      exact .inl hy
    | append_singleton later z =>
      rw [← List.cons_append, ← List.append_assoc] at hxs
      obtain ⟨rfl, ⟨⟩⟩ := List.append_inj' hxs rfl
      refine .inr ⟨⟨before, y, later, rfl, hy, fun u hu => ?_⟩, hlater x (by simp)⟩
      exact hlater u (List.mem_append_left _ hu)
  · rintro (hx | ⟨⟨before, y, later, rfl, hy, hlater⟩, hx⟩)
    · exact ⟨xs, x, [], rfl, hx, by simp⟩
    · refine ⟨before, y, later ++ [x], by simp, hy, fun u hu => ?_⟩
      obtain hu | hu := List.mem_append.1 hu
      · exact hlater u hu
      · rwa [List.mem_singleton.1 hu]

inductive Moves (sets : α → γ → Prop) (clears : α → Prop) (x : α) : Option γ → Option γ → Prop where
  | set {old : Option γ} {v : γ} (hv : sets x v) (hu : ∀ u, sets x u → u = v) :
    Moves sets clears x old (some v)
  | cleared {old : Option γ} (hc : clears x) (hn : ∀ u, ¬sets x u) : Moves sets clears x old none
  | kept {old : Option γ} (hc : ¬clears x) (hn : ∀ u, ¬sets x u) : Moves sets clears x old old

/-- A state that moves with each entry holds the value that stands. -/
theorem Moves.standing {x : α} {old new : Option γ} (hm : Moves sets clears x old new) {xs : List α}
    (hold : ∀ v, old = some v ↔ Standing sets clears xs v) (v : γ) :
    new = some v ↔ Standing sets clears (xs ++ [x]) v := by
  rw [standing_concat]
  cases hm with
  | @set u hu huniq =>
    constructor
    · rintro ⟨⟩
      exact .inl hu
    · rintro (hv | ⟨-, -, hn⟩)
      · rw [huniq v hv]
      · exact absurd hu (hn u)
  | cleared hc hn => simp [hc, hn]
  | kept hc hn => simp [hc, hn, hold]

end

/-! ## Single calls -/

def Allocates (log : List Report) (slot : PciSlot) : Prop :=
  ∃ bridges, (⟨.allocate bridges, .ok slot⟩ : Report) ∈ log

def Report.Unfound : Report → Prop
  | ⟨.existing _, answer⟩ | ⟨.lookup _, answer⟩ => ∀ path, answer ≠ .ok (some path)
  | ⟨.disconnectLocally _, answer⟩ => answer ≠ .ok ()
  | _ => False

@[simp] theorem Report.unfound_disconnectLocally (nqn : String) (answer : Except AttachError Unit) :
    Unfound ⟨.disconnectLocally nqn, answer⟩ ↔ answer ≠ .ok () := Iff.rfl

@[simp] theorem Report.not_unfound_backendDisconnect (answer : Except AttachError Unit) :
    ¬Unfound ⟨.backendDisconnect, answer⟩ := id

@[simp] theorem Report.not_unfound_waitGone (path : String) (timeout : Duration)
    (answer : Except AttachError Unit) : ¬Unfound ⟨.waitGone path timeout, answer⟩ := id

namespace Initiator

variable {β σ : Type} {i : Initiator} {b : Backend β σ} {h : Host σ} {s s' : State β} {w w' : σ}
  {log : List Report}

/-- What an attachment does to the address that is remembered. -/
inductive Taking (i : Initiator) (bdf : Option String) :
    List Report → Except AttachError String → Option String → Prop where
  | failed {log : List Report} (e : AttachError) : Taking i bdf log (.error e) bdf
  | present {log : List Report} (hnone : ∀ slot, ¬Allocates log slot) (path : String) :
    Taking i bdf log (.ok path) bdf
  | held {log : List Report} {slot : PciSlot} (hpci : i.target.transport.isPci = true)
    (hslot : ∀ other, Allocates log other ↔ other = slot) (path : String) :
    Taking i bdf log (.ok path) (some slot.bdf)

inductive Dropping (i : Initiator) (bdf : Option String) :
    List Report → Except AttachError Unit → Option String → Prop where
  | unfound {log : List Report} (hlog : ∃ x ∈ log, x.Unfound)
    (hhost : ∀ x ∈ log, x.step.isHost = true) (e : AttachError) :
    Dropping i bdf log (.error e) bdf
  | failed {log : List Report} (hfound : ∀ x ∈ log, ¬x.Unfound)
    (hasked : ∃ x ∈ log, x.step.isHost = false) (e : AttachError) : Dropping i bdf log (.error e) bdf
  | done {log : List Report} (hfound : ∀ x ∈ log, ¬x.Unfound)
    (hasked : ∃ x ∈ log, x.step.isHost = false) :
    Dropping i bdf log (.ok ()) (if i.target.transport.isPci then none else bdf)

theorem connectTcp_taking {result : Except AttachError String}
    (hrun : i.connectTcp b.recorded h.recorded s (w, []) = (result, s', w', log)) :
    Taking i s.bdf log result s'.bdf ∧ s'.devicePath = s.devicePath := by
  simp only [connectTcp, Backend.recorded, Host.recorded, Host.noted] at hrun
  generalize b.connect (.tcpPort i.tcp.port) s.backend w = out at hrun
  obtain ⟨e | _, kept, w₁⟩ := out
  · cases hrun
    exact ⟨.failed e, rfl⟩
  · simp only [] at hrun
    generalize h.connector.connect i.nvmfTarget w₁ = out at hrun
    obtain ⟨e | path, w₂⟩ := out
    · cases hrun
      exact ⟨.failed e, rfl⟩
    · cases hrun
      exact ⟨.present (by simp [Allocates]) path, rfl⟩

/-- The address is remembered when the device has come on the function that was handed out. -/
theorem connectOn_taking {result : Except AttachError String} {slot : PciSlot}
    {before : List Report} (hpci : i.target.transport.isPci = true)
    (hslot : ∀ other, Allocates before other ↔ other = slot)
    (hrun : i.connectOn b.recorded h.recorded slot s (w, before) = (result, s', w', log)) :
    Taking i s.bdf log result s'.bdf ∧ s'.devicePath = s.devicePath := by
  simp only [connectOn, Backend.recorded, Host.recorded, Host.noted] at hrun
  generalize b.connect (.pciFunction slot.function) s.backend w = out at hrun
  obtain ⟨e | _, kept, w₁⟩ := out
  · cases hrun
    exact ⟨.failed e, rfl⟩
  · simp only [] at hrun
    generalize h.watcher.waitBdf slot.bdf i.awaitedModel i.deviceTimeout w₁ = out at hrun
    obtain ⟨e | path, w₂⟩ := out
    · cases hrun
      exact ⟨.failed e, rfl⟩
    · cases hrun
      exact ⟨.held hpci (by simpa [Allocates] using hslot) path, rfl⟩

theorem connectPci_taking {result : Except AttachError String}
    (hpci : i.target.transport.isPci = true)
    (hrun : i.connectPci b.recorded h.recorded s (w, []) = (result, s', w', log)) :
    Taking i s.bdf log result s'.bdf ∧ s'.devicePath = s.devicePath := by
  have hnote := h.recorded_existing i.model w []
  generalize h.watcher.existing i.model w = out at hnote
  obtain ⟨look, w₁⟩ := out
  by_cases hseen : ∃ path, look = .ok (some path)
  · obtain ⟨path, rfl⟩ := hseen
    rw [connectPci_of_seen hnote] at hrun
    cases hrun
    exact ⟨.present (by simp [Allocates]) path, rfl⟩
  · rw [connectPci_of_unseen hnote fun path he => hseen ⟨path, he⟩, Host.recorded_allocate] at hrun
    generalize h.allocator.allocate i.bridges w₁ = out at hrun
    obtain ⟨e | slot, w₂⟩ := out
    · cases hrun
      exact ⟨.failed e, rfl⟩
    · apply connectOn_taking hpci _ hrun
      intro other
      simp [Allocates, eq_comm]

/-- What an attachment leaves remembered. -/
theorem connect_taking {result : Except AttachError String}
    (hrun : i.connect b.recorded h.recorded s (w, []) = (result, s', w', log)) :
    Taking i s.bdf log result s'.bdf ∧ (∀ path, result = .ok path → s'.devicePath = some path) ∧
      ∀ e, result = .error e → s'.devicePath = s.devicePath := by
  simp only [connect] at hrun
  generalize hreached : (if i.target.transport.isPci then i.connectPci b.recorded h.recorded s (w, [])
    else i.connectTcp b.recorded h.recorded s (w, [])) = reached at hrun
  obtain ⟨result₁, s₁, w₁, log₁⟩ := reached
  obtain ⟨htake, hpath⟩ : Taking i s.bdf log₁ result₁ s₁.bdf ∧ s₁.devicePath = s.devicePath := by
    split at hreached
    · rename_i hpci
      exact connectPci_taking hpci hreached
    · exact connectTcp_taking hreached
  cases result₁ with
  | error e =>
    cases hrun
    exact ⟨htake, by simp, fun _ _ => hpath⟩
  | ok path =>
    cases hrun
    exact ⟨htake, by simp, by simp⟩

theorem disconnectTcp_dropping {result : Except AttachError Unit}
    (htcp : i.target.transport.isPci = false)
    (hrun : i.disconnectTcp b.recorded h.recorded s (w, []) = (result, s', w', log)) :
    Dropping i s.bdf log result s'.bdf ∧ s'.devicePath = s.devicePath := by
  simp only [disconnectTcp, Backend.recorded, Host.recorded, Host.noted] at hrun
  generalize h.connector.disconnect i.nvmfTarget w = out at hrun
  obtain ⟨e | _, w₁⟩ := out
  · cases hrun
    exact ⟨.unfound (by simp) (by simp [Step.isHost]) e, rfl⟩
  · simp only [] at hrun
    generalize b.disconnect s.backend w₁ = out at hrun
    obtain ⟨e | _, kept, w₂⟩ := out
    · cases hrun
      exact ⟨.failed (by simp) (by simp [Step.isHost]) e, rfl⟩
    · cases hrun
      have hdone : Dropping i s.bdf [⟨.disconnectLocally i.nvmfTarget.nqn, .ok ()⟩,
          ⟨.backendDisconnect, .ok ()⟩] (.ok ()) _ :=
        .done (by simp) (by simp [Step.isHost])
      rw [htcp] at hdone
      exact ⟨hdone, rfl⟩

/-- To find the device, one thing is asked of the host. -/
theorem findDevice_look (i : Initiator) (h : Host σ) (s : State β) (w : σ) :
    ∃ look w₁ x, i.findDevice h.recorded s (w, []) = (look, w₁, [x]) ∧ x.step.isHost = true ∧
      (x.Unfound ↔ ∀ path, look ≠ .ok (some path)) := by
  unfold findDevice
  split
  · exact ⟨_, _, _, rfl, rfl, Iff.rfl⟩
  · exact ⟨_, _, _, rfl, rfl, Iff.rfl⟩

/-- The address is forgotten when the detachment has come to its end. -/
theorem disconnectPci_dropping {result : Except AttachError Unit}
    (hpci : i.target.transport.isPci = true)
    (hrun : i.disconnectPci b.recorded h.recorded s (w, []) = (result, s', w', log)) :
    Dropping i s.bdf log result s'.bdf ∧ s'.devicePath = s.devicePath := by
  obtain ⟨look, w₁, x, hfind, hx, hlook⟩ := findDevice_look i h s w
  simp only [disconnectPci, hfind] at hrun
  obtain e | _ | path := look
  · cases hrun
    exact ⟨.unfound ⟨x, List.mem_singleton_self x, hlook.2 (by simp)⟩ (by simpa using hx) e, rfl⟩
  · cases hrun
    exact ⟨.unfound ⟨x, List.mem_singleton_self x, hlook.2 (by simp)⟩ (by simpa using hx) _, rfl⟩
  · have hfound : ¬x.Unfound := fun hn => hlook.1 hn path rfl
    simp only [Backend.recorded] at hrun
    generalize b.disconnect s.backend w₁ = out at hrun
    obtain ⟨e | _, kept, w₂⟩ := out
    · cases hrun
      exact ⟨.failed (by simp [hfound]) (by simp [Step.isHost]) e, rfl⟩
    · simp only [Host.recorded, Host.noted] at hrun
      generalize h.watcher.waitGone path i.deviceTimeout w₂ = out at hrun
      obtain ⟨e | _, w₃⟩ := out
      · cases hrun
        exact ⟨.failed (by simp [hfound]) (by simp [Step.isHost]) e, rfl⟩
      · cases hrun
        have hdone : Dropping i s.bdf [x, ⟨.backendDisconnect, .ok ()⟩,
            ⟨.waitGone path i.deviceTimeout, .ok ()⟩] (.ok ()) _ :=
          .done (by simp [hfound]) (by simp [Step.isHost])
        rw [hpci] at hdone
        exact ⟨hdone, rfl⟩

/-- What a detachment leaves remembered. -/
theorem disconnect_dropping {result : Except AttachError Unit}
    (hrun : i.disconnect b.recorded h.recorded s (w, []) = (result, s', w', log)) :
    Dropping i s.bdf log result s'.bdf ∧ (result = .ok () → s'.devicePath = none) ∧
      ∀ e, result = .error e → s'.devicePath = s.devicePath := by
  simp only [disconnect] at hrun
  generalize hreached : (if i.target.transport.isPci
    then i.disconnectPci b.recorded h.recorded s (w, [])
    else i.disconnectTcp b.recorded h.recorded s (w, [])) = reached at hrun
  obtain ⟨result₁, s₁, w₁, log₁⟩ := reached
  obtain ⟨hdrop, hpath⟩ : Dropping i s.bdf log₁ result₁ s₁.bdf ∧ s₁.devicePath = s.devicePath := by
    split at hreached
    · rename_i hpci
      exact disconnectPci_dropping hpci hreached
    · rename_i htcp
      exact disconnectTcp_dropping (by simpa using htcp) hreached
  cases result₁ with
  | error e =>
    cases hrun
    exact ⟨hdrop, by simp, fun _ _ => hpath⟩
  | ok _ =>
    cases hrun
    exact ⟨hdrop, fun _ => rfl, by simp⟩

/-! ## Journals -/

inductive Deed where
  | attach (result : Except AttachError String)
  | detach (result : Except AttachError Unit)

/-- A call of an initiator: what came of it, what is remembered before and after it, and what was
asked of the host and of the backend. -/
structure Entry (β : Type) where
  deed : Deed
  before : State β
  after : State β
  log : List Report

namespace Entry

variable (x : Entry β)

def Attaches (path : String) : Prop := x.deed = .attach (.ok path)

/-- The call attached the volume on a slot that was handed out, at an address. -/
def Occupies (bdf : String) : Prop :=
  (∃ path, x.Attaches path) ∧ ∃ slot, Allocates x.log slot ∧ slot.bdf = bdf

def Detaches : Prop := x.deed = .detach (.ok ())

def Fails : Prop := ∃ e, x.deed = .attach (.error e) ∨ x.deed = .detach (.error e)

end Entry

section

variable (i : Initiator) (b : Backend β σ) (h : Host σ)

def note : State β × σ → Event σ → List (Entry β)
  | (s, w), .attach => [⟨.attach (i.connect b h s w).1, s, (i.connect b h s w).2.1,
      (i.connect b.recorded h.recorded s (w, [])).2.2.2⟩]
  | (s, w), .detach => [⟨.detach (i.disconnect b h s w).1, s, (i.disconnect b h s w).2.1,
      (i.disconnect b.recorded h.recorded s (w, [])).2.2.2⟩]
  | _, .change _ => []

def journal : List (Event σ) → State β × σ → List (Entry β)
  | [], _ => []
  | e :: events, m => i.note b h m e ++ journal events (i.step b h m e)

end

/-- What an initiator remembers after some calls. -/
structure Tracked (i : Initiator) (calls : List (Entry β)) (s : State β) : Prop where
  /-- The path is the one that the latest attachment has answered, unless it was detached since. -/
  devicePath : ∀ path,
    s.devicePath = some path ↔ Standing Entry.Attaches Entry.Detaches calls path
  /-- The address is the one of the slot that was handed out last for an attachment, unless it was
  detached since. -/
  bdf : ∀ bdf, s.bdf = some bdf ↔ Standing Entry.Occupies Entry.Detaches calls bdf
  bdf_nvmfTcp : i.target.transport = .nvmfTcp → s.bdf = none
  /-- A call that fails changes nothing of this. -/
  failed : ∀ x ∈ calls, x.Fails →
    x.after.bdf = x.before.bdf ∧ x.after.devicePath = x.before.devicePath
  /-- A detachment asks the backend for nothing exactly if it does not find the device, or does not
  close the local connection. -/
  unasked_iff : ∀ x ∈ calls, ∀ result, x.deed = .detach result →
    ((∀ y ∈ x.log, y.step.isHost = true) ↔ ∃ y ∈ x.log, y.Unfound)

section

variable {bdf bdf' : Option String}

theorem Taking.moves {result : Except AttachError String} (ht : Taking i bdf log result bdf') :
    Moves Entry.Occupies Entry.Detaches (⟨.attach result, s, s', log⟩ : Entry β) bdf bdf' := by
  have hstays : ¬(⟨.attach result, s, s', log⟩ : Entry β).Detaches := nofun
  cases ht with
  | failed e =>
    apply Moves.kept hstays
    rintro u ⟨⟨path, ⟨⟩⟩, -⟩
  | present hnone path =>
    apply Moves.kept hstays
    rintro u ⟨-, slot, hslot, -⟩
    exact hnone slot hslot
  | @held slot hpci hslot path =>
    apply Moves.set
    · exact ⟨⟨path, rfl⟩, slot, (hslot slot).2 rfl, rfl⟩
    · rintro u ⟨-, other, hother, rfl⟩
      rw [(hslot other).1 hother]

theorem Taking.eq_of_nvmfTcp {result : Except AttachError String}
    (ht : Taking i bdf log result bdf') (htcp : i.target.transport = .nvmfTcp) : bdf' = bdf := by
  cases ht with
  | failed | present => rfl
  | held hpci =>
    rw [htcp] at hpci
    cases hpci

theorem Dropping.moves {result : Except AttachError Unit} (hd : Dropping i bdf log result bdf')
    (htcp : i.target.transport = .nvmfTcp → bdf = none) :
    Moves Entry.Occupies Entry.Detaches (⟨.detach result, s, s', log⟩ : Entry β) bdf bdf' := by
  have hfree : ∀ u, ¬(⟨.detach result, s, s', log⟩ : Entry β).Occupies u := by
    rintro u ⟨⟨path, ⟨⟩⟩, -⟩
  cases hd with
  | unfound | failed => exact .kept nofun hfree
  | done =>
    have hnone : (if i.target.transport.isPci then none else bdf) = none := by
      cases htr : i.target.transport with
      | nvmfTcp => exact htcp htr
      | nvme | virtioBlk => rfl
    rw [hnone]
    exact .cleared rfl hfree

theorem Dropping.isHost_iff {result : Except AttachError Unit}
    (hd : Dropping i bdf log result bdf') :
    (∀ x ∈ log, x.step.isHost = true) ↔ ∃ x ∈ log, x.Unfound := by
  have hasked (hfound : ∀ x ∈ log, ¬x.Unfound) (hsent : ∃ x ∈ log, x.step.isHost = false) :
      (∀ x ∈ log, x.step.isHost = true) ↔ ∃ x ∈ log, x.Unfound := by
    obtain ⟨x, hx, hback⟩ := hsent
    constructor
    · intro hall
      cases hback.symm.trans (hall x hx)
    · rintro ⟨y, hy, hun⟩
      exact absurd hun (hfound y hy)
  cases hd with
  | unfound hlog hhost e => exact iff_of_true hhost hlog
  | failed hfound hsent e => exact hasked hfound hsent
  | done hfound hsent => exact hasked hfound hsent

end

namespace Tracked

variable {calls : List (Entry β)}

theorem start (i : Initiator) (kept : β) : Tracked i [] { backend := kept } where
  devicePath path := by simp [not_standing_nil]
  bdf bdf := by simp [not_standing_nil]
  bdf_nvmfTcp _ := rfl
  failed := by simp
  unasked_iff := by simp

theorem attach (ht : Tracked i calls s) {result : Except AttachError String}
    (htake : Taking i s.bdf log result s'.bdf)
    (hok : ∀ path, result = .ok path → s'.devicePath = some path)
    (herror : ∀ e, result = .error e → s'.devicePath = s.devicePath) :
    Tracked i (calls ++ [⟨.attach result, s, s', log⟩]) s' := by
  constructor
  · apply Moves.standing _ ht.devicePath
    cases result with
    | error e =>
      rw [herror e rfl]
      exact .kept nofun nofun
    | ok path =>
      rw [hok path rfl]
      apply Moves.set
      · rfl
      · rintro u ⟨⟩
        rfl
  · exact htake.moves.standing ht.bdf
  · intro htcp
    rw [htake.eq_of_nvmfTcp htcp, ht.bdf_nvmfTcp htcp]
  · apply List.forall_mem_append.2 ⟨ht.failed, List.forall_mem_singleton.2 _⟩
    rintro ⟨e, hdeed | hdeed⟩
    · have hpath := herror e (Deed.attach.inj hdeed)
      cases hdeed
      generalize s'.bdf = bdf at htake
      cases htake
      exact ⟨rfl, hpath⟩
    · cases hdeed
  · apply List.forall_mem_append.2 ⟨ht.unasked_iff, List.forall_mem_singleton.2 _⟩
    rintro answer ⟨⟩

theorem detach (ht : Tracked i calls s) {result : Except AttachError Unit}
    (hdrop : Dropping i s.bdf log result s'.bdf) (hok : result = .ok () → s'.devicePath = none)
    (herror : ∀ e, result = .error e → s'.devicePath = s.devicePath) :
    Tracked i (calls ++ [⟨.detach result, s, s', log⟩]) s' := by
  constructor
  · apply Moves.standing _ ht.devicePath
    cases result with
    | error e =>
      rw [herror e rfl]
      exact .kept nofun nofun
    | ok _ =>
      rw [hok rfl]
      exact .cleared rfl nofun
  · exact (hdrop.moves ht.bdf_nvmfTcp).standing ht.bdf
  · intro htcp
    have hnone := ht.bdf_nvmfTcp htcp
    generalize s'.bdf = bdf at hdrop
    cases hdrop with
    | unfound | failed => exact hnone
    | done => rw [hnone, ite_self]
  · apply List.forall_mem_append.2 ⟨ht.failed, List.forall_mem_singleton.2 _⟩
    rintro ⟨e, hdeed | hdeed⟩
    · cases hdeed
    · have hpath := herror e (Deed.detach.inj hdeed)
      cases hdeed
      generalize s'.bdf = bdf at hdrop
      cases hdrop <;> exact ⟨rfl, hpath⟩
  · apply List.forall_mem_append.2 ⟨ht.unasked_iff, List.forall_mem_singleton.2 _⟩
    intro answer _
    exact hdrop.isHost_iff

end Tracked

/-- One event keeps track. -/
theorem tracked_step (i : Initiator) (b : Backend β σ) (h : Host σ) {calls : List (Entry β)}
    {m : State β × σ} (ht : Tracked i calls m.1) (e : Event σ) :
    Tracked i (calls ++ i.note b h m e) (i.step b h m e).1 := by
  obtain ⟨s, w⟩ := m
  cases e with
  | attach =>
    obtain ⟨result, s', w', log, hplain, hrun⟩ := i.connect_recorded b h s w
    obtain ⟨htake, hok, herror⟩ := connect_taking hrun
    simp only [note, step, hplain, hrun]
    exact ht.attach htake hok herror
  | detach =>
    obtain ⟨result, s', w', log, hplain, hrun⟩ := i.disconnect_recorded b h s w
    obtain ⟨hdrop, hok, herror⟩ := disconnect_dropping hrun
    simp only [note, step, hplain, hrun]
    exact ht.detach hdrop hok herror
  | change g => rwa [note, List.append_nil]

/-- The calls of a run, put behind the calls before it, tell what is remembered in the end. -/
theorem tracked_journal (i : Initiator) (b : Backend β σ) (h : Host σ) (events : List (Event σ))
    {calls : List (Entry β)} {m : State β × σ} (ht : Tracked i calls m.1) :
    Tracked i (calls ++ i.journal b h events m) (i.run b h events m).1 := by
  induction events generalizing calls m with
  | nil => rwa [journal, List.append_nil]
  | cons e events ih =>
    rw [journal, ← List.append_assoc, run_cons]
    exact ih (i.tracked_step b h ht e)

/-- Whatever the backend and the host answer, and however often it is called, an initiator remembers
just what has come of its calls. -/
theorem tracked_of_run (i : Initiator) (b : Backend β σ) (h : Host σ) (kept : β)
    (events : List (Event σ)) (w : σ) :
    Tracked i (i.journal b h events ({ backend := kept }, w))
      (i.run b h events ({ backend := kept }, w)).1 := by
  have hstart : Tracked i [] (({ backend := kept }, w) : State β × σ).1 := Tracked.start i kept
  exact i.tracked_journal b h events hstart

end Initiator
end OffloadVolume
