import OffloadVolume.Proofs.RoundTrip
import OffloadVolume.Proofs.Turns
import OffloadVolume.Proofs.Validation

/-!
# Backends over a connection

A backend can reach its control plane over a connection, on which requests and answers are bytes. Main
statement: `Backend.builtIn_agrees`, the control plane then sees the same calls with the same requests,
and the results are the same but for the texts of statuses and for a failure with the code of success.
-/

namespace OffloadVolume

open Wire

/-! ## What comes over a connection -/

/-- The code that arrives of a failure. One with the code of success arrives as an answer without a
message. -/
def StatusCode.carried (c : StatusCode) : StatusCode := if c = .ok then .internal else c

def Status.carried (s : Status) : Status :=
  if s.code = .ok then .missing else { s with delivered := true }

theorem Status.code_carried (s : Status) : s.carried.code = s.code.carried := by
  unfold carried StatusCode.carried
  split <;> rfl

def Outcome.carried {α : Type} : Outcome α → Outcome α
  | answered reply => .answered reply
  | failed status => .failed status.carried
  | late => .late

/-- Each call has a path of its own. -/
theorem Call.ofPath?_path (c : Call) : ofPath? c.path = some c := by
  cases c with
  | create k => cases k <;> decide
  | delete k => cases k <;> decide

theorem Call.requestCodec_readsBack (c : Call) : c.requestCodec.ReadsBack Codec.depthLimit := by
  cases c with
  | create k => exact ((MessageType.createRequest k).codec_lawful 97).readsBack
  | delete k => exact (MessageType.deleteRequest.codec_lawful 97).readsBack

theorem Call.replyCodec_readsBack (c : Call) : c.replyCodec.ReadsBack Codec.depthLimit := by
  cases c with
  | create k => exact ((MessageType.resource k).codec_lawful 97).readsBack
  | delete k => exact (MessageType.acknowledgement.codec_lawful 97).readsBack

def Exchange.Fits (x : Exchange) : Prop :=
  (x.call.requestCodec.encode x.request).length < Varint.limit ∧
    match x.outcome with
    | .answered reply => (x.call.replyCodec.encode reply).length < Varint.limit
    | .failed _ | .late => True

instance (x : Exchange) : Decidable x.Fits :=
  match x with
  | ⟨_, _, .answered _⟩ | ⟨_, _, .failed _⟩ | ⟨_, _, .late⟩ => inferInstanceAs (Decidable (_ ∧ _))

/-- A call whose messages fit is made over a connection as it is on the spot. -/
theorem Plane.submit_overWire {σ : Type} (p : Plane σ) (timeout : Duration) (c : Call)
    (request : c.Request) (w : σ)
    (hx : (Exchange.mk c request (p.submit timeout c request w).1).Fits) :
    p.overWire.submit timeout c request w =
      ((p.submit timeout c request w).1.carried, (p.submit timeout c request w).2) := by
  obtain ⟨hrequest, hreply⟩ := hx
  have hread : c.requestCodec.decode? (c.requestCodec.encode request) = some request :=
    c.requestCodec_readsBack request hrequest
  simp only [overWire, serve, Remote.plane, c.ofPath?_path, hread]
  cases ho : (p.submit timeout c request w).1 with
  | answered reply =>
    rw [ho] at hreply
    have hback : c.replyCodec.decode? (c.replyCodec.encode reply) = some reply :=
      c.replyCodec_readsBack reply hreply
    simp only [Outcome.map, Outcome.decode, hback, Outcome.carried]
  | failed status =>
    simp only [Outcome.map, Outcome.decode, Outcome.carried, Status.carried]
    split <;> rfl
  | late => rfl

/-! ## What a chain does over a connection -/

/-- Two results differ in nothing but in the texts of statuses, when codes become others. -/
inductive SameBut (f : StatusCode → StatusCode) :
    Except AttachError Unit → Except AttachError Unit → Prop where
  | ok : SameBut f (.ok ()) (.ok ())
  | error {e : AttachError} (he : e.rpcCode? = none) : SameBut f (.error e) (.error e)
  | rpc (op resource : String) {s s' : Status} (hs : s'.code = f s.code) :
    SameBut f (.error (.rpc op resource s)) (.error (.rpc op resource s'))

/-- The results of two runs differ in nothing but in statuses, and all else is the same. -/
def Alike {κ σ : Type} (out out' : Except AttachError Unit × κ × σ) : Prop :=
  SameBut StatusCode.carried out.1 out'.1 ∧ out'.2 = out.2

/-- What is alike to a run that ends well does the same. -/
theorem Alike.of_ok {κ σ : Type} {u : Unit} {h : κ} {w : σ} {out' : Except AttachError Unit × κ × σ}
    (ha : Alike (.ok u, h, w) out') : out' = (.ok (), h, w) := by
  obtain ⟨result', rest'⟩ := out'
  obtain ⟨hsame, hrest⟩ := ha
  cases hsame
  cases hrest
  rfl

/-- What is alike to a run that fails fails as well, and does the same. -/
theorem Alike.of_error {κ σ : Type} {e : AttachError} {h : κ} {w : σ}
    {out' : Except AttachError Unit × κ × σ} (ha : Alike (.error e, h, w) out') :
    ∃ e', SameBut StatusCode.carried (.error e) (.error e') ∧ out' = (.error e', h, w) := by
  obtain ⟨result', rest'⟩ := out'
  obtain ⟨hsame, hrest⟩ := ha
  cases hrest
  cases hsame with
  | error he => exact ⟨_, .error he, rfl⟩
  | rpc op resource hs => exact ⟨_, .rpc op resource hs, rfl⟩

/-- One control plane is seen through the other as over a connection, as long as something holds of
the world; once it does not, it never will again. -/
structure Plane.Carries {σ : Type} (q p : Plane σ) (P : σ → Prop) : Prop where
  lost : p.Preserves fun w => ¬P w
  submit : ∀ timeout c r w, P (p.submit timeout c r w).2 →
    q.submit timeout c r w = ((p.submit timeout c r w).1.carried, (p.submit timeout c r w).2)

/-- As long as requests and answers can be counted with 64 bits, a connection delivers them as they
are. -/
theorem Plane.overWire_carries {σ : Type} (p : Plane σ) :
    p.recorded.overWire.Carries p.recorded fun m => ∀ x ∈ m.2, x.Fits where
  lost := by
    constructor
    · intro timeout k request m hm hall
      apply hm
      intro x hx
      exact hall x (List.mem_append_left _ hx)
    · intro timeout k name m hm hall
      apply hm
      intro x hx
      exact hall x (List.mem_append_left _ hx)
  submit timeout c r m hm := by
    apply submit_overWire
    apply hm
    exact List.mem_append_right _ (List.mem_singleton_self _)

/-- A request that is not made has no status. -/
theorem Provision.rpcCode?_of_request {j : Provision} {function : Nat} {h : Handles}
    {k : Collection} {e : AttachError} (hr : j.request function h k = .error e) :
    e.rpcCode? = none := by
  have he := j.isConfig_refusal function k e ((j.request_eq_error_iff function h k e).1 hr)
  cases e with
  | rpc op resource status => cases he
  | _ => rfl

namespace Plane.Carries

variable {σ : Type} {q p : Plane σ} {P : σ → Prop} (hq : q.Carries p P) (j : Provision)

include hq

theorem create (function : Nat) (k : Collection) (h : Handles) (w : σ)
    (hw : P (j.create p function k h w).2.2) :
    Alike (j.create p function k h w) (j.create q function k h w) := by
  unfold Provision.create at hw ⊢
  cases hr : j.request function h k with
  | error e => exact ⟨.error (Provision.rpcCode?_of_request hr), rfl⟩
  | ok request =>
    simp only [hr, Plane.perform] at hw ⊢
    have hsubmit := hq.submit j.timeout (.create k) request w
    generalize p.submit j.timeout (.create k) request w = out at hw hsubmit
    obtain ⟨outcome, w'⟩ := out
    cases outcome with
    | answered reply =>
      rw [hsubmit hw]
      exact ⟨.ok, rfl⟩
    | failed status =>
      rw [hsubmit hw]
      exact ⟨.rpc _ _ status.code_carried, rfl⟩
    | late =>
      rw [hsubmit hw]
      exact ⟨.rpc _ _ rfl, rfl⟩

theorem delete (k : Collection) (h : Handles) (w : σ) (hw : P (j.delete p k h w).2.2) :
    Alike (j.delete p k h w) (j.delete q k h w) := by
  unfold Provision.delete at hw ⊢
  cases hg : h.get k with
  | none => exact ⟨.ok, rfl⟩
  | some name =>
    simp only [hg, Plane.perform] at hw ⊢
    have hsubmit := hq.submit j.timeout (.delete k) { name, allowMissing := true } w
    generalize p.submit j.timeout (.delete k) { name, allowMissing := true } w = out at hw hsubmit
    obtain ⟨outcome, w'⟩ := out
    cases outcome with
    | answered reply =>
      rw [hsubmit hw]
      exact ⟨.ok, rfl⟩
    | failed status =>
      rw [hsubmit hw]
      exact ⟨.rpc _ _ status.code_carried, rfl⟩
    | late =>
      rw [hsubmit hw]
      exact ⟨.rpc _ _ rfl, rfl⟩

/-- What holds after creations held before them. -/
theorem of_createAll {function : Nat} {ks : List Collection} {h : Handles} {w : σ}
    (hw : P (j.createAll p function ks h w).2.2) : P w := by
  by_contra hn
  have hall : ∀ k ∈ ks, k ∈ Chain.stages ⟨.subsystem, ks, [], [], []⟩ :=
    fun k hk => List.mem_cons_of_mem _ hk
  exact (hq.lost.maintains j _).createAll function hall h w hn hw

theorem of_deleteAll {ks : List Collection} {h : Handles} {w : σ}
    (hw : P (j.deleteAll p ks h w).2.2) : P w := by
  by_contra hn
  exact (hq.lost.maintains j .nvme).deleteAll ks h w hn hw

theorem of_deleteEach {ks : List Collection} {h : Handles} {w : σ}
    (hw : P (j.deleteEach p ks h w).2) : P w := by
  by_contra hn
  exact (hq.lost.maintains j .nvme).deleteEach ks h w hn hw

theorem createAll (function : Nat) (ks : List Collection) (h : Handles) (w : σ)
    (hw : P (j.createAll p function ks h w).2.2) :
    Alike (j.createAll p function ks h w) (j.createAll q function ks h w) := by
  induction ks generalizing h w with
  | nil => exact ⟨.ok, rfl⟩
  | cons k ks ih =>
    have hcreate := hq.create j function k h w
    rw [Provision.createAll] at hw
    rw [Provision.createAll, Provision.createAll]
    generalize j.create p function k h w = out at hw hcreate
    generalize j.create q function k h w = out' at hcreate
    obtain ⟨_ | _, h₁, w₁⟩ := out
    · obtain ⟨e', hsame, rfl⟩ := (hcreate hw).of_error
      exact ⟨hsame, rfl⟩
    · obtain rfl := (hcreate (hq.of_createAll j hw)).of_ok
      exact ih h₁ w₁ hw

theorem deleteAll (ks : List Collection) (h : Handles) (w : σ)
    (hw : P (j.deleteAll p ks h w).2.2) :
    Alike (j.deleteAll p ks h w) (j.deleteAll q ks h w) := by
  induction ks generalizing h w with
  | nil => exact ⟨.ok, rfl⟩
  | cons k ks ih =>
    have hdelete := hq.delete j k h w
    rw [Provision.deleteAll] at hw
    rw [Provision.deleteAll, Provision.deleteAll]
    generalize j.delete p k h w = out at hw hdelete
    generalize j.delete q k h w = out' at hdelete
    obtain ⟨_ | _, h₁, w₁⟩ := out
    · obtain ⟨e', hsame, rfl⟩ := (hdelete hw).of_error
      exact ⟨hsame, rfl⟩
    · obtain rfl := (hdelete (hq.of_deleteAll j hw)).of_ok
      exact ih h₁ w₁ hw

/-- A rollback goes on after each failure, and so in the same way. -/
theorem deleteEach (ks : List Collection) (h : Handles) (w : σ)
    (hw : P (j.deleteEach p ks h w).2) : j.deleteEach q ks h w = j.deleteEach p ks h w := by
  induction ks generalizing h w with
  | nil => rfl
  | cons k ks ih =>
    have hrest : (j.delete q k h w).2 = (j.delete p k h w).2 :=
      (hq.delete j k h w (hq.of_deleteEach j hw)).2
    calc j.deleteEach q (k :: ks) h w
        = j.deleteEach q ks (j.delete q k h w).2.1 (j.delete q k h w).2.2 := rfl
      _ = j.deleteEach q ks (j.delete p k h w).2.1 (j.delete p k h w).2.2 := by rw [hrest]
      _ = j.deleteEach p (k :: ks) h w := ih _ _ hw

/-- A chain is created over a connection as on the spot. -/
theorem connect (c : Chain) (params : ConnectParams) (h : Handles) (w : σ)
    (hw : P (j.connect c p params h w).2.2) :
    Alike (j.connect c p params h w) (j.connect c q params h w) := by
  cases params with
  | tcpPort port => exact ⟨.error rfl, rfl⟩
  | pciFunction function =>
    have hfirst := hq.create j function c.first h w
    simp only [Provision.connect, ConnectParams.requireFunction] at hw ⊢
    generalize j.create p function c.first h w = out at hw hfirst
    generalize j.create q function c.first h w = out' at hfirst
    obtain ⟨_ | _, h₁, w₁⟩ := out
    · obtain ⟨e', hsame, rfl⟩ := (hfirst hw).of_error
      exact ⟨hsame, rfl⟩
    · simp only [] at hw
      have hlater := hq.createAll j function c.later h₁ w₁
      have hdone : P (j.createAll p function c.later h₁ w₁).2.2 := by
        generalize j.createAll p function c.later h₁ w₁ = out at hw
        obtain ⟨_ | _, h₂, w₂⟩ := out
        · exact hq.of_deleteEach j hw
        · exact hw
      have hreached : P w₁ := hq.of_createAll j hdone
      obtain rfl := (hfirst hreached).of_ok
      simp only []
      generalize j.createAll p function c.later h₁ w₁ = out at hw hlater
      generalize j.createAll q function c.later h₁ w₁ = out' at hlater
      obtain ⟨_ | _, h₂, w₂⟩ := out
      · obtain ⟨e', hsame, rfl⟩ := (hlater (hq.of_deleteEach j hw)).of_error
        exact ⟨hsame, hq.deleteEach j c.rollback h₂ w₂ hw⟩
      · obtain rfl := (hlater hw).of_ok
        exact ⟨.ok, rfl⟩

/-- A chain is deleted over a connection as on the spot. -/
theorem disconnect (c : Chain) (h : Handles) (w : σ) (hw : P (j.disconnect c p h w).2.2) :
    Alike (j.disconnect c p h w) (j.disconnect c q h w) := by
  have hall := hq.deleteAll j c.teardown h w
  unfold Provision.disconnect at hw ⊢
  generalize j.deleteAll p c.teardown h w = out at hw hall
  generalize j.deleteAll q c.teardown h w = out' at hall
  obtain ⟨_ | _, h₁, w₁⟩ := out
  · obtain ⟨e', hsame, rfl⟩ := (hall hw).of_error
    exact ⟨hsame, rfl⟩
  · obtain rfl := (hall hw).of_ok
    exact ⟨.ok, rfl⟩

end Plane.Carries

/-! ## Calls one after another -/

namespace Backend

variable {β σ : Type}

def answer (b : Backend β σ) : Ask → β → σ → Except AttachError Unit × β × σ
  | .connect params => b.connect params
  | .disconnect => b.disconnect

def run (b : Backend β σ) : List Ask → β → σ → List (Except AttachError Unit) × β × σ
  | [], kept, w => ([], kept, w)
  | a :: asks, kept, w =>
    match b.answer a kept w with
    | (result, kept, w) =>
      match run b asks kept w with
      | (results, kept, w) => (result :: results, kept, w)

end Backend

namespace Plane.Carries

variable {σ : Type} {q p : Plane σ} {P : σ → Prop} (hq : q.Carries p P) (j : Provision) (c : Chain)

include hq

theorem of_answer {a : Ask} {h : Handles} {w : σ}
    (hw : P ((c.backend j p).answer a h w).2.2) : P w := by
  by_contra hn
  cases a with
  | connect params => exact (hq.lost.maintains j c).connect params h w hn hw
  | disconnect => exact (hq.lost.maintains j c).disconnect h w hn hw

/-- What holds of the world after a run held before it. -/
theorem of_run {asks : List Ask} {h : Handles} {w : σ}
    (hw : P ((c.backend j p).run asks h w).2.2) : P w := by
  induction asks generalizing h w with
  | nil => exact hw
  | cons a asks ih => exact hq.of_answer j c (ih hw)

theorem answer (a : Ask) (h : Handles) (w : σ) (hw : P ((c.backend j p).answer a h w).2.2) :
    Alike ((c.backend j p).answer a h w) ((c.backend j q).answer a h w) := by
  cases a with
  | connect params => exact hq.connect j c params h w hw
  | disconnect => exact hq.disconnect j c h w hw

/-- A backend is called over a connection as on the spot. -/
theorem run (asks : List Ask) (h : Handles) (w : σ)
    (hw : P ((c.backend j p).run asks h w).2.2) :
    List.Forall₂ (SameBut StatusCode.carried) ((c.backend j p).run asks h w).1
      ((c.backend j q).run asks h w).1 ∧
    ((c.backend j q).run asks h w).2 = ((c.backend j p).run asks h w).2 := by
  induction asks generalizing h w with
  | nil => exact ⟨.nil, rfl⟩
  | cons a asks ih =>
    have hone : Alike ((c.backend j p).answer a h w) ((c.backend j q).answer a h w) :=
      hq.answer j c a h w (hq.of_run j c hw)
    obtain ⟨hsame, hrest⟩ := hone
    obtain ⟨hall, hend⟩ := ih _ _ hw
    simp only [Backend.run, hrest]
    exact ⟨.cons hsame hall, hend⟩

end Plane.Carries

namespace Backend

/-- The built-in backend of a transport over a connection to a control plane does what it does on
the spot, as long as the bytes of every message can be counted with 64 bits: the control plane sees
the same calls with the same requests in the same order, and does the same, the same names are
recorded, and the results are the same but for the texts of statuses and for a failure with the code
of success, which is internal then. -/
theorem builtIn_agrees {σ : Type} {t : Transport} {c : Chain} (ht : t.chain? = some c)
    (j : Provision) (p : Plane σ) (asks : List Ask) (w : σ)
    (hfits : ∀ x ∈ ((c.backend j p.recorded).run asks .empty (w, [])).2.2.2, x.Fits) :
    ∃ b, builtIn t j p.recorded.serve = .ok b ∧
      List.Forall₂ (SameBut StatusCode.carried)
        ((c.backend j p.recorded).run asks .empty (w, [])).1 (b.run asks .empty (w, [])).1 ∧
      (b.run asks .empty (w, [])).2 = ((c.backend j p.recorded).run asks .empty (w, [])).2 := by
  refine ⟨c.backend j p.recorded.overWire, ?_, ?_⟩
  · unfold builtIn
    rw [ht]
    rfl
  · exact p.overWire_carries.run j c asks .empty (w, []) hfits

end Backend

namespace Rehearsal

def spot : Backend Handles (Rehearsal × List Exchange) :=
  Chain.nvme.backend Registry.provision plane.recorded

def wired : Backend Handles (Rehearsal × List Exchange) :=
  Chain.nvme.backend Registry.provision plane.recorded.overWire

/-- A rehearsal in which the links to storage targets cannot be created. -/
def linkless : Rehearsal := start { plane := CallScript.refusing [.create .remote] }

/-- A chain is created in vain and deleted over a connection as on the spot. -/
theorem agrees_linkless :
    (∀ x ∈ (spot.run [.connect (.pciFunction 64), .disconnect] .empty (linkless, [])).2.2.2,
      x.Fits) ∧
    ∃ b, Backend.builtIn .nvme Registry.provision plane.recorded.serve = .ok b ∧
      List.Forall₂ (SameBut StatusCode.carried)
        (spot.run [.connect (.pciFunction 64), .disconnect] .empty (linkless, [])).1
        (b.run [.connect (.pciFunction 64), .disconnect] .empty (linkless, [])).1 ∧
      (b.run [.connect (.pciFunction 64), .disconnect] .empty (linkless, [])).2 =
        (spot.run [.connect (.pciFunction 64), .disconnect] .empty (linkless, [])).2 := by
  have hfits : ∀ x ∈ (spot.run [.connect (.pciFunction 64), .disconnect] .empty
      (linkless, [])).2.2.2, x.Fits := by
    decide +kernel
  exact ⟨hfits, Backend.builtIn_agrees (t := .nvme) rfl Registry.provision plane _ _ hfits⟩

/-- A rehearsal in which subsystems cannot be created, although the code says that they were. -/
def contrary : Rehearsal :=
  start { plane := fun c =>
    if c = .create .subsystem then { failure := some { code := .ok, message := "fine" } } else {} }

/-- A failure with the code of success comes over a connection with another code. -/
theorem not_agrees_contrary :
    (∀ x ∈ (spot.run [.connect (.pciFunction 64)] .empty (contrary, [])).2.2.2, x.Fits) ∧
    Backend.builtIn .nvme Registry.provision plane.recorded.serve = .ok wired ∧
    ¬List.Forall₂ (SameBut id)
      (spot.run [.connect (.pciFunction 64)] .empty (contrary, [])).1
      (wired.run [.connect (.pciFunction 64)] .empty (contrary, [])).1 := by
  have hfits : ∀ x ∈ (spot.run [.connect (.pciFunction 64)] .empty (contrary, [])).2.2.2,
      x.Fits := by
    decide +kernel
  have hspot : (spot.run [.connect (.pciFunction 64)] .empty (contrary, [])).1 =
      [.error (.rpc "CreateNvmeSubsystem" "spdkcsi-vol-1" ⟨.ok, "fine", false⟩)] := rfl
  have hwired : List.Forall₂ (SameBut StatusCode.carried)
      (spot.run [.connect (.pciFunction 64)] .empty (contrary, [])).1
      (wired.run [.connect (.pciFunction 64)] .empty (contrary, [])).1 :=
    (plane.overWire_carries.run Registry.provision .nvme _ .empty (contrary, []) hfits).1
  refine ⟨hfits, rfl, ?_⟩
  generalize (wired.run [.connect (.pciFunction 64)] .empty (contrary, [])).1 = results at hwired ⊢
  rw [hspot] at hwired ⊢
  intro hsame
  obtain _ | ⟨hcarried, -⟩ := hwired
  obtain _ | ⟨hid, -⟩ := hsame
  cases hcarried with
  | error he => cases he
  | rpc op resource hcode =>
    cases hid with
    | error he => cases he
    | rpc op resource hcode' => cases hcode.symm.trans hcode'

end Rehearsal
end OffloadVolume
