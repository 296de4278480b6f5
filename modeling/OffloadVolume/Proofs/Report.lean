import OffloadVolume.Host.Trace
import OffloadVolume.Initiator
import OffloadVolume.Proofs.Exchange

/-!
# What a host and a backend are asked

The services of any host and any backend can be made to keep a record of what they are asked for and
of their answers. Main statements: `Initiator.connect_over` and `Initiator.disconnect_over`, a record
can be kept of every attachment and of every detachment.
-/

namespace OffloadVolume

/-- What the answer to a step tells. -/
abbrev Step.Value : Step → Type
  | existing _ | lookup _ => Option String
  | waitBdf .. | waitModel .. | connectLocally _ => String
  | allocate _ => PciSlot
  | waitGone .. | release _ | backendConnect _ | backendDisconnect | disconnectLocally _
  | call _ => Unit

structure Report where
  step : Step
  answer : Except AttachError step.Value

def AttachError.of? {α : Type} : Except AttachError α → Option AttachError
  | .error e => some e
  | .ok _ => none

def Report.failure? (x : Report) : Option AttachError := AttachError.of? x.answer

variable {β σ τ : Type}

/-! ## Records -/

def Backend.recorded (b : Backend β σ) : Backend β (σ × List Report) where
  connect params kept w :=
    let out := b.connect params kept w.1
    (out.1, out.2.1, out.2.2, w.2 ++ [⟨.backendConnect params, out.1⟩])
  disconnect kept w :=
    let out := b.disconnect kept w.1
    (out.1, out.2.1, out.2.2, w.2 ++ [⟨.backendDisconnect, out.1⟩])

namespace Host

def noted (log : List Report) (s : Step) (out : Except AttachError s.Value × σ) :
    Except AttachError s.Value × σ × List Report :=
  (out.1, out.2, log ++ [⟨s, out.1⟩])

/-- The services of a host that also keep a record, the latest report last. -/
def recorded (h : Host σ) : Host (σ × List Report) where
  allocator := {
    allocate n w := noted w.2 (.allocate n) (h.allocator.allocate n w.1)
    release slot w := (h.allocator.release slot w.1, w.2 ++ [⟨.release slot, .ok ()⟩]) }
  watcher := {
    existing m w := noted w.2 (.existing m) (h.watcher.existing m w.1)
    lookup bdf w := noted w.2 (.lookup bdf) (h.watcher.lookup bdf w.1)
    waitBdf bdf m t w := noted w.2 (.waitBdf bdf m t) (h.watcher.waitBdf bdf m t w.1)
    waitModel m t w := noted w.2 (.waitModel m t) (h.watcher.waitModel m t w.1)
    waitGone path t w := noted w.2 (.waitGone path t) (h.watcher.waitGone path t w.1) }
  connector := {
    connect t w := noted w.2 (.connectLocally t) (h.connector.connect t w.1)
    disconnect t w := noted w.2 (.disconnectLocally t.nqn) (h.connector.disconnect t w.1) }

theorem recorded_allocate (h : Host σ) (n : Nat) (w : σ) (log : List Report) :
    h.recorded.allocator.allocate n (w, log) = noted log (.allocate n) (h.allocator.allocate n w) :=
  rfl

theorem recorded_existing (h : Host σ) (m : String) (w : σ) (log : List Report) :
    h.recorded.watcher.existing m (w, log) = noted log (.existing m) (h.watcher.existing m w) := rfl

end Host

/-! ## Worlds of which a part is shown -/

/-- Two backends answer the same; the worlds of the first show those of the second. -/
structure Backend.Over (c : Backend β τ) (b : Backend β σ) (f : τ → σ) : Prop where
  connect : ∀ params kept w, shown f (c.connect params kept w) = b.connect params kept (f w)
  disconnect : ∀ kept w, shown f (c.disconnect kept w) = b.disconnect kept (f w)

/-- To keep a record does not change what a backend answers. -/
theorem Backend.recorded_over (b : Backend β σ) : b.recorded.Over b Prod.fst :=
  ⟨fun _ _ _ => rfl, fun _ _ => rfl⟩

/-- Backends over control planes that answer the same do the same. -/
theorem Plane.Over.backend {q : Plane τ} {p : Plane σ} {f : τ → σ} (o : q.Over p f) (c : Chain)
    (j : Provision) : (c.backend j q).Over (c.backend j p) f :=
  ⟨o.connect j c, o.disconnect j c⟩

structure Host.Over (g : Host τ) (h : Host σ) (f : τ → σ) : Prop where
  allocate : ∀ n w, (g.allocator.allocate n w).map id f = h.allocator.allocate n (f w)
  release : ∀ slot w, f (g.allocator.release slot w) = h.allocator.release slot (f w)
  existing : ∀ m w, (g.watcher.existing m w).map id f = h.watcher.existing m (f w)
  lookup : ∀ bdf w, (g.watcher.lookup bdf w).map id f = h.watcher.lookup bdf (f w)
  waitBdf : ∀ bdf m t w, (g.watcher.waitBdf bdf m t w).map id f = h.watcher.waitBdf bdf m t (f w)
  waitModel : ∀ m t w, (g.watcher.waitModel m t w).map id f = h.watcher.waitModel m t (f w)
  waitGone : ∀ path t w, (g.watcher.waitGone path t w).map id f = h.watcher.waitGone path t (f w)
  connect : ∀ t w, (g.connector.connect t w).map id f = h.connector.connect t (f w)
  disconnect : ∀ t w, (g.connector.disconnect t w).map id f = h.connector.disconnect t (f w)

/-- To keep a record does not change what a host answers. -/
theorem Host.recorded_over (h : Host σ) : h.recorded.Over h Prod.fst where
  allocate _ _ := rfl
  release _ _ := rfl
  existing _ _ := rfl
  lookup _ _ := rfl
  waitBdf _ _ _ _ := rfl
  waitModel _ _ _ := rfl
  waitGone _ _ _ := rfl
  connect _ _ := rfl
  disconnect _ _ := rfl

namespace Initiator

variable {c : Backend β τ} {b : Backend β σ} {g : Host τ} {h : Host σ} {f : τ → σ}

theorem connectTcp_over (ob : c.Over b f) (oh : g.Over h f) (i : Initiator) (s : State β) (w : τ) :
    shown f (i.connectTcp c g s w) = i.connectTcp b h s (f w) := by
  simp only [connectTcp, ← ob.connect]
  generalize c.connect (.tcpPort i.tcp.port) s.backend w = out
  obtain ⟨_ | _, kept, w₁⟩ := out
  · rfl
  · simp only [shown, ← oh.connect]
    generalize g.connector.connect i.nvmfTarget w₁ = out
    obtain ⟨_ | _, w₂⟩ := out
    · simp only [Prod.map, id, ← ob.disconnect]
      rfl
    · rfl

theorem connectOn_over (ob : c.Over b f) (oh : g.Over h f) (i : Initiator) (slot : PciSlot)
    (s : State β) (w : τ) :
    shown f (i.connectOn c g slot s w) = i.connectOn b h slot s (f w) := by
  simp only [connectOn, ← ob.connect]
  generalize c.connect (.pciFunction slot.function) s.backend w = out
  obtain ⟨_ | _, kept, w₁⟩ := out
  · simp only [shown, oh.release]
  · simp only [shown, ← oh.waitBdf]
    generalize g.watcher.waitBdf slot.bdf i.awaitedModel i.deviceTimeout w₁ = out
    obtain ⟨_ | _, w₂⟩ := out
    · simp only [Prod.map, id, ← ob.disconnect, shown, oh.release]
    · rfl

/-- A device that is reported is the answer. -/
theorem connectPci_of_seen {s : State β} {w w₁ : σ} {path : String} {i : Initiator}
    (hlook : h.watcher.existing i.model w = (.ok (some path), w₁)) :
    i.connectPci b h s w = (.ok path, s, w₁) := by
  rw [connectPci, hlook]

/-- To look for a device in vain is the same whether it is not there or cannot be told. -/
theorem connectPci_of_unseen {s : State β} {w w₁ : σ} {look : Except AttachError (Option String)}
    {i : Initiator} (hlook : h.watcher.existing i.model w = (look, w₁))
    (hnone : ∀ path, look ≠ .ok (some path)) :
    i.connectPci b h s w = match h.allocator.allocate i.bridges w₁ with
      | (.error e, w) => (.error e, s, w)
      | (.ok slot, w) => i.connectOn b h slot s w := by
  rw [connectPci, hlook]
  rcases look with e | _ | path
  · rfl
  · rfl
  · exact absurd rfl (hnone path)

theorem connectPci_over (ob : c.Over b f) (oh : g.Over h f) (i : Initiator) (s : State β) (w : τ) :
    shown f (i.connectPci c g s w) = i.connectPci b h s (f w) := by
  have hf := oh.existing i.model w
  generalize hg : g.watcher.existing i.model w = out at hf
  obtain ⟨look, w₁⟩ := out
  by_cases hlook : ∃ path, look = .ok (some path)
  · obtain ⟨path, rfl⟩ := hlook
    rw [connectPci_of_seen hg, connectPci_of_seen hf.symm]
    rfl
  · have hnone : ∀ path, look ≠ .ok (some path) := fun path he => hlook ⟨path, he⟩
    rw [connectPci_of_unseen hg hnone, connectPci_of_unseen hf.symm hnone, ← oh.allocate]
    generalize g.allocator.allocate i.bridges w₁ = out
    obtain ⟨_ | slot, w₂⟩ := out
    · rfl
    · exact connectOn_over ob oh i slot s w₂

/-- What is behind a backend and a host does not change an attachment over them. -/
theorem connect_over (ob : c.Over b f) (oh : g.Over h f) (i : Initiator) (s : State β) (w : τ) :
    shown f (i.connect c g s w) = i.connect b h s (f w) := by
  have hreached : shown f (if i.target.transport.isPci then i.connectPci c g s w
      else i.connectTcp c g s w) = if i.target.transport.isPci then i.connectPci b h s (f w)
      else i.connectTcp b h s (f w) := by
    split
    · exact connectPci_over ob oh i s w
    · exact connectTcp_over ob oh i s w
  simp only [connect, ← hreached]
  generalize (if i.target.transport.isPci then i.connectPci c g s w else i.connectTcp c g s w) = out
  obtain ⟨_ | _, s₁, w₁⟩ := out <;> rfl

theorem disconnectTcp_over (ob : c.Over b f) (oh : g.Over h f) (i : Initiator) (s : State β)
    (w : τ) : shown f (i.disconnectTcp c g s w) = i.disconnectTcp b h s (f w) := by
  simp only [disconnectTcp, ← oh.disconnect]
  generalize g.connector.disconnect i.nvmfTarget w = out
  obtain ⟨_ | _, w₁⟩ := out
  · rfl
  · simp only [Prod.map, id, ← ob.disconnect]
    rfl

/-- The device is found the same way on both hosts. -/
theorem findDevice_over (oh : g.Over h f) (i : Initiator) (s : State β) (w : τ) :
    (i.findDevice g s w).map id f = i.findDevice h s (f w) := by
  unfold findDevice
  split
  · exact oh.lookup _ w
  · exact oh.existing _ w

theorem disconnectPci_over (ob : c.Over b f) (oh : g.Over h f) (i : Initiator) (s : State β)
    (w : τ) : shown f (i.disconnectPci c g s w) = i.disconnectPci b h s (f w) := by
  simp only [disconnectPci, ← findDevice_over oh]
  generalize i.findDevice g s w = out
  obtain ⟨_ | _ | path, w₁⟩ := out
  · rfl
  · rfl
  · simp only [Prod.map, id, ← ob.disconnect]
    generalize c.disconnect s.backend w₁ = out
    obtain ⟨_ | _, kept, w₂⟩ := out
    · rfl
    · simp only [shown, ← oh.waitGone]
      generalize g.watcher.waitGone path i.deviceTimeout w₂ = out
      obtain ⟨_ | _, w₃⟩ := out <;> rfl

/-- What is behind a backend and a host does not change a detachment over them. -/
theorem disconnect_over (ob : c.Over b f) (oh : g.Over h f) (i : Initiator) (s : State β) (w : τ) :
    shown f (i.disconnect c g s w) = i.disconnect b h s (f w) := by
  have hreached : shown f (if i.target.transport.isPci then i.disconnectPci c g s w
      else i.disconnectTcp c g s w) = if i.target.transport.isPci then i.disconnectPci b h s (f w)
      else i.disconnectTcp b h s (f w) := by
    split
    · exact disconnectPci_over ob oh i s w
    · exact disconnectTcp_over ob oh i s w
  simp only [disconnect, ← hreached]
  generalize (if i.target.transport.isPci then i.disconnectPci c g s w
    else i.disconnectTcp c g s w) = out
  obtain ⟨_ | _, s₁, w₁⟩ := out <;> rfl

/-- Of every attachment a record can be kept. -/
theorem connect_recorded (i : Initiator) (b : Backend β σ) (h : Host σ) (s : State β) (w : σ) :
    ∃ result s' w' log, i.connect b h s w = (result, s', w') ∧
      i.connect b.recorded h.recorded s (w, []) = (result, s', w', log) :=
  ⟨_, _, _, _, (connect_over b.recorded_over h.recorded_over i s (w, [])).symm, rfl⟩

/-- Of every detachment a record can be kept. -/
theorem disconnect_recorded (i : Initiator) (b : Backend β σ) (h : Host σ) (s : State β) (w : σ) :
    ∃ result s' w' log, i.disconnect b h s w = (result, s', w') ∧
      i.disconnect b.recorded h.recorded s (w, []) = (result, s', w', log) :=
  ⟨_, _, _, _, (disconnect_over b.recorded_over h.recorded_over i s (w, [])).symm, rfl⟩

end Initiator
end OffloadVolume
