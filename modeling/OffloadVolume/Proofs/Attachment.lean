import OffloadVolume.Proofs.Report

/-!
# What an initiator asks of its backend

An attachment asks its backend to show the volume, and to take it away again if the host's side
fails; a detachment asks it once at most. Main statements: `Initiator.connect_attaching` and
`Initiator.disconnect_detaching`, and `Initiator.run_kept`, what a backend always keeps of its own is
kept through every history.
-/

namespace OffloadVolume

variable {α β σ τ : Type}

namespace Host

/-- The services of a host leave a part of the world as it is. -/
structure Leaves (h : Host σ) (f : σ → α) : Prop where
  allocate : ∀ n w, f (h.allocator.allocate n w).2 = f w
  release : ∀ slot w, f (h.allocator.release slot w) = f w
  existing : ∀ m w, f (h.watcher.existing m w).2 = f w
  lookup : ∀ bdf w, f (h.watcher.lookup bdf w).2 = f w
  waitBdf : ∀ bdf m t w, f (h.watcher.waitBdf bdf m t w).2 = f w
  waitModel : ∀ m t w, f (h.watcher.waitModel m t w).2 = f w
  waitGone : ∀ path t w, f (h.watcher.waitGone path t w).2 = f w
  connect : ∀ t w, f (h.connector.connect t w).2 = f w
  disconnect : ∀ t w, f (h.connector.disconnect t w).2 = f w

/-- The services of a host in a world that has more to it, which they leave alone. -/
def beside (h : Host σ) (τ : Type) : Host (σ × τ) where
  allocator := {
    allocate n w := ((h.allocator.allocate n w.1).1, (h.allocator.allocate n w.1).2, w.2)
    release slot w := (h.allocator.release slot w.1, w.2) }
  watcher := {
    existing m w := ((h.watcher.existing m w.1).1, (h.watcher.existing m w.1).2, w.2)
    lookup bdf w := ((h.watcher.lookup bdf w.1).1, (h.watcher.lookup bdf w.1).2, w.2)
    waitBdf bdf m t w :=
      ((h.watcher.waitBdf bdf m t w.1).1, (h.watcher.waitBdf bdf m t w.1).2, w.2)
    waitModel m t w := ((h.watcher.waitModel m t w.1).1, (h.watcher.waitModel m t w.1).2, w.2)
    waitGone path t w := ((h.watcher.waitGone path t w.1).1, (h.watcher.waitGone path t w.1).2, w.2) }
  connector := {
    connect t w := ((h.connector.connect t w.1).1, (h.connector.connect t w.1).2, w.2)
    disconnect t w := ((h.connector.disconnect t w.1).1, (h.connector.disconnect t w.1).2, w.2) }

theorem beside_over (h : Host σ) (τ : Type) : (h.beside τ).Over h Prod.fst where
  allocate _ _ := rfl
  release _ _ := rfl
  existing _ _ := rfl
  lookup _ _ := rfl
  waitBdf _ _ _ _ := rfl
  waitModel _ _ _ := rfl
  waitGone _ _ _ := rfl
  connect _ _ := rfl
  disconnect _ _ := rfl

theorem beside_leaves (h : Host σ) (τ : Type) : (h.beside τ).Leaves Prod.snd where
  allocate _ _ := rfl
  release _ _ := rfl
  existing _ _ := rfl
  lookup _ _ := rfl
  waitBdf _ _ _ _ := rfl
  waitModel _ _ _ := rfl
  waitGone _ _ _ := rfl
  connect _ _ := rfl
  disconnect _ _ := rfl

end Host

namespace Initiator

/-- What an attachment asks of its backend, which keeps `kept` at first. All the while, the host
leaves the part `f` of the world as it is. -/
inductive Attaching (b : Backend β σ) (f : σ → α) (kept : β) (w : σ) :
    List Report → Except AttachError String → β → σ → Prop where
  | unasked {log : List Report} {result : Except AttachError String} {w' : σ}
    (hlog : ∀ x ∈ log, ∀ params, x.step ≠ .backendConnect params) (hf : f w' = f w) :
    Attaching b f kept w log result kept w'
  | refused {log : List Report} {params : ConnectParams} {e : AttachError} {kept₁ : β} {w₁ w₂ w' : σ}
    (hlog : ⟨.backendConnect params, .error e⟩ ∈ log) (hbefore : f w₁ = f w)
    (hconnect : b.connect params kept w₁ = (.error e, kept₁, w₂)) (hf : f w' = f w₂) :
    Attaching b f kept w log (.error e) kept₁ w'
  | attached {log : List Report} {params : ConnectParams} {path : String} {kept₁ : β} {w₁ w₂ w' : σ}
    (hlog : ⟨.backendConnect params, .ok ()⟩ ∈ log) (hbefore : f w₁ = f w)
    (hconnect : b.connect params kept w₁ = (.ok (), kept₁, w₂)) (hf : f w' = f w₂) :
    Attaching b f kept w log (.ok path) kept₁ w'
  | undone {log : List Report} {params : ConnectParams} {e : AttachError}
    {result : Except AttachError Unit} {kept₁ kept₂ : β} {w₁ w₂ w₃ w₄ w' : σ}
    (hlog : ⟨.backendConnect params, .ok ()⟩ ∈ log) (hbefore : f w₁ = f w)
    (hconnect : b.connect params kept w₁ = (.ok (), kept₁, w₂)) (hwait : f w₃ = f w₂)
    (hdisconnect : b.disconnect kept₁ w₃ = (result, kept₂, w₄)) (hf : f w' = f w₄) :
    Attaching b f kept w log (.error e) kept₂ w'

inductive Detaching (b : Backend β σ) (f : σ → α) (kept : β) (w : σ) :
    List Report → β → σ → Prop where
  | unasked {log : List Report} {w' : σ} (hlog : ∀ x ∈ log, x.step ≠ .backendDisconnect)
    (hf : f w' = f w) : Detaching b f kept w log kept w'
  | asked {log : List Report} {answer : Except AttachError Unit} {kept₁ : β} {w₁ w₂ w' : σ}
    (hlog : ⟨.backendDisconnect, answer⟩ ∈ log) (hbefore : f w₁ = f w)
    (hdisconnect : b.disconnect kept w₁ = (answer, kept₁, w₂)) (hf : f w' = f w₂) :
    Detaching b f kept w log kept₁ w'

/-! ## Attachments -/

section

variable {i : Initiator} {b : Backend β σ} {h : Host σ} {f : σ → α} (hf : h.Leaves f)
  {s s' : State β} {w w' : σ} {log : List Report} {result : Except AttachError String}

include hf

/-- On a function that is held, an attachment undoes what the backend did if no device comes. -/
theorem connectOn_attaching {slot : PciSlot} {w₁ : σ} (hw : f w₁ = f w) {before : List Report}
    (hrun : i.connectOn b.recorded h.recorded slot s (w₁, before) = (result, s', w', log)) :
    Attaching b f s.backend w log result s'.backend w' := by
  simp only [connectOn, Backend.recorded, Host.recorded, Host.noted] at hrun
  generalize hc : b.connect (.pciFunction slot.function) s.backend w₁ = out at hrun
  obtain ⟨e | _, kept, w₂⟩ := out
  · cases hrun
    exact .refused (by simp) hw hc (hf.release slot w₂)
  · have hwait := hf.waitBdf slot.bdf i.awaitedModel i.deviceTimeout w₂
    simp only [] at hrun
    generalize h.watcher.waitBdf slot.bdf i.awaitedModel i.deviceTimeout w₂ = out at hrun hwait
    obtain ⟨e | path, w₃⟩ := out
    · cases hrun
      exact .undone (by simp) hw hc hwait rfl (hf.release slot _)
    · cases hrun
      exact .attached (by simp) hw hc hwait

theorem connectTcp_attaching
    (hrun : i.connectTcp b.recorded h.recorded s (w, []) = (result, s', w', log)) :
    Attaching b f s.backend w log result s'.backend w' := by
  simp only [connectTcp, Backend.recorded, Host.recorded, Host.noted] at hrun
  generalize hc : b.connect (.tcpPort i.tcp.port) s.backend w = out at hrun
  obtain ⟨e | _, kept, w₂⟩ := out
  · cases hrun
    exact .refused (by simp) rfl hc rfl
  · have hwait := hf.connect i.nvmfTarget w₂
    simp only [] at hrun
    generalize h.connector.connect i.nvmfTarget w₂ = out at hrun hwait
    obtain ⟨e | path, w₃⟩ := out
    · cases hrun
      exact .undone (by simp) rfl hc hwait rfl rfl
    · cases hrun
      exact .attached (by simp) rfl hc hwait

theorem connectPci_attaching
    (hrun : i.connectPci b.recorded h.recorded s (w, []) = (result, s', w', log)) :
    Attaching b f s.backend w log result s'.backend w' := by
  have hnote := h.recorded_existing i.model w []
  have hlook := hf.existing i.model w
  generalize h.watcher.existing i.model w = out at hnote hlook
  obtain ⟨look, w₁⟩ := out
  by_cases hseen : ∃ path, look = .ok (some path)
  · obtain ⟨path, rfl⟩ := hseen
    rw [connectPci_of_seen hnote] at hrun
    cases hrun
    exact .unasked (by simp) hlook
  · rw [connectPci_of_unseen hnote fun path he => hseen ⟨path, he⟩, Host.recorded_allocate] at hrun
    have hallocate := hf.allocate i.bridges w₁
    generalize h.allocator.allocate i.bridges w₁ = out at hrun hallocate
    obtain ⟨e | slot, w₂⟩ := out
    · cases hrun
      exact .unasked (by simp) (hallocate.trans hlook)
    · exact connectOn_attaching hf (hallocate.trans hlook) hrun

/-- Every attachment goes on with its backend in one of these ways. -/
theorem connect_attaching
    (hrun : i.connect b.recorded h.recorded s (w, []) = (result, s', w', log)) :
    Attaching b f s.backend w log result s'.backend w' := by
  simp only [connect] at hrun
  generalize hreached : (if i.target.transport.isPci then i.connectPci b.recorded h.recorded s (w, [])
    else i.connectTcp b.recorded h.recorded s (w, [])) = reached at hrun
  obtain ⟨result₁, s₁, w₁, log₁⟩ := reached
  have hat : Attaching b f s.backend w log₁ result₁ s₁.backend w₁ := by
    split at hreached
    · exact connectPci_attaching hf hreached
    · exact connectTcp_attaching hf hreached
  cases result₁ <;> cases hrun <;> exact hat

end

/-! ## Detachments -/

section

variable {i : Initiator} {b : Backend β σ} {h : Host σ} {f : σ → α} (hf : h.Leaves f)
  {s s' : State β} {w w' : σ} {log : List Report} {result : Except AttachError Unit}

include hf

/-- To look for the device leaves alone what the host leaves alone. -/
theorem findDevice_leaves (i : Initiator) (s : State β) (w : σ) :
    f (i.findDevice h s w).2 = f w := by
  unfold findDevice
  split
  · exact hf.lookup _ w
  · exact hf.existing _ w

/-- To find the device, one thing is asked for. -/
theorem findDevice_recorded (i : Initiator) (s : State β) (w : σ) :
    ∃ look w₁ x, i.findDevice h.recorded s (w, []) = (look, w₁, [x]) ∧
      x.step ≠ .backendDisconnect ∧ f w₁ = f w := by
  unfold findDevice
  split
  · exact ⟨_, _, _, rfl, nofun, hf.lookup _ w⟩
  · exact ⟨_, _, _, rfl, nofun, hf.existing _ w⟩

theorem disconnectTcp_detaching
    (hrun : i.disconnectTcp b.recorded h.recorded s (w, []) = (result, s', w', log)) :
    Detaching b f s.backend w log s'.backend w' := by
  simp only [disconnectTcp, Backend.recorded, Host.recorded, Host.noted] at hrun
  have hlocal := hf.disconnect i.nvmfTarget w
  generalize h.connector.disconnect i.nvmfTarget w = out at hrun hlocal
  obtain ⟨e | _, w₁⟩ := out
  · cases hrun
    exact .unasked (by simp) hlocal
  · simp only [] at hrun
    generalize hd : b.disconnect s.backend w₁ = out at hrun
    obtain ⟨answer, kept, w₂⟩ := out
    cases hrun
    exact .asked (by simp : (⟨.backendDisconnect, answer⟩ : Report) ∈ _) hlocal hd rfl

theorem disconnectPci_detaching
    (hrun : i.disconnectPci b.recorded h.recorded s (w, []) = (result, s', w', log)) :
    Detaching b f s.backend w log s'.backend w' := by
  obtain ⟨look, w₁, x, hfind, hx, hlook⟩ := findDevice_recorded hf i s w
  simp only [disconnectPci, hfind] at hrun
  obtain e | _ | path := look
  · cases hrun
    exact .unasked (by simpa using hx) hlook
  · cases hrun
    exact .unasked (by simpa using hx) hlook
  · simp only [Backend.recorded] at hrun
    generalize hd : b.disconnect s.backend w₁ = out at hrun
    obtain ⟨e | _, kept, w₂⟩ := out
    · cases hrun
      exact .asked (by simp) hlook hd rfl
    · have hgone := hf.waitGone path i.deviceTimeout w₂
      simp only [Host.recorded, Host.noted] at hrun
      generalize h.watcher.waitGone path i.deviceTimeout w₂ = out at hrun hgone
      obtain ⟨e | _, w₃⟩ := out
      · cases hrun
        exact .asked (by simp) hlook hd hgone
      · cases hrun
        exact .asked (by simp) hlook hd hgone

/-- Every detachment goes on with its backend in one of these ways. -/
theorem disconnect_detaching
    (hrun : i.disconnect b.recorded h.recorded s (w, []) = (result, s', w', log)) :
    Detaching b f s.backend w log s'.backend w' := by
  simp only [disconnect] at hrun
  generalize hreached : (if i.target.transport.isPci
    then i.disconnectPci b.recorded h.recorded s (w, [])
    else i.disconnectTcp b.recorded h.recorded s (w, [])) = reached at hrun
  obtain ⟨result₁, s₁, w₁, log₁⟩ := reached
  have hde : Detaching b f s.backend w log₁ s₁.backend w₁ := by
    split at hreached
    · exact disconnectPci_detaching hf hreached
    · exact disconnectTcp_detaching hf hreached
  cases result₁ <;> cases hrun <;> exact hde

omit hf

/-- A device that is found is detached. -/
theorem disconnect_of_found (hf : h.Leaves f) (hpci : i.target.transport.isPci = true) {w₁ : σ}
    {path : String} (hfind : i.findDevice h s w = (.ok (some path), w₁)) :
    (i.disconnect b h s w).2.1.backend = (b.disconnect s.backend w₁).2.1 ∧
      f (i.disconnect b h s w).2.2 = f (b.disconnect s.backend w₁).2.2 := by
  simp only [disconnect, if_pos hpci, disconnectPci, hfind]
  generalize b.disconnect s.backend w₁ = out
  obtain ⟨_ | _, kept, w₂⟩ := out
  · exact ⟨rfl, rfl⟩
  · have hgone := hf.waitGone path i.deviceTimeout w₂
    simp only []
    generalize h.watcher.waitGone path i.deviceTimeout w₂ = out at hgone
    obtain ⟨_ | _, w₃⟩ := out <;> exact ⟨rfl, hgone⟩

/-- Without a device there is nothing to detach. -/
theorem disconnect_of_unfound (hpci : i.target.transport.isPci = true) {w₁ : σ}
    {look : Except AttachError (Option String)} (hfind : i.findDevice h s w = (look, w₁))
    (hnone : ∀ path, look ≠ .ok (some path)) :
    ∃ e, i.disconnect b h s w = (.error e, s, w₁) := by
  simp only [disconnect, if_pos hpci, disconnectPci, hfind]
  obtain _ | _ | path := look
  · exact ⟨_, rfl⟩
  · exact ⟨_, rfl⟩
  · exact absurd rfl (hnone path)

end

/-! ## Histories -/

/-- What can happen to an initiator: a try to attach or to detach, or a change of the world by
others. -/
inductive Event (σ : Type) where
  | attach
  | detach
  | change (g : σ → σ)

section

variable (i : Initiator) (b : Backend β σ) (h : Host σ)

def step : State β × σ → Event σ → State β × σ
  | (s, w), .attach => (i.connect b h s w).2
  | (s, w), .detach => (i.disconnect b h s w).2
  | (s, w), .change g => (s, g w)

def run (events : List (Event σ)) (m : State β × σ) : State β × σ := events.foldl (i.step b h) m

@[simp] theorem run_nil (m : State β × σ) : i.run b h [] m = m := rfl

@[simp] theorem run_cons (e : Event σ) (events : List (Event σ)) (m : State β × σ) :
    i.run b h (e :: events) m = i.run b h events (i.step b h m e) := rfl

/-- What every event keeps is kept by a run. -/
theorem run_invariant {P : State β × σ → Prop} {events : List (Event σ)}
    (hstep : ∀ e ∈ events, ∀ m, P m → P (i.step b h m e)) {m : State β × σ} (hm : P m) :
    P (i.run b h events m) := by
  induction events generalizing m with
  | nil => exact hm
  | cons e events ih =>
    rw [run_cons]
    exact ih (fun e he => hstep e (List.mem_cons_of_mem _ he)) (hstep e List.mem_cons_self m hm)

variable {b} {P : β → Prop}
  (hconnect : ∀ params kept w, P kept → P (b.connect params kept w).2.1)
  (hdisconnect : ∀ kept w, P kept → P (b.disconnect kept w).2.1)

include hconnect hdisconnect

/-- What a backend always keeps of its own is kept by an event. -/
theorem step_kept (m : State β × σ) (e : Event σ) (hm : P m.1.backend) :
    P (i.step b h m e).1.backend := by
  obtain ⟨s, w⟩ := m
  have hf : h.Leaves fun _ => () := by constructor <;> intros <;> rfl
  have hc {params : ConnectParams} {kept kept' : β} {w w' : σ} {result : Except AttachError Unit}
      (hrun : b.connect params kept w = (result, kept', w')) (hk : P kept) : P kept' := by
    have hk' := hconnect params kept w hk
    rwa [hrun] at hk'
  have hd {kept kept' : β} {w w' : σ} {result : Except AttachError Unit}
      (hrun : b.disconnect kept w = (result, kept', w')) (hk : P kept) : P kept' := by
    have hk' := hdisconnect kept w hk
    rwa [hrun] at hk'
  cases e with
  | attach =>
    obtain ⟨result, s', w', log, hplain, hrun⟩ := i.connect_recorded b h s w
    rw [step, hplain]
    have hat := connect_attaching hf hrun
    generalize s'.backend = kept' at hat
    cases hat with
    | unasked => exact hm
    | refused _ _ hconn => exact hc hconn hm
    | attached _ _ hconn => exact hc hconn hm
    | undone _ _ hconn _ hdis => exact hd hdis (hc hconn hm)
  | detach =>
    obtain ⟨result, s', w', log, hplain, hrun⟩ := i.disconnect_recorded b h s w
    rw [step, hplain]
    have hde := disconnect_detaching hf hrun
    generalize s'.backend = kept' at hde
    cases hde with
    | unasked => exact hm
    | asked _ _ hdis => exact hd hdis hm
  | change g => exact hm

/-- What a backend always keeps of its own is kept by a run. -/
theorem run_kept (events : List (Event σ)) {m : State β × σ} (hm : P m.1.backend) :
    P (i.run b h events m).1.backend :=
  i.run_invariant b h (P := fun m => P m.1.backend)
    (fun e _ m => i.step_kept h hconnect hdisconnect m e) hm

end

end Initiator
end OffloadVolume
