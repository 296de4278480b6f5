import OffloadVolume.Proofs.Report

/-!
# Attachments undo what they did

An attachment asks the host and the backend for one thing after another, up to the first error. What
it did until then is undone: a backend that was connected is disconnected, and a function that was
handed out goes back. Main statements: `Initiator.course_of_connect`, the courses that an attachment
can take, and `Initiator.connect_compensated`, what all of them have in common.
-/

namespace OffloadVolume

namespace Step

def isHost : Step → Bool
  | backendConnect _ | backendDisconnect | call _ => false
  | _ => true

def isExisting : Step → Bool
  | existing _ => true
  | _ => false

end Step

namespace Initiator

/-- The courses of an attachment on a function that is held. -/
inductive HeldCourse (i : Initiator) (slot : PciSlot) :
    List Report → Except AttachError String → Prop where
  | refused (e : AttachError) : HeldCourse i slot
    [⟨.backendConnect (.pciFunction slot.function), .error e⟩, ⟨.release slot, .ok ()⟩] (.error e)
  | appeared (path : String) : HeldCourse i slot
    [⟨.backendConnect (.pciFunction slot.function), .ok ()⟩,
      ⟨.waitBdf slot.bdf i.awaitedModel i.deviceTimeout, .ok path⟩] (.ok path)
  | missed (e : AttachError) (undone : Except AttachError Unit) : HeldCourse i slot
    [⟨.backendConnect (.pciFunction slot.function), .ok ()⟩,
      ⟨.waitBdf slot.bdf i.awaitedModel i.deviceTimeout, .error e⟩,
      ⟨.backendDisconnect, undone⟩, ⟨.release slot, .ok ()⟩] (.error e)

inductive TcpCourse (i : Initiator) : List Report → Except AttachError String → Prop where
  | refused (e : AttachError) :
    TcpCourse i [⟨.backendConnect (.tcpPort i.tcp.port), .error e⟩] (.error e)
  | connected (path : String) : TcpCourse i
    [⟨.backendConnect (.tcpPort i.tcp.port), .ok ()⟩, ⟨.connectLocally i.nvmfTarget, .ok path⟩]
    (.ok path)
  | missed (e : AttachError) (undone : Except AttachError Unit) : TcpCourse i
    [⟨.backendConnect (.tcpPort i.tcp.port), .ok ()⟩, ⟨.connectLocally i.nvmfTarget, .error e⟩,
      ⟨.backendDisconnect, undone⟩] (.error e)

/-- The courses of an attachment: what is asked for, with the answers, and the result. To look for a
device in vain is the same whether it is not there or cannot be told. -/
inductive Course (i : Initiator) : List Report → Except AttachError String → Prop where
  | tcp {log : List Report} {result : Except AttachError String}
    (htcp : i.target.transport.isPci = false) (hc : TcpCourse i log result) : Course i log result
  | existing (hpci : i.target.transport.isPci = true) (path : String) :
    Course i [⟨.existing i.model, .ok (some path)⟩] (.ok path)
  | exhausted {look : Except AttachError (Option String)} (hpci : i.target.transport.isPci = true)
    (hlook : ∀ path, look ≠ .ok (some path)) (e : AttachError) :
    Course i [⟨.existing i.model, look⟩, ⟨.allocate i.bridges, .error e⟩] (.error e)
  | held {look : Except AttachError (Option String)} (hpci : i.target.transport.isPci = true)
    (hlook : ∀ path, look ≠ .ok (some path)) {slot : PciSlot} {log : List Report}
    {result : Except AttachError String} (hc : HeldCourse i slot log result) :
    Course i (⟨.existing i.model, look⟩ :: ⟨.allocate i.bridges, .ok slot⟩ :: log) result

section

variable {β σ : Type} (i : Initiator) (b : Backend β σ) (h : Host σ)

/-- On a function that is held there are three courses: the backend refuses, the device comes, or it
does not. -/
theorem connectOn_course (slot : PciSlot) (s : State β) (w : σ) (log : List Report) :
    ∃ course, HeldCourse i slot course (i.connectOn b.recorded h.recorded slot s (w, log)).1 ∧
      (i.connectOn b.recorded h.recorded slot s (w, log)).2.2.2 = log ++ course := by
  simp only [connectOn, Backend.recorded, Host.recorded, Host.noted]
  rcases b.connect (.pciFunction slot.function) s.backend w with ⟨e | -, kept, w₁⟩
  · exact ⟨_, .refused e, List.append_assoc ..⟩
  · simp only []
    rcases h.watcher.waitBdf slot.bdf i.awaitedModel i.deviceTimeout w₁ with ⟨e | path, w₂⟩
    · refine ⟨_, .missed e (b.disconnect kept w₂).1, ?_⟩
      simp only [List.append_assoc, List.cons_append, List.nil_append]
    · exact ⟨_, .appeared path, List.append_assoc ..⟩

/-- Over TCP there are three courses, too. -/
theorem connectTcp_course (s : State β) (w : σ) (log : List Report) :
    ∃ course, TcpCourse i course (i.connectTcp b.recorded h.recorded s (w, log)).1 ∧
      (i.connectTcp b.recorded h.recorded s (w, log)).2.2.2 = log ++ course := by
  simp only [connectTcp, Backend.recorded, Host.recorded, Host.noted]
  rcases b.connect (.tcpPort i.tcp.port) s.backend w with ⟨e | -, kept, w₁⟩
  · exact ⟨_, .refused e, rfl⟩
  · simp only []
    rcases h.connector.connect i.nvmfTarget w₁ with ⟨e | path, w₂⟩
    · refine ⟨_, .missed e (b.disconnect kept w₂).1, ?_⟩
      simp only [List.append_assoc, List.cons_append, List.nil_append]
    · exact ⟨_, .connected path, List.append_assoc ..⟩

/-- Before a function is held, the device may be there already, or there may be no function. -/
theorem connectPci_course (hpci : i.target.transport.isPci = true) (s : State β) (w : σ) :
    Course i (i.connectPci b.recorded h.recorded s (w, [])).2.2.2
      (i.connectPci b.recorded h.recorded s (w, [])).1 := by
  have hrun := h.recorded_existing i.model w []
  generalize h.watcher.existing i.model w = out at hrun
  obtain ⟨look, w₁⟩ := out
  by_cases hlook : ∃ path, look = .ok (some path)
  · obtain ⟨path, rfl⟩ := hlook
    rw [connectPci_of_seen hrun]
    exact .existing hpci path
  · have hnone : ∀ path, look ≠ .ok (some path) := fun path he => hlook ⟨path, he⟩
    rw [connectPci_of_unseen hrun hnone, Host.recorded_allocate]
    rcases h.allocator.allocate i.bridges w₁ with ⟨e | slot, w₂⟩
    · exact .exhausted hpci hnone e
    · obtain ⟨course, hc, hlog⟩ := i.connectOn_course b h slot s w₂
        [⟨.existing i.model, look⟩, ⟨.allocate i.bridges, .ok slot⟩]
      have hcourse : Course i ([⟨.existing i.model, look⟩, ⟨.allocate i.bridges, .ok slot⟩] ++
        course) _ := .held hpci hnone hc
      rw [← hlog] at hcourse
      exact hcourse

/-- Whatever the backend and the host answer, an attachment takes one of its courses. -/
theorem course_of_connect (s : State β) (w : σ) :
    Course i (i.connect b.recorded h.recorded s (w, [])).2.2.2
      (i.connect b.recorded h.recorded s (w, [])).1 := by
  have hc : Course i (if i.target.transport.isPci then i.connectPci b.recorded h.recorded s (w, [])
        else i.connectTcp b.recorded h.recorded s (w, [])).2.2.2
      (if i.target.transport.isPci then i.connectPci b.recorded h.recorded s (w, [])
        else i.connectTcp b.recorded h.recorded s (w, [])).1 := by
    split
    · exact i.connectPci_course b h ‹_› s w
    · obtain ⟨course, hc, hlog⟩ := i.connectTcp_course b h s w []
      rw [hlog]
      exact .tcp (Bool.eq_false_iff.2 ‹_›) hc
  simp only [connect]
  generalize (if i.target.transport.isPci then i.connectPci b.recorded h.recorded s (w, [])
    else i.connectTcp b.recorded h.recorded s (w, [])) = reached at hc
  obtain ⟨_ | _, s₁, w₁, log⟩ := reached <;> exact hc

end

/-! ## What the courses have in common -/

/-- What a log and a result have in common, whatever was answered. -/
structure Compensated (i : Initiator) (log : List Report) (result : Except AttachError String) :
    Prop where
  /-- The backend is disconnected if it was connected and the attachment fails. -/
  disconnect_iff : (∃ x ∈ log, x.step = .backendDisconnect) ↔
    (∃ params, ⟨.backendConnect params, .ok ()⟩ ∈ log) ∧ ∃ e, result = .error e
  disconnect_once : log.countP (fun x => x.step = .backendDisconnect) ≤ 1
  /-- It is disconnected right after the step of the host that failed. -/
  disconnect_after : (∃ x ∈ log, x.step = .backendDisconnect) → ∃ before y x after e,
    log = before ++ y :: x :: after ∧ x.step = .backendDisconnect ∧
      y.step.isHost = true ∧ y.failure? = some e ∧ result = .error e
  /-- A function goes back if it was handed out and the attachment fails. -/
  release_iff : ∀ slot, (∃ x ∈ log, x.step = .release slot) ↔
    (∃ n, ⟨.allocate n, .ok slot⟩ ∈ log) ∧ ∃ e, result = .error e
  /-- Nothing is asked for after a function went back, so that it goes back once. -/
  release_last : ∀ x ∈ log.dropLast, ∀ slot, x.step ≠ .release slot
  /-- A device that is there already is the answer; otherwise, also when that cannot be told, a
  function is asked for next. -/
  existing_first : i.target.transport.isPci = true →
    ∃ look rest, log = ⟨.existing i.model, look⟩ :: rest ∧
      ((∃ path, look = .ok (some path) ∧ rest = [] ∧ result = .ok path) ∨
        (∀ path, look ≠ .ok (some path)) ∧
          ∃ answer others, rest = ⟨.allocate i.bridges, answer⟩ :: others)
  /-- The backend is told the number of the function that was handed out, and the device is awaited
  at its address, of the volume's model only if it tells its model. -/
  slot_used : ∀ slot n, ⟨.allocate n, .ok slot⟩ ∈ log →
    (∃ shown, ⟨.backendConnect (.pciFunction (32 * slot.pf + slot.vf)), shown⟩ ∈ log ∧
      (shown = .ok () → ∃ seen, ⟨.waitBdf slot.bdf
        (if i.target.transport = .nvme then some i.model else none) i.deviceTimeout, seen⟩ ∈ log)) ∧
    ∀ x ∈ log,
      (∀ params, x.step = .backendConnect params →
        params = .pciFunction (32 * slot.pf + slot.vf)) ∧
      ∀ bdf model timeout, x.step = .waitBdf bdf model timeout →
        bdf = slot.bdf ∧ model = if i.target.transport = .nvme then some i.model else none
  /-- The error is that of the first step to fail, but for the look at the devices. -/
  error_first :
    (log.filter fun x => !x.step.isExisting).findSome? Report.failure? = AttachError.of? result

/-- Each course is looked at for itself: there are three over TCP, three on a function that is held
and two that end before. -/
theorem Course.compensated {i : Initiator} {log : List Report}
    {result : Except AttachError String} (hc : Course i log result) :
    Compensated i log result where
  disconnect_iff := by
    cases hc with
    | tcp _ hc => cases hc <;> simp
    | existing | exhausted => simp
    | held _ _ hc => cases hc <;> simp
  disconnect_once := by
    cases hc with
    | tcp _ hc => cases hc <;> simp
    | existing | exhausted => simp
    | held _ _ hc => cases hc <;> simp
  disconnect_after := by
    intro hd
    cases hc with
    | tcp _ hc =>
      cases hc with
      | refused | connected => simp at hd
      | missed e => exact ⟨[_], _, _, [], e, rfl, rfl, rfl, rfl, rfl⟩
    | existing | exhausted => simp at hd
    | held _ _ hc =>
      cases hc with
      | refused | appeared => simp at hd
      | missed e => exact ⟨[_, _, _], _, _, [_], e, rfl, rfl, rfl, rfl, rfl⟩
  release_iff := by
    intro slot
    cases hc with
    | tcp _ hc => cases hc <;> simp
    | existing | exhausted => simp
    | held _ _ hc => cases hc <;> simp [eq_comm]
  release_last := by
    cases hc with
    | tcp _ hc => cases hc <;> simp
    | existing | exhausted => simp
    | held _ _ hc => cases hc <;> simp
  existing_first := by
    intro hpci
    cases hc with
    | tcp htcp =>
      rw [htcp] at hpci
      cases hpci
    | existing _ path => exact ⟨_, [], rfl, .inl ⟨path, rfl, rfl, rfl⟩⟩
    | exhausted _ hlook => exact ⟨_, _, rfl, .inr ⟨hlook, _, _, rfl⟩⟩
    | held _ hlook => exact ⟨_, _, rfl, .inr ⟨hlook, _, _, rfl⟩⟩
  slot_used := by
    intro slot n ha
    have hf (t : PciSlot) : t.function = 32 * t.pf + t.vf := by
      rw [PciSlot.function, Nat.mul_comm]
      rfl
    cases hc with
    | tcp _ hc => cases hc <;> simp at ha
    | existing | exhausted => simp at ha
    | held _ _ hc =>
      cases hc with
      | refused | appeared | missed =>
        obtain ⟨-, rfl⟩ : n = i.bridges ∧ slot = _ := by simpa using ha
        simp [hf, awaitedModel]
  error_first := by
    cases hc with
    | tcp _ hc => cases hc <;> rfl
    | existing | exhausted => rfl
    | held _ _ hc => cases hc <;> rfl

/-- Whatever the backend and the host answer, an attachment undoes what it did before the first
error, and nothing else. -/
theorem connect_compensated {β σ : Type} (i : Initiator) (b : Backend β σ) (h : Host σ)
    (s : State β) (w : σ) :
    ∃ result s' w' log, i.connect b h s w = (result, s', w') ∧
      i.connect b.recorded h.recorded s (w, []) = (result, s', w', log) ∧
      Compensated i log result := by
  have hover := connect_over b.recorded_over h.recorded_over i s (w, [])
  exact ⟨_, _, _, _, hover.symm, rfl, (i.course_of_connect b h s w).compensated⟩

end Initiator
end OffloadVolume
