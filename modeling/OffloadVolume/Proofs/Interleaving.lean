import OffloadVolume.Proofs.Turns

/-!
# Backends that share a control plane

What a backend does is a task: it asks the control plane for one thing after another, and between two
of its calls others may have theirs answered. Main statements: `Provision.run_serveAllTask`, alone over
a control plane the task of a backend makes the calls of its turns, `Interleaved.guaranteed`, whatever
two tasks guarantee for all answers that they can rely on, they guarantee however their calls are
interleaved, and `Provision.Upholds.serveAllTask`, what each request of a backend guarantees and keeps
is guaranteed and kept by all its calls.
-/

namespace OffloadVolume

/-- A computation that asks a control plane for one thing after another; each answer decides how it
goes on. -/
inductive Task (α : Type) where
  | done (result : α)
  | ask (c : Call) (request : c.Request) (next : Outcome c.Reply → Task α)

namespace Task

variable {α β σ : Type}

def bind : Task α → (α → Task β) → Task β
  | done a, f => f a
  | ask c request next, f => ask c request fun o => (next o).bind f

def perform (timeout : Duration) (c : Call) (request : c.Request) : Task (Except Status c.Reply) :=
  ask c request fun o => done (o.toExcept timeout)

def run (p : Plane σ) (timeout : Duration) : Task α → σ → α × σ
  | done a, w => (a, w)
  | ask c request next, w =>
    (next (p.submit timeout c request w).1).run p timeout (p.submit timeout c request w).2

variable {p : Plane σ} {timeout : Duration}

@[simp] theorem run_done (a : α) (w : σ) : (done a).run p timeout w = (a, w) := rfl

theorem run_perform (c : Call) (request : c.Request) (f : Except Status c.Reply → Task α) (w : σ) :
    ((perform timeout c request).bind f).run p timeout w =
      (f (p.perform timeout c request w).1).run p timeout (p.perform timeout c request w).2 := rfl

/-- To run one task after another is to run the one and then the other. -/
theorem run_bind (t : Task α) (f : α → Task β) (w : σ) :
    (t.bind f).run p timeout w = (f (t.run p timeout w).1).run p timeout (t.run p timeout w).2 := by
  induction t generalizing w with
  | done a => rfl
  | ask c request next ih => exact ih _ _

theorem run_recorded_ask (c : Call) (request : c.Request) (next : Outcome c.Reply → Task α) (w : σ)
    (log : List Exchange) :
    (ask c request next).run p.recorded timeout (w, log) =
      (next (p.submit timeout c request w).1).run p.recorded timeout
        ((p.submit timeout c request w).2, log ++ [⟨c, request, (p.submit timeout c request w).1⟩]) :=
  rfl

/-- The record of a run goes on where it was. -/
theorem run_recorded (t : Task α) (w : σ) (log : List Exchange) :
    t.run p.recorded timeout (w, log) = ((t.run p.recorded timeout (w, [])).1,
      (t.run p.recorded timeout (w, [])).2.1, log ++ (t.run p.recorded timeout (w, [])).2.2) := by
  induction t generalizing w log with
  | done a => simp
  | ask c request next ih =>
    rw [run_recorded_ask, run_recorded_ask, ih, ih _ _ ([] ++ _)]
    simp

end Task

/-! ## Backends -/

namespace Provision

variable (j : Provision) (c : Chain)

def createTask (function : Nat) (k : Collection) (h : Handles) :
    Task (Except AttachError Unit × Handles) :=
  match j.request function h k with
  | .error e => .done (.error e, h)
  | .ok request =>
    (Task.perform j.timeout (.create k) request).bind fun
      | .error status => .done (.error (.rpc (Call.create k).name request.id status), h)
      | .ok resource =>
        .done (.ok (), h.set k (some (recordedName (k.nameOf resource) request.id)))

def deleteTask (k : Collection) (h : Handles) : Task (Except AttachError Unit × Handles) :=
  match h.get k with
  | none => .done (.ok (), h)
  | some name =>
    (Task.perform j.timeout (.delete k) { name, allowMissing := true }).bind fun
      | .error status => .done (.error (.rpc (Call.delete k).name name status), h)
      | .ok _ => .done (.ok (), h.set k none)

def createAllTask (function : Nat) :
    List Collection → Handles → Task (Except AttachError Unit × Handles)
  | [], h => .done (.ok (), h)
  | k :: ks, h =>
    (j.createTask function k h).bind fun
      | (.error e, h) => .done (.error e, h)
      | (.ok _, h) => createAllTask function ks h

def deleteAllTask : List Collection → Handles → Task (Except AttachError Unit × Handles)
  | [], h => .done (.ok (), h)
  | k :: ks, h =>
    (j.deleteTask k h).bind fun
      | (.error e, h) => .done (.error e, h)
      | (.ok _, h) => deleteAllTask ks h

def deleteEachTask : List Collection → Handles → Task Handles
  | [], h => .done h
  | k :: ks, h => (j.deleteTask k h).bind fun out => deleteEachTask ks out.2

def connectTask (params : ConnectParams) (h : Handles) : Task (Except AttachError Unit × Handles) :=
  match params.requireFunction with
  | .error e => .done (.error e, h)
  | .ok function =>
    (j.createTask function c.first h).bind fun
      | (.error e, h) => .done (.error e, h)
      | (.ok _, h) =>
        (j.createAllTask function c.later h).bind fun
          | (.error e, h) => (j.deleteEachTask c.rollback h).bind fun h => .done (.error e, h)
          | (.ok _, h) => .done (.ok (), h)

def disconnectTask (h : Handles) : Task (Except AttachError Unit × Handles) :=
  (j.deleteAllTask c.teardown h).bind fun
    | (.error e, h) => .done (.error e, h)
    | (.ok _, h) => .done (.ok (), h.clear c.swept)

def serveTask : Ask → Handles → Task (Except AttachError Unit × Handles)
  | .connect params => j.connectTask c params
  | .disconnect => j.disconnectTask c

def serveAllTask : List Ask → Handles → Task Handles
  | [], h => .done h
  | a :: asks, h => (j.serveTask c a h).bind fun out => serveAllTask asks out.2

section

variable {σ : Type} (p : Plane σ)

/-- A result and what is recorded, beside the world. -/
def paired {α κ σ : Type} (out : α × κ × σ) : (α × κ) × σ := ((out.1, out.2.1), out.2.2)

theorem run_createTask (function : Nat) (k : Collection) (h : Handles) (w : σ) :
    (j.createTask function k h).run p j.timeout w = paired (j.create p function k h w) := by
  unfold createTask create
  cases j.request function h k with
  | error e => rfl
  | ok request =>
    refine (Task.run_perform (.create k) request _ w).trans ?_
    dsimp only
    generalize p.perform j.timeout (.create k) request w = out
    obtain ⟨_ | _, w'⟩ := out <;> rfl

theorem run_deleteTask (k : Collection) (h : Handles) (w : σ) :
    (j.deleteTask k h).run p j.timeout w = paired (j.delete p k h w) := by
  unfold deleteTask delete
  cases h.get k with
  | none => rfl
  | some name =>
    refine (Task.run_perform (.delete k) _ _ w).trans ?_
    dsimp only
    generalize p.perform j.timeout (.delete k) { name, allowMissing := true } w = out
    obtain ⟨_ | _, w'⟩ := out <;> rfl

theorem run_createAllTask (function : Nat) (ks : List Collection) (h : Handles) (w : σ) :
    (j.createAllTask function ks h).run p j.timeout w =
      paired (j.createAll p function ks h w) := by
  induction ks generalizing h w with
  | nil => rfl
  | cons k ks ih =>
    rw [createAllTask, Task.run_bind, run_createTask, createAll]
    generalize j.create p function k h w = out
    obtain ⟨_ | _, h', w'⟩ := out
    · rfl
    · exact ih h' w'

theorem run_deleteAllTask (ks : List Collection) (h : Handles) (w : σ) :
    (j.deleteAllTask ks h).run p j.timeout w = paired (j.deleteAll p ks h w) := by
  induction ks generalizing h w with
  | nil => rfl
  | cons k ks ih =>
    rw [deleteAllTask, Task.run_bind, run_deleteTask, deleteAll]
    generalize j.delete p k h w = out
    obtain ⟨_ | _, h', w'⟩ := out
    · rfl
    · exact ih h' w'

theorem run_deleteEachTask (ks : List Collection) (h : Handles) (w : σ) :
    (j.deleteEachTask ks h).run p j.timeout w = j.deleteEach p ks h w := by
  induction ks generalizing h w with
  | nil => rfl
  | cons k ks ih =>
    rw [deleteEachTask, Task.run_bind, run_deleteTask, deleteEach]
    exact ih _ _

/-- The task that creates a chain does what the backend does. -/
theorem run_connectTask (params : ConnectParams) (h : Handles) (w : σ) :
    (j.connectTask c params h).run p j.timeout w = paired (j.connect c p params h w) := by
  unfold connectTask connect
  cases params.requireFunction with
  | error e => rfl
  | ok function =>
    simp only [Task.run_bind, run_createTask]
    generalize j.create p function c.first h w = out
    obtain ⟨_ | _, h₁, w₁⟩ := out
    · rfl
    · simp only [paired, Task.run_bind, run_createAllTask]
      generalize j.createAll p function c.later h₁ w₁ = out
      obtain ⟨_ | _, h₂, w₂⟩ := out
      · simp only [Task.run_bind, run_deleteEachTask]
        rfl
      · rfl

/-- The task that deletes a chain does what the backend does. -/
theorem run_disconnectTask (h : Handles) (w : σ) :
    (j.disconnectTask c h).run p j.timeout w = paired (j.disconnect c p h w) := by
  unfold disconnectTask disconnect
  rw [Task.run_bind, run_deleteAllTask]
  generalize j.deleteAll p c.teardown h w = out
  obtain ⟨_ | _, h₁, w₁⟩ := out <;> rfl

/-- Alone over a control plane, a call does what it did. -/
theorem run_serveTask (a : Ask) (h : Handles) (w : σ) :
    (j.serveTask c a h).run p j.timeout w = paired (j.serve c p a h w) := by
  cases a with
  | connect params => exact j.run_connectTask c p params h w
  | disconnect => exact j.run_disconnectTask c p h w

/-- Alone over a control plane, the calls of a backend ask for what its turns ask for. -/
theorem run_serveAllTask (asks : List Ask) (h : Handles) (w : σ) :
    ((j.serveAllTask c asks h).run p.recorded j.timeout (w, [])).2.2 =
      (j.turns c p asks h w).flatMap Turn.exchanges := by
  induction asks generalizing h w with
  | nil => rfl
  | cons a asks ih =>
    rw [serveAllTask, Task.run_bind, run_serveTask, turns_cons, List.flatMap_cons]
    generalize hturn : j.turn c p a h w = t
    obtain ⟨t, w'⟩ := t
    obtain ⟨-, -, hserve⟩ := run_of_turn hturn
    rw [hserve]
    simp only [paired]
    rw [Task.run_recorded, ih]

end
end Provision

/-! ## Two tasks -/

/-- What two tasks have asked a control plane for until some moment, when their calls are answered in
any order: those of the first are on the left. -/
inductive Interleaved {α β σ : Type} (p : Plane σ) (timeout timeout' : Duration) :
    Task α → Task β → σ → List (Exchange ⊕ Exchange) → Prop where
  | stop {t : Task α} {u : Task β} {w : σ} : Interleaved p timeout timeout' t u w []
  | left {c : Call} {request : c.Request} {next : Outcome c.Reply → Task α} {u : Task β} {w w' : σ}
    {o : Outcome c.Reply} {log : List (Exchange ⊕ Exchange)}
    (hsubmit : p.submit timeout c request w = (o, w'))
    (hrest : Interleaved p timeout timeout' (next o) u w' log) :
    Interleaved p timeout timeout' (.ask c request next) u w (.inl ⟨c, request, o⟩ :: log)
  | right {t : Task α} {c : Call} {request : c.Request} {next : Outcome c.Reply → Task β} {w w' : σ}
    {o : Outcome c.Reply} {log : List (Exchange ⊕ Exchange)}
    (hsubmit : p.submit timeout' c request w = (o, w'))
    (hrest : Interleaved p timeout timeout' t (next o) w' log) :
    Interleaved p timeout timeout' t (.ask c request next) w (.inr ⟨c, request, o⟩ :: log)

namespace Task

/-- Lets two tasks ask by turns, the first wherever the schedule says so; one that is done is passed
over. -/
def weave {α β σ : Type} (p : Plane σ) (timeout timeout' : Duration) :
    List Bool → Task α → Task β → σ → List (Exchange ⊕ Exchange)
  | true :: turns, ask c request next, u, w =>
    .inl ⟨c, request, (p.submit timeout c request w).1⟩ ::
      weave p timeout timeout' turns (next (p.submit timeout c request w).1) u
        (p.submit timeout c request w).2
  | false :: turns, t, ask c request next, w =>
    .inr ⟨c, request, (p.submit timeout' c request w).1⟩ ::
      weave p timeout timeout' turns t (next (p.submit timeout' c request w).1)
        (p.submit timeout' c request w).2
  | _ :: turns, t, u, w => weave p timeout timeout' turns t u w
  | [], _, _, _ => []

/-- What comes of a schedule is an interleaving. -/
theorem interleaved_weave {α β σ : Type} (p : Plane σ) (timeout timeout' : Duration)
    (turns : List Bool) (t : Task α) (u : Task β) (w : σ) :
    Interleaved p timeout timeout' t u w (weave p timeout timeout' turns t u w) := by
  fun_induction weave p timeout timeout' turns t u w with
  | case1 turns c request next u w ih => exact .left rfl ih
  | case2 turns t c request next w ih => exact .right rfl ih
  | case3 b turns t u w _ _ ih => exact ih
  | case4 => exact .stop

/-- Calls are interleaved by some schedule. -/
theorem interleaved_iff {α β σ : Type} {p : Plane σ} {timeout timeout' : Duration} {t : Task α}
    {u : Task β} {w : σ} {log : List (Exchange ⊕ Exchange)} :
    Interleaved p timeout timeout' t u w log ↔
      ∃ turns, weave p timeout timeout' turns t u w = log := by
  constructor
  · intro h
    induction h with
    | stop => exact ⟨[], rfl⟩
    | left hsubmit _ ih =>
      obtain ⟨turns, rfl⟩ := ih
      exact ⟨true :: turns, by rw [weave, hsubmit]⟩
    | @right t _ _ _ _ _ _ _ hsubmit _ ih =>
      obtain ⟨turns, rfl⟩ := ih
      exact ⟨false :: turns, by cases t <;> rw [weave, hsubmit]⟩
  · rintro ⟨turns, rfl⟩
    exact interleaved_weave p timeout timeout' turns t u w

variable {α β σ : Type} {rely guarantee : Exchange → Prop}

/-- As long as it can rely on what is answered, a task guarantees something of each of its exchanges
and, if it is done, of its result. -/
def Ensures (rely guarantee : Exchange → Prop) (post : α → Prop) : Task α → Prop
  | done a => post a
  | ask c request next => ∀ o, rely ⟨c, request, o⟩ →
      guarantee ⟨c, request, o⟩ ∧ (next o).Ensures rely guarantee post

/-- Guarantees of one task after another are put together by what the first one ends with. -/
theorem Ensures.bind {post : α → Prop} {post' : β → Prop} {t : Task α} {f : α → Task β}
    (ht : t.Ensures rely guarantee post) (hf : ∀ a, post a → (f a).Ensures rely guarantee post') :
    (t.bind f).Ensures rely guarantee post' := by
  induction t with
  | done a => exact hf a ht
  | ask c request next ih =>
    intro o ho
    exact ⟨(ht o ho).1, ih o (ht o ho).2⟩

/-- What is guaranteed of a task holds of its run alone. -/
theorem Ensures.recorded {post : α → Prop} {t : Task α} (ht : t.Ensures rely guarantee post)
    {p : Plane σ} {timeout : Duration}
    (hrely : ∀ c request w, rely ⟨c, request, (p.submit timeout c request w).1⟩) (w : σ) :
    ∀ x ∈ (t.run p.recorded timeout (w, [])).2.2, guarantee x := by
  induction t generalizing w with
  | done a => simp
  | ask c request next ih =>
    obtain ⟨hfirst, hrest⟩ := ht _ (hrely c request w)
    rw [run_recorded_ask, run_recorded]
    exact List.forall_mem_append.2 ⟨by simpa using hfirst, ih _ hrest _⟩

end Task

/-- However the calls of two tasks are interleaved, each guarantees what it does on its own. -/
theorem Interleaved.guaranteed {α β σ : Type} {p : Plane σ} {timeout timeout' : Duration}
    {t : Task α} {u : Task β} {w : σ} {log : List (Exchange ⊕ Exchange)}
    (h : Interleaved p timeout timeout' t u w log) {rely mine other : Exchange → Prop}
    (hrely : ∀ d c request w, rely ⟨c, request, (p.submit d c request w).1⟩) {post : α → Prop}
    {post' : β → Prop} (ht : t.Ensures rely mine post) (hu : u.Ensures rely other post') :
    (∀ x, .inl x ∈ log → mine x) ∧ ∀ x, .inr x ∈ log → other x := by
  induction h with
  | stop => simp
  | @left c request next u w w' o log hsubmit _ ih =>
    obtain ⟨hfirst, hrest⟩ := ht o (by have ho := hrely timeout c request w; rwa [hsubmit] at ho)
    obtain ⟨hleft, hright⟩ := ih hrest hu
    refine ⟨fun x hx => ?_, fun x hx => hright x (by simpa using hx)⟩
    obtain hx | hx := List.mem_cons.1 hx
    · cases hx
      exact hfirst
    · exact hleft x hx
  | @right t c request next w w' o log hsubmit _ ih =>
    obtain ⟨hfirst, hrest⟩ := hu o (by have ho := hrely timeout' c request w; rwa [hsubmit] at ho)
    obtain ⟨hleft, hright⟩ := ih ht hrest
    refine ⟨fun x hx => hleft x (by simpa using hx), fun x hx => ?_⟩
    obtain hx | hx := List.mem_cons.1 hx
    · cases hx
      exact hfirst
    · exact hright x hx

/-! ## What a backend guarantees -/

/-- As long as it can rely on what is answered, each request of a backend guarantees something, and
keeps something of what is recorded; it creates on some functions only. -/
structure Provision.Upholds (j : Provision) (onFunction : Nat → Prop)
    (rely guarantee : Exchange → Prop) (inv : Handles → Prop) : Prop where
  create {function : Nat} (hfunction : onFunction function) {k : Collection} {h : Handles}
    (hh : inv h) {request : CreateRequest k.Resource} (hr : j.request function h k = .ok request)
    (o : Outcome k.Resource) (ho : rely ⟨.create k, request, o⟩) :
    guarantee ⟨.create k, request, o⟩ ∧ inv (Exchange.update ⟨.create k, request, o⟩ h)
  delete {k : Collection} {h : Handles} (hh : inv h) {name : String} (hg : h.get k = some name)
    (o : Outcome Acknowledgement) (ho : rely ⟨.delete k, { name, allowMissing := true }, o⟩) :
    guarantee ⟨.delete k, { name, allowMissing := true }, o⟩ ∧
      inv (Exchange.update ⟨.delete k, { name, allowMissing := true }, o⟩ h)
  forget (k : Collection) {h : Handles} (hh : inv h) : inv (h.set k none)

namespace Provision.Upholds

variable {j : Provision} {onFunction : Nat → Prop} {rely guarantee : Exchange → Prop}
  {inv : Handles → Prop} (hu : j.Upholds onFunction rely guarantee inv)
include hu

theorem clear (ks : List Collection) {h : Handles} (hh : inv h) : inv (h.clear ks) := by
  induction ks generalizing h with
  | nil => exact hh
  | cons k ks ih => exact ih (hu.forget k hh)

theorem createTask {function : Nat} (hfunction : onFunction function) (k : Collection)
    {h : Handles} (hh : inv h) :
    (j.createTask function k h).Ensures rely guarantee fun out => inv out.2 := by
  unfold Provision.createTask
  cases hr : j.request function h k with
  | error e => exact hh
  | ok request =>
    intro o ho
    obtain ⟨hguarantee, hkept⟩ := hu.create hfunction hh hr o ho
    refine ⟨hguarantee, ?_⟩
    cases o <;> exact hkept

theorem deleteTask (k : Collection) {h : Handles} (hh : inv h) :
    (j.deleteTask k h).Ensures rely guarantee fun out => inv out.2 := by
  unfold Provision.deleteTask
  cases hg : h.get k with
  | none => exact hh
  | some name =>
    intro o ho
    obtain ⟨hguarantee, hkept⟩ := hu.delete hh hg o ho
    refine ⟨hguarantee, ?_⟩
    cases o <;> exact hkept

theorem createAllTask {function : Nat} (hfunction : onFunction function) (ks : List Collection)
    {h : Handles} (hh : inv h) :
    (j.createAllTask function ks h).Ensures rely guarantee fun out => inv out.2 := by
  induction ks generalizing h with
  | nil => exact hh
  | cons k ks ih =>
    refine (hu.createTask hfunction k hh).bind ?_
    rintro ⟨_ | _, h'⟩ hh'
    · exact hh'
    · exact ih hh'

theorem deleteAllTask (ks : List Collection) {h : Handles} (hh : inv h) :
    (j.deleteAllTask ks h).Ensures rely guarantee fun out => inv out.2 := by
  induction ks generalizing h with
  | nil => exact hh
  | cons k ks ih =>
    refine (hu.deleteTask k hh).bind ?_
    rintro ⟨_ | _, h'⟩ hh'
    · exact hh'
    · exact ih hh'

theorem deleteEachTask (ks : List Collection) {h : Handles} (hh : inv h) :
    (j.deleteEachTask ks h).Ensures rely guarantee inv := by
  induction ks generalizing h with
  | nil => exact hh
  | cons k ks ih => exact (hu.deleteTask k hh).bind fun out hout => ih hout

/-- A backend guarantees for the creation of a chain what it guarantees for each request. -/
theorem connectTask (c : Chain) {params : ConnectParams}
    (hparams : ∀ f, params = .pciFunction f → onFunction f) {h : Handles} (hh : inv h) :
    (j.connectTask c params h).Ensures rely guarantee fun out => inv out.2 := by
  cases params with
  | tcpPort port => exact hh
  | pciFunction function =>
    have hfunction := hparams function rfl
    refine (hu.createTask hfunction c.first hh).bind ?_
    rintro ⟨_ | _, h₁⟩ hh₁
    · exact hh₁
    · refine (hu.createAllTask hfunction c.later hh₁).bind ?_
      rintro ⟨_ | _, h₂⟩ hh₂
      · exact (hu.deleteEachTask c.rollback hh₂).bind fun h₃ hh₃ => hh₃
      · exact hh₂

/-- A backend guarantees for the deletion of a chain what it guarantees for each request. -/
theorem disconnectTask (c : Chain) {h : Handles} (hh : inv h) :
    (j.disconnectTask c h).Ensures rely guarantee fun out => inv out.2 := by
  refine (hu.deleteAllTask c.teardown hh).bind ?_
  rintro ⟨_ | _, h'⟩ hh'
  · exact hh'
  · exact hu.clear c.swept hh'

theorem serveTask (c : Chain) {a : Ask} (ha : ∀ f, a = .connect (.pciFunction f) → onFunction f)
    {h : Handles} (hh : inv h) :
    (j.serveTask c a h).Ensures rely guarantee fun out => inv out.2 := by
  cases a with
  | connect params => exact hu.connectTask c (fun f hf => ha f (congrArg Ask.connect hf)) hh
  | disconnect => exact hu.disconnectTask c hh

/-- A backend guarantees for all its calls what it guarantees for each request. -/
theorem serveAllTask (c : Chain) {asks : List Ask}
    (hasks : ∀ f, .connect (.pciFunction f) ∈ asks → onFunction f) {h : Handles} (hh : inv h) :
    (j.serveAllTask c asks h).Ensures rely guarantee inv := by
  induction asks generalizing h with
  | nil => exact hh
  | cons a asks ih =>
    have ha : ∀ f, a = .connect (.pciFunction f) → onFunction f :=
      fun f hf => hasks f (List.mem_cons.2 (.inl hf.symm))
    refine (hu.serveTask c ha hh).bind fun out hout => ?_
    exact ih (fun f hf => hasks f (List.mem_cons_of_mem a hf)) hout

/-- What is guaranteed holds of every exchange of a creation. -/
theorem connect (c : Chain) {params : ConnectParams}
    (hparams : ∀ f, params = .pciFunction f → onFunction f) {h : Handles} (hh : inv h) {σ : Type}
    {p : Plane σ} (hrely : ∀ c request w, rely ⟨c, request, (p.submit j.timeout c request w).1⟩)
    (w : σ) : ∀ x ∈ (j.connect c p.recorded params h (w, [])).2.2.2, guarantee x := by
  have hall := (hu.connectTask c hparams hh).recorded hrely w
  rwa [run_connectTask] at hall

end Provision.Upholds
end OffloadVolume
