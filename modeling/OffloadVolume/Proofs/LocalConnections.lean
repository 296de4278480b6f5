import Mathlib.Order.BooleanAlgebra.Set
import OffloadVolume.Host.NvmeCli

/-!
# Failed local connections

A connect whose device does not come disconnects again, whether it connected anything or not. The
program keeps a set of connected names; main statement: `NvmeCli.restored_iff_new`, a failed connect
leaves the connections as they were, unless the target was connected before and its device does not
come.
-/

namespace OffloadVolume

/-! ## Programs that keep connections -/

def ProgramExit.Says (result : ProgramExit) (text : String) : Prop :=
  occursIn text.toList result.text.toList = true

/-- What comes of asking the program to connect a name, by the names that are connected before and
after. If it fails, also because the name is connected already, nothing changes. -/
inductive Connecting (nqn : String) (before : Set String) :
    Except Fault ProgramExit → Set String → Prop where
  | made {result : ProgramExit} (hok : result.isSuccess = true) :
      Connecting nqn before (.ok result) (insert nqn before)
  | refused {result : ProgramExit} (hfail : result.isSuccess = false) :
      Connecting nqn before (.ok result) before
  | notStarted (fault : Fault) : Connecting nqn before (.error fault) before

/-- What comes of asking the program to disconnect a name. It may refuse a name that is not
connected; of any other failure nothing is known. -/
inductive Disconnecting (nqn : String) (before : Set String) :
    Except Fault ProgramExit → Set String → Prop where
  | removed {result : ProgramExit} (hok : result.isSuccess = true) :
      Disconnecting nqn before (.ok result) (before \ {nqn})
  | absent {result : ProgramExit} (hnew : nqn ∉ before) (hfail : result.isSuccess = false) :
      Disconnecting nqn before (.ok result) before
  | failed {result : ProgramExit} {after : Set String} (hfail : result.isSuccess = false)
      (htext : ∀ text ∈ ["not connected", "disconnected 0"], ¬result.Says text) :
      Disconnecting nqn before (.ok result) after
  | notStarted (fault : Fault) : Disconnecting nqn before (.error fault) before

namespace NvmeCli

variable {σ : Type}

/-- The program keeps a set of connected names. -/
structure Keeps (r : Runner σ) (program : String) (connected : σ → Set String) : Prop where
  connect : ∀ t w, Connecting t.nqn (connected w) (r program (connectArguments t) w).1
    (connected (r program (connectArguments t) w).2)
  disconnect : ∀ t w, Disconnecting t.nqn (connected w) (r program (disconnectArguments t) w).1
    (connected (r program (disconnectArguments t) w).2)

/-! ## Requests -/

/-- What comes of running the program, which is not started with an argument that holds the zero
character. -/
def reply (c : NvmeCli) (r : Runner σ) (arguments : List String) (w : σ) :
    Except Fault ProgramExit × σ :=
  if (c.program :: arguments).any fun a => a.toList.contains '\x00' then (.error .zeroInArgument, w)
  else r c.program arguments w

def report (c : NvmeCli) (verb nqn : String) (accepted : List String) :
    Except Fault ProgramExit → Except AttachError Unit
  | .ok result => verdict verb nqn accepted result
  | .error fault => .error (.initiator (.notStarted c.program fault))

/-- The part of a connect before the wait for the device. -/
def login (c : NvmeCli) (r : Runner σ) (t : NvmfTarget) (w : σ) : Except AttachError Unit × σ :=
  (c.report "connect" t.nqn ["already"] (c.reply r (connectArguments t) w).1,
    (c.reply r (connectArguments t) w).2)

variable (c : NvmeCli) (r : Runner σ) (t : NvmfTarget) (w : σ)

theorem run_eq (arguments : List String) :
    c.run r arguments w = match c.reply r arguments w with
      | (.ok result, w) => (.ok result, w)
      | (.error fault, w) => (.error (.initiator (.notStarted c.program fault)), w) := by
  unfold run reply
  split
  · rfl
  · rfl

theorem connect_eq (watch : Watcher σ) :
    c.connect r watch t w = match c.login r t w with
      | (.error e, w) => (.error e, w)
      | (.ok _, w) =>
        match watch.waitModel t.model c.deviceTimeout w with
        | (.ok path, w) => (.ok path, w)
        | (.error e, w) => (.error e, (c.disconnect r t w).2) := by
  rw [connect, run_eq, login]
  generalize c.reply r (connectArguments t) w = out
  obtain ⟨fault | result, w⟩ := out
  · rfl
  · simp only [report]
    cases verdict "connect" t.nqn ["already"] result with
    | error e => rfl
    | ok _ => rfl

theorem disconnect_eq : c.disconnect r t w =
    (c.report "disconnect" t.nqn ["not connected", "disconnected 0"]
        (c.reply r (disconnectArguments t) w).1,
      (c.reply r (disconnectArguments t) w).2) := by
  rw [disconnect, run_eq]
  generalize c.reply r (disconnectArguments t) w = out
  obtain ⟨fault | result, w⟩ := out
  · rfl
  · rfl

/-- A program has done its work if it ends well or tells that the work was done already. -/
theorem verdict_eq_ok_iff {verb nqn : String} {accepted : List String} {result : ProgramExit} :
    verdict verb nqn accepted result = .ok () ↔
      result.isSuccess = true ∨ ∃ text ∈ accepted, result.Says text := by
  unfold verdict
  split
  next h => simpa [ProgramExit.Says] using h
  next h => simpa [ProgramExit.Says] using h

/-! ## Connections -/

section

variable {nqn : String} {before after : Set String} {answer : Except Fault ProgramExit}

/-- Only the connection that is asked for changes. -/
theorem others_connecting (h : Connecting nqn before answer after) :
    after \ {nqn} = before \ {nqn} := by
  cases h with
  | made _ => exact Set.insert_sdiff_of_mem before (Set.mem_singleton nqn)
  | refused _ => rfl
  | notStarted _ => rfl

/-- A connect that is reported as failed connects nothing. -/
theorem connecting_failed (h : Connecting nqn before answer after) {verb : String}
    {accepted : List String} {e : AttachError} (he : c.report verb nqn accepted answer = .error e) :
    after = before := by
  cases h with
  | made hok => cases he.symm.trans (verdict_eq_ok_iff.2 (.inl hok))
  | refused _ => rfl
  | notStarted _ => rfl

/-- A disconnect that is reported as done leaves the name not connected. -/
theorem disconnecting_done (h : Disconnecting nqn before answer after) {verb : String}
    (hok : c.report verb nqn ["not connected", "disconnected 0"] answer = .ok ()) :
    after = before \ {nqn} := by
  cases h with
  | removed _ => rfl
  | absent hnew _ => exact (Set.sdiff_singleton_eq_self hnew).symm
  | failed hfail htext =>
    obtain hsuccess | ⟨text, hmem, hsays⟩ := verdict_eq_ok_iff.1 hok
    · cases hsuccess.symm.trans hfail
    · exact absurd hsays (htext text hmem)
  | notStarted _ => cases hok

end

variable {c r} {connected : σ → Set String}

/-- A program that keeps its connections answers a request to connect in one of these ways. -/
theorem Keeps.connecting (hr : Keeps r c.program connected) :
    Connecting t.nqn (connected w) (c.reply r (connectArguments t) w).1
      (connected (c.reply r (connectArguments t) w).2) := by
  unfold reply
  split
  · exact .notStarted .zeroInArgument
  · exact hr.connect t w

/-- A program that keeps its connections answers a request to disconnect in one of these ways. -/
theorem Keeps.disconnecting (hr : Keeps r c.program connected) :
    Disconnecting t.nqn (connected w) (c.reply r (disconnectArguments t) w).1
      (connected (c.reply r (disconnectArguments t) w).2) := by
  unfold reply
  split
  · exact .notStarted .zeroInArgument
  · exact hr.disconnect t w

/-- A failed connect fails as its login does, which connects nothing, or as its wait does. Then it
asks for a disconnect; if that is done, the connections are as before just if the target was not
connected. -/
theorem restored_iff_new (hr : Keeps r c.program connected) {watch : Watcher σ}
    (hwatch : ∀ model timeout w, connected (watch.waitModel model timeout w).2 = connected w)
    (t : NvmfTarget) (w : σ) {e : AttachError} {w' : σ}
    (hrun : c.connect r watch t w = (.error e, w')) :
    (c.login r t w = (.error e, w') ∧ connected w' = connected w) ∨
    ∃ w₁ w₂, c.login r t w = (.ok (), w₁) ∧
      watch.waitModel t.model c.deviceTimeout w₁ = (.error e, w₂) ∧
      w' = (c.disconnect r t w₂).2 ∧
      ((c.disconnect r t w₂).1 = .ok () → connected w' = connected w \ {t.nqn} ∧
        (connected w' = connected w ↔ t.nqn ∉ connected w)) := by
  have hconnecting := hr.connecting t w
  rw [connect_eq] at hrun
  generalize hlogin : c.login r t w = out at hrun
  have hw₁ : (c.reply r (connectArguments t) w).2 = out.2 := congrArg Prod.snd hlogin
  rw [hw₁] at hconnecting
  obtain ⟨e₁ | _, w₁⟩ := out
  · left
    cases hrun
    exact ⟨rfl, connecting_failed c hconnecting (congrArg Prod.fst hlogin)⟩
  · right
    simp only at hrun
    generalize hwait : watch.waitModel t.model c.deviceTimeout w₁ = waited at hrun
    have hw₂ : connected waited.2 = connected w₁ := hwait ▸ hwatch t.model c.deviceTimeout w₁
    obtain ⟨e₂ | path, w₂⟩ := waited
    · cases hrun
      refine ⟨w₁, w₂, rfl, hwait, rfl, fun hdone => ?_⟩
      have hafter : connected (c.disconnect r t w₂).2 = connected w \ {t.nqn} :=
        calc connected (c.disconnect r t w₂).2
          _ = connected w₂ \ {t.nqn} := by
            rw [disconnect_eq] at hdone ⊢
            exact disconnecting_done c (hr.disconnecting t w₂) hdone
          _ = connected w₁ \ {t.nqn} := by rw [hw₂]
          _ = connected w \ {t.nqn} := others_connecting hconnecting
      refine ⟨hafter, ?_⟩
      rw [hafter, sdiff_eq_left, Set.disjoint_singleton_right]
    · cases hrun

/-! ## A list of connections -/

/-- A program whose world is the list of the names that it has connected. -/
def lister : Runner (List String) := fun _ arguments names =>
  match arguments with
  | ["connect", "-t", _, "-a", _, "-s", _, "-n", nqn] =>
    if nqn ∈ names then (.ok { code := some 1, errors := Utf8.encode "already connected\n" }, names)
    else (.ok {}, nqn :: names)
  | ["disconnect", "-n", nqn] =>
    if nqn ∈ names then (.ok {}, names.filter (· != nqn))
    else (.ok { code := some 1, errors := Utf8.encode "not connected\n" }, names)
  | _ => (.error .notFound, names)

theorem keeps_lister (program : String) :
    Keeps lister program fun names => {nqn | nqn ∈ names} where
  connect t names := by
    by_cases ht : t.nqn ∈ names
    · simp only [lister, connectArguments, if_pos ht]
      exact .refused rfl
    · simp only [lister, connectArguments, if_neg ht, List.mem_cons]
      exact .made rfl
  disconnect t names := by
    by_cases ht : t.nqn ∈ names
    · simp only [lister, disconnectArguments, if_pos ht, List.mem_filter, bne_iff_ne]
      exact .removed rfl
    · simp only [lister, disconnectArguments, if_neg ht]
      exact .absent ht rfl

def blind : Watcher (List String) where
  existing _ names := (.ok none, names)
  lookup _ names := (.ok none, names)
  waitBdf bdf _ timeout names := (.error (.deviceTimeout bdf timeout), names)
  waitModel model timeout names := (.error (.deviceTimeout model timeout), names)
  waitGone _ _ names := (.ok (), names)

def volumeTarget : NvmfTarget := .ofVolume {} "vol-1"

def oneSecond : NvmeCli := { deviceTimeout := .ofSecs 1 }

/-- A target that was not connected is not connected after its device did not come, and the
connection beside it stays. -/
theorem restored_beside :
    Keeps lister oneSecond.program (fun names => {nqn | nqn ∈ names}) ∧
      (∀ model timeout names, {nqn | nqn ∈ (blind.waitModel model timeout names).2} =
        {nqn | nqn ∈ names}) ∧
      oneSecond.login lister volumeTarget ["nqn.other"] =
        (.ok (), [volumeTarget.nqn, "nqn.other"]) ∧
      ∃ names, oneSecond.connect lister blind volumeTarget ["nqn.other"] =
          (.error (.deviceTimeout "vol-1" (.ofSecs 1)), names) ∧
        {nqn | nqn ∈ names} = {nqn | nqn ∈ ["nqn.other"]} := by
  have hwatch (model : String) (timeout : Duration) (names : List String) :
      {nqn | nqn ∈ (blind.waitModel model timeout names).2} = {nqn | nqn ∈ names} := rfl
  have hlogin : oneSecond.login lister volumeTarget ["nqn.other"] =
      (.ok (), [volumeTarget.nqn, "nqn.other"]) := by decide +kernel
  have hrun : oneSecond.connect lister blind volumeTarget ["nqn.other"] =
      (.error (.deviceTimeout "vol-1" (.ofSecs 1)), ["nqn.other"]) := by decide +kernel
  refine ⟨keeps_lister oneSecond.program, hwatch, hlogin, _, hrun, ?_⟩
  obtain ⟨-, hsame⟩ | ⟨w₁, w₂, hlogin', hwait, -, hafter⟩ := restored_iff_new
    (keeps_lister oneSecond.program) hwatch volumeTarget ["nqn.other"] hrun
  · exact hsame
  · cases hlogin.symm.trans hlogin'
    cases hwait
    have hnew : volumeTarget.nqn ∉ ["nqn.other"] := by decide +kernel
    exact (hafter (by decide +kernel)).2 |>.2 hnew

/-- A target that was connected before is disconnected when its device does not come. -/
theorem not_restored_connected :
    Keeps lister oneSecond.program (fun names => {nqn | nqn ∈ names}) ∧
      (∀ model timeout names, {nqn | nqn ∈ (blind.waitModel model timeout names).2} =
        {nqn | nqn ∈ names}) ∧
      oneSecond.login lister volumeTarget [volumeTarget.nqn] = (.ok (), [volumeTarget.nqn]) ∧
      (oneSecond.disconnect lister volumeTarget [volumeTarget.nqn]).1 = .ok () ∧
      oneSecond.connect lister blind volumeTarget [volumeTarget.nqn] =
        (.error (.deviceTimeout "vol-1" (.ofSecs 1)), []) := by
  refine ⟨keeps_lister oneSecond.program, fun _ _ _ => rfl, ?_, ?_, ?_⟩
  · decide +kernel
  · decide +kernel
  · decide +kernel

end NvmeCli
end OffloadVolume
