import OffloadVolume.Backend
import OffloadVolume.Host.SysfsHost
import OffloadVolume.Proofs.Directory
import OffloadVolume.Proofs.Lookup
import OffloadVolume.Proofs.Refusal
import OffloadVolume.Proofs.Registry

/-!
# Devices that are found again

A device is attached when its function shows it, and is recognized by its model afterwards. Main
statements: `Sysfs.findByModel_of_findByBdf`, a device that a function shows is found by its model in
the same tree, and `Initiator.recognized_of_connect`, an attachment that went well is found by each
later attachment and detachment.
-/

namespace OffloadVolume

/-! ## Waiting -/

namespace Clock

variable {α σ : Type} (c : Clock σ) (pause : Nat) (look : σ → Except AttachError (Option α))
  (overdue : AttachError)

/-- What a wait answers is there when it ends. -/
theorem look_of_awaitUntil (deadline : Nat) {w w' : σ} {found : α}
    (h : c.awaitUntil pause look overdue deadline w = (.ok found, w')) :
    look w' = .ok (some found) := by
  fun_induction awaitUntil c pause look overdue deadline w with
  | case1 w e he => cases h
  | case2 w found' hl => cases h; exact hl
  | case3 w hl hd => cases h
  | case4 w hl hd ih => exact ih h

/-- A wait fails because of a look, or because the time is over. -/
theorem error_of_awaitUntil (deadline : Nat) {w w' : σ} {e : AttachError}
    (h : c.awaitUntil pause look overdue deadline w = (.error e, w')) :
    look w' = .error e ∨ e = overdue := by
  fun_induction awaitUntil c pause look overdue deadline w with
  | case1 w e' he => cases h; exact .inl he
  | case2 w found hl => cases h
  | case3 w hl hd => cases h; exact .inr rfl
  | case4 w hl hd ih => exact ih h

end Clock

/-! ## Device trees -/

namespace Sysfs

variable {s : Sysfs} {f : Files}

theorem isName_of_namesIn (hf : f.Proper) (path : String) :
    ∀ name ∈ f.namesIn path, Path.IsName name := by
  unfold Files.namesIn
  cases hnames : f.names path with
  | ok names => exact hf.isName hnames
  | error fault => simp

/-- The block devices of a function have proper names. -/
theorem isName_of_candidates (hf : f.Proper) (bdf : String) :
    ∀ block ∈ s.candidates f bdf, Path.IsName block := by
  refine List.forall_mem_append.2 ⟨fun block hb => ?_, fun block hb => ?_⟩
  · obtain ⟨controller, -, hb⟩ := List.mem_flatMap.1 hb
    exact isName_of_namesIn hf _ block (List.mem_filter.1 hb).1
  · obtain ⟨device, -, hb⟩ := List.mem_flatMap.1 hb
    exact isName_of_namesIn hf _ block hb

theorem isOpen_block (s : Sysfs) : Path.IsOpen (Path.join s.root "block") :=
  Path.IsOpen.join ⟨'k', by decide, by decide⟩ s.root

/-- A block device whose model can be read is listed. -/
theorem listed_of_modelOf {block model : String} (hb : Path.IsName block)
    (h : s.modelOf f block = some model) :
    ∃ blocks, entryNames f (Path.join s.root "block") = .ok blocks ∧ block ∈ blocks := by
  have hpath : Path.joinAll s.root ["block", block, "device/model"] =
      Path.join s.root "block" ++ "/" ++ block ++ "/" ++ "device/model" := by
    have hopen : Path.IsOpen (Path.join s.root "block" ++ "/" ++ block) := hb.isOpen.append _
    simp only [Path.joinAll, List.foldl_cons, List.foldl_nil]
    rw [Path.join_of_isOpen s.isOpen_block hb.not_isAbsolute, Path.join_of_isOpen hopen (by decide)]
  unfold modelOf Files.text at h
  rw [hpath] at h
  cases hc : f.content (Path.join s.root "block" ++ "/" ++ block ++ "/" ++ "device/model") with
  | error fault => rw [hc] at h; cases h
  | ok bytes =>
    obtain ⟨blocks, hnames, hmem⟩ := Files.listed_of_content s.isOpen_block.ne_empty hb hc
    exact ⟨blocks, by rw [entryNames, hnames], hmem⟩

/-- A model that a block device has is found. -/
theorem findByModel_of_modelOf {block model : String} (hb : Path.IsName block)
    (h : s.modelOf f block = some model) :
    ∃ first, s.findByModel f model = .ok (some (s.node first)) ∧
      s.modelOf f first = some model := by
  obtain ⟨blocks, hblocks, hmem⟩ := listed_of_modelOf hb h
  have hsome : (blocks.find? fun block => s.modelOf f block == some model).isSome = true :=
    List.find?_isSome.2 ⟨block, hmem, by simpa using h⟩
  obtain ⟨first, hfirst⟩ := Option.isSome_iff_exists.1 hsome
  refine ⟨first, ?_, by simpa using List.find?_some hfirst⟩
  rw [findByModel, hblocks]
  exact congrArg (fun o => Except.ok (Option.map s.node o)) hfirst

/-- What is found by a model has that model. -/
theorem modelOf_of_findByModel {model path : String}
    (h : s.findByModel f model = .ok (some path)) :
    ∃ block, path = s.node block ∧ s.modelOf f block = some model := by
  obtain ⟨block, rest, hfirst, hnode⟩ := ofModel_of_findByModel h
  have hblock : block ∈ s.ofModel f model := hfirst ▸ List.mem_cons_self
  exact ⟨block, hnode.symm, by simpa using (List.mem_filter.1 hblock).2⟩

/-- What a function shows of a model has that model. -/
theorem modelOf_of_findByBdf (hf : f.Proper) {bdf model path : String}
    (h : s.findByBdf f bdf (some model) = .ok (some path)) :
    ∃ block, Path.IsName block ∧ path = s.node block ∧ s.modelOf f block = some model := by
  obtain ⟨block, rest, hfirst, hnode⟩ := candidates_of_findByBdf h
  have hblock : block ∈ (s.candidates f bdf).filter (s.fits? f (some model)) :=
    hfirst ▸ List.mem_cons_self
  obtain ⟨hmem, hfits⟩ := List.mem_filter.1 hblock
  exact ⟨block, isName_of_candidates hf bdf block hmem, hnode.symm, by simpa [fits?] using hfits⟩

/-- A device of a model that a function shows is found by its model. -/
theorem findByModel_of_findByBdf (hf : f.Proper) {bdf model path : String}
    (h : s.findByBdf f bdf (some model) = .ok (some path)) :
    ∃ block, s.findByModel f model = .ok (some (s.node block)) ∧
      s.modelOf f block = some model := by
  obtain ⟨block, hname, -, hmodel⟩ := modelOf_of_findByBdf hf h
  exact findByModel_of_modelOf hname hmodel

end Sysfs

/-! ## Chains -/

theorem Provision.deleteAll_ne_notFound {σ : Type} (j : Provision) (p : Plane σ) (ks : List Collection)
    (kept : Handles) (w : σ) (what : String) :
    (j.deleteAll p ks kept w).1 ≠ .error (.deviceNotFound what) := by
  induction ks generalizing kept w with
  | nil => simp [Provision.deleteAll]
  | cons k ks ih =>
    have hone : ∀ e, (j.delete p k kept w).1 = .error e → e ≠ .deviceNotFound what := by
      intro e he
      unfold Provision.delete at he
      split at he
      · cases he
      · split at he
        · cases he
          simp
        · cases he
    rw [Provision.deleteAll]
    generalize j.delete p k kept w = out at hone
    obtain ⟨e | _, kept₁, w₁⟩ := out
    · exact fun he => hone e rfl (Except.error.inj he)
    · exact ih kept₁ w₁

/-- A backend of a chain never says that a device is not there. -/
theorem Chain.backend_ne_notFound {σ : Type} (c : Chain) (j : Provision) (p : Plane σ)
    (kept : Handles) (w : σ) (what : String) :
    ((c.backend j p).disconnect kept w).1 ≠ .error (.deviceNotFound what) := by
  have hall := j.deleteAll_ne_notFound p c.teardown kept w what
  simp only [Chain.backend, Provision.disconnect]
  generalize j.deleteAll p c.teardown kept w = out at hall
  obtain ⟨e | _, kept₁, w₁⟩ := out
  · exact hall
  · simp

/-! ## Attachments -/

namespace Initiator

variable {β τ : Type}

/-- A device that an attachment on a function answers was waited for, and the function is recorded. -/
theorem waited_of_connectOn {σ : Type} {i : Initiator} {b : Backend β σ} {h : Host σ}
    {slot : PciSlot} {s s' : State β} {w w' : σ} {path : String}
    (hrun : i.connectOn b h slot s w = (.ok path, s', w')) : s'.bdf = some slot.bdf ∧
    ∃ w₁, h.watcher.waitBdf slot.bdf i.awaitedModel i.deviceTimeout w₁ = (.ok path, w') := by
  unfold connectOn at hrun
  generalize b.connect (.pciFunction slot.function) s.backend w = out at hrun
  obtain ⟨_ | _, kept, w₁⟩ := out
  · cases hrun
  · simp only [] at hrun
    generalize hwait : h.watcher.waitBdf slot.bdf i.awaitedModel i.deviceTimeout w₁ = out at hrun
    obtain ⟨_ | path', w₂⟩ := out
    · cases hrun
    · cases hrun
      exact ⟨rfl, w₁, hwait⟩

section

variable {i : Initiator} {b : Backend β (Machine τ)} {tree nodes : Sysfs} {pause : Nat}
  {timeout : Duration} {r : Runner (Machine τ)} {s s' : State β} {m m' : Machine τ} {path : String}

/-- An attachment on a function answers what was found by the model, or what the function shows that
it records. -/
theorem seen_of_connectPci
    (hrun : i.connectPci b (tree.host nodes pause timeout r) s m = (.ok path, s', m')) :
    (nodes.findByModel m'.files i.model = .ok (some path) ∧ s'.bdf = s.bdf) ∨
      ∃ bdf, nodes.findByBdf m'.files bdf i.awaitedModel = .ok (some path) ∧
        s'.bdf = some bdf := by
  have hlook : (tree.host nodes pause timeout r).watcher.existing i.model m =
      (nodes.findByModel m.files i.model, m) := rfl
  by_cases hseen : ∃ found, nodes.findByModel m.files i.model = .ok (some found)
  · obtain ⟨found, hfound⟩ := hseen
    rw [hfound] at hlook
    cases (connectPci_of_seen hlook).symm.trans hrun
    exact .inl ⟨hfound, rfl⟩
  · have hunseen := connectPci_of_unseen (b := b) (s := s) hlook fun found hf => hseen ⟨found, hf⟩
    rw [hrun] at hunseen
    generalize (tree.host nodes pause timeout r).allocator.allocate i.bridges m = out at hunseen
    obtain ⟨_ | slot, m₁⟩ := out
    · cases hunseen
    · obtain ⟨hbdf, m₂, hwait⟩ := waited_of_connectOn hunseen.symm
      exact .inr ⟨slot.bdf, Machine.clock.look_of_awaitUntil pause
        (fun m => nodes.findByBdf m.files slot.bdf i.awaitedModel) _ _ hwait, hbdf⟩

/-- After an attachment its device is seen, by its model or on the function that is remembered. -/
theorem seen_of_connect (hpci : i.target.transport.isPci = true)
    (hrun : i.connect b (tree.host nodes pause timeout r) s m = (.ok path, s', m')) :
    (nodes.findByModel m'.files i.model = .ok (some path) ∧ s'.bdf = s.bdf) ∨
      ∃ bdf, nodes.findByBdf m'.files bdf i.awaitedModel = .ok (some path) ∧
        s'.bdf = some bdf := by
  simp only [connect, if_pos hpci] at hrun
  generalize hreached : i.connectPci b (tree.host nodes pause timeout r) s m = out at hrun
  obtain ⟨_ | path', s₁, m₁⟩ := out
  · cases hrun
  · cases hrun
    have hseen := seen_of_connectPci hreached
    exact hseen

/-- After an attachment for an NVMe device, a device of the model is found by it. -/
theorem findByModel_of_connect (hi : i.target.transport = .nvme) (hf : m'.files.Proper)
    (hrun : i.connect b (tree.host nodes pause timeout r) s m = (.ok path, s', m')) :
    ∃ block, nodes.findByModel m'.files i.model = .ok (some (nodes.node block)) ∧
      nodes.modelOf m'.files block = some i.model := by
  have hpci : i.target.transport.isPci = true := by rw [hi]; rfl
  obtain ⟨hmodel, -⟩ | ⟨bdf, hbdf, -⟩ := seen_of_connect hpci hrun
  · obtain ⟨block, rfl, hblock⟩ := Sysfs.modelOf_of_findByModel hmodel
    exact ⟨block, hmodel, hblock⟩
  · rw [awaitedModel, if_pos hi] at hbdf
    exact Sysfs.findByModel_of_findByBdf hf hbdf

end

/-- A detachment that finds its device asks the backend, and it fails only if the backend does or the
device stays. -/
theorem disconnect_of_seen {σ : Type} {i : Initiator} (hpci : i.target.transport.isPci = true)
    (b : Backend β σ) (h : Host σ) {s : State β} {w w₁ : σ} {path : String} {x : Report}
    (hfind : i.findDevice h.recorded s (w, []) = (.ok (some path), w₁, [x])) :
    ∃ answer s' w' log, i.disconnect b.recorded h.recorded s (w, []) = (answer, s', w',
        x :: ⟨.backendDisconnect, (b.disconnect s.backend w₁).1⟩ :: log) ∧
      ∀ e, answer = .error e → (b.disconnect s.backend w₁).1 = .error e ∨
        ∃ w₂, (h.watcher.waitGone path i.deviceTimeout w₂).1 = .error e := by
  simp only [disconnect, if_pos hpci, disconnectPci, hfind, Backend.recorded]
  generalize b.disconnect s.backend w₁ = out
  obtain ⟨e | _, kept, w₂⟩ := out
  · exact ⟨_, _, _, [], rfl, fun e' he => .inl he⟩
  · simp only [Host.recorded, Host.noted]
    generalize hgone : h.watcher.waitGone path i.deviceTimeout w₂ = out
    obtain ⟨e | _, w₃⟩ := out
    · refine ⟨_, _, _, [_], rfl, fun e' he => .inr ⟨w₂, ?_⟩⟩
      rw [hgone]
      exact he
    · exact ⟨_, _, _, [_], rfl, fun e' he => by cases he⟩

/-- What later calls do with a device that is found by its model: an attachment only looks for it,
and a detachment goes on to the backend. -/
structure Recognized (i : Initiator) (b : Backend β (Machine τ)) (h : Host (Machine τ))
    (s : State β) (m : Machine τ) (path : String) : Prop where
  attach : i.connect b.recorded h.recorded s (m, []) =
    (.ok path, { s with devicePath := some path }, m, [⟨.existing i.model, .ok (some path)⟩])
  detach : ∃ answer s' m' log, i.disconnect b h s m = (answer, s', m') ∧
    i.disconnect b.recorded h.recorded s (m, []) = (answer, s', m',
      ⟨.existing i.model, .ok (some path)⟩ ::
        ⟨.backendDisconnect, (b.disconnect s.backend m).1⟩ :: log) ∧
    ∀ what, answer = .error (.deviceNotFound what) →
      (b.disconnect s.backend m).1 = .error (.deviceNotFound what)

section

variable {i : Initiator} {b : Backend β (Machine τ)} {tree nodes : Sysfs} {pause : Nat}
  {timeout : Duration} {r : Runner (Machine τ)} {s : State β} {m : Machine τ} {path : String}

/-- A device that is found by its model is recognized by what comes next. -/
theorem recognized_of_found (hi : i.target.transport = .nvme)
    (hfound : nodes.findByModel m.files i.model = .ok (some path)) :
    Recognized i b (tree.host nodes pause timeout r) s m path := by
  have hpci : i.target.transport.isPci = true := by rw [hi]; rfl
  have hlook : (tree.host nodes pause timeout r).recorded.watcher.existing i.model (m, []) =
      (.ok (some path), m, [⟨.existing i.model, .ok (some path)⟩]) := by
    have hplain : (tree.host nodes pause timeout r).watcher.existing i.model m =
        (.ok (some path), m) := congrArg (·, m) hfound
    rw [Host.recorded_existing, hplain]
    rfl
  refine ⟨by simp only [connect, if_pos hpci, connectPci_of_seen hlook], ?_⟩
  have hfind : i.findDevice (tree.host nodes pause timeout r).recorded s (m, []) =
      (.ok (some path), m, [⟨.existing i.model, .ok (some path)⟩]) := by
    rw [← hlook, findDevice, hi]
    cases s.bdf <;> rfl
  obtain ⟨answer, s', m', log, hrun, herror⟩ :=
    disconnect_of_seen hpci b (tree.host nodes pause timeout r) hfind
  have hover := disconnect_over b.recorded_over
    (tree.host nodes pause timeout r).recorded_over i s (m, [])
  rw [hrun] at hover
  refine ⟨answer, s', m', log, hover.symm, hrun, fun what hwhat => ?_⟩
  obtain hbackend | ⟨m₂, hgone⟩ := herror _ hwhat
  · exact hbackend
  · obtain hlook | hlate := Clock.error_of_awaitUntil _ _ _ _ _ (Prod.ext hgone rfl)
    · cases hlook
    · cases hlate

end

/-- In a tree with proper names, what a function shows of a model is found by the model. After an
attachment for an NVMe device, as long as the files stay as they are, the device is found again: an
attachment asks for nothing else, and a detachment reaches the backend and does not miss the device,
unless the backend says that it does, which no backend of a chain does. -/
theorem recognized_of_connect (tree nodes : Sysfs) (pause : Nat) (timeout : Duration)
    (r : Runner (Machine τ)) :
    (∀ f : Files, f.Proper → ∀ bdf model path,
      nodes.findByBdf f bdf (some model) = .ok (some path) →
        ∃ block, nodes.findByModel f model = .ok (some (nodes.node block)) ∧
          nodes.modelOf f block = some model) ∧
    (∀ (i : Initiator) (b : Backend β (Machine τ)) (s s' : State β) (m m' m'' : Machine τ) path,
      i.target.transport = .nvme →
      i.connect b (tree.host nodes pause timeout r) s m = (.ok path, s', m') → m'.files.Proper →
      m''.files = m'.files →
        ∃ block, nodes.modelOf m''.files block = some i.model ∧
          Recognized i b (tree.host nodes pause timeout r) s' m'' (nodes.node block)) ∧
    ∀ (c : Chain) (j : Provision) (p : Plane (Machine τ)) kept w what,
      ((c.backend j p).disconnect kept w).1 ≠ .error (.deviceNotFound what) := by
  refine ⟨fun f hf bdf model path h => Sysfs.findByModel_of_findByBdf hf h, ?_, ?_⟩
  · intro i b s s' m m' m'' path hi hrun hf hfiles
    obtain ⟨block, hfound, hblock⟩ := findByModel_of_connect hi hf hrun
    rw [← hfiles] at hfound hblock
    exact ⟨block, hblock, recognized_of_found hi hfound⟩
  · intro c j p kept w what
    exact c.backend_ne_notFound j p kept w what

def showing : Backend Unit (Machine Unit) where
  connect _ kept m :=
    (.ok (), kept, m.change [.write "/sys/block/nvme0n1/device/model" (Utf8.encode "vol-1\n"),
      .mkdir "/sys/bus/pci/devices/0000:01:00.0/nvme/nvme0/nvme0n1"])
  disconnect kept m := (.ok (), kept, m.change [.remove "/sys/block/nvme0n1"])

def services : Host (Machine Unit) := Sysfs.hostOf {} fun _ _ m => (.error .notFound, m)

theorem eq_ok_of_toOption {ε α : Type} {x : Except ε α} {a : α} (h : x.toOption = some a) :
    x = .ok a := by
  cases x with
  | error e => cases h
  | ok b => exact congrArg _ (Option.some.inj h)

theorem connect_showing (out : Except AttachError String × State Unit × Machine Unit)
    (hout : (Registry.initiator .nvme).connect showing services { backend := () } { rest := () } =
      out) : out.1.toOption = some "/dev/nvme0n1" ∧ out.2.2.files.Proper ∧
      (Sysfs.findByBdf { root := "/sys" } out.2.2.files "0000:01:00.0" (some "vol-1")).toOption =
        some (some "/dev/nvme0n1") := by
  rw [← hout]
  decide +kernel

/-- A volume that appears where it is attached is found again. -/
theorem recognized_of_connect_showing :
    (Registry.initiator .nvme).target.transport = .nvme ∧
    ∃ path s m, (Registry.initiator .nvme).connect showing services { backend := () }
        { rest := () } = (.ok path, s, m) ∧ m.files.Proper ∧
      Sysfs.findByBdf { root := "/sys" } m.files "0000:01:00.0" (some "vol-1") = .ok (some path) ∧
      (∃ found, Sysfs.findByModel { root := "/sys" } m.files "vol-1" = .ok (some found)) ∧
      ∃ found, Recognized (Registry.initiator .nvme) showing services s m found := by
  obtain ⟨hresult, hproper, hbdf⟩ := connect_showing _ rfl
  obtain ⟨hfound, hagain, -⟩ := recognized_of_connect (β := Unit) { root := "/sys" }
    { root := "/sys" } 200 (.ofSecs 20) fun _ _ (m : Machine Unit) => (.error .notFound, m)
  have hconnect : (Registry.initiator .nvme).connect showing services { backend := () }
      { rest := () } = (.ok "/dev/nvme0n1", _, _) := Prod.ext (eq_ok_of_toOption hresult) rfl
  obtain ⟨block, hmodel, -⟩ := hfound _ hproper _ _ _ (eq_ok_of_toOption hbdf)
  obtain ⟨found, -, hrecognized⟩ := hagain _ showing _ _ _ _ _ _ rfl hconnect hproper rfl
  exact ⟨rfl, _, _, _, hconnect, hproper, eq_ok_of_toOption hbdf, ⟨_, hmodel⟩, _, hrecognized⟩

end Initiator
end OffloadVolume
