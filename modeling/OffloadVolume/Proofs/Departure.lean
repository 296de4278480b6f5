import OffloadVolume.Proofs.Lookup
import OffloadVolume.Proofs.Recognition
import OffloadVolume.Proofs.Timeline

/-!
# Devices that go away

An attachment answers the node of a block device, and a detachment looks for the block device again
before it waits until that is gone. Main statement: `Initiator.departed_of_disconnect`, what a
detachment that goes well saw disappear is the first block device that it found, which is the
attached one unless another one has taken its place.
-/

namespace OffloadVolume

/-! ## Directories -/

def FileTree.stored? : FileTree → Option (List String)
  | .file _ => none
  | .dir entries => some (entries.map (·.1))

theorem Files.names_of_stored {f : Files} {path : String} {names : List String}
    (h : (f.find path).toOption.bind FileTree.stored? = some names) :
    f.names path = .ok (names.mergeSort fun a b => decide (a ≤ b)) := by
  unfold Files.names
  cases hfind : f.find path with
  | error fault => rw [hfind] at h; cases h
  | ok t =>
    rw [hfind] at h
    cases t with
    | file content => cases h
    | dir entries => cases h; rfl

/-! ## Waiting -/

/-- While a machine waits, time passes and nothing else happens. -/
theorem Machine.later_of_awaitUntil {α τ : Type} (pause : Nat)
    (look : Machine τ → Except AttachError (Option α)) (overdue : AttachError) (deadline : Nat)
    (m : Machine τ) :
    ∃ n, (clock.awaitUntil pause look overdue deadline m).2 = m.later n := by
  fun_induction Clock.awaitUntil clock pause look overdue deadline m with
  | case1 m e he => exact ⟨0, rfl⟩
  | case2 m found hl => exact ⟨0, rfl⟩
  | case3 m hl hd => exact ⟨0, rfl⟩
  | case4 m hl hd ih =>
    obtain ⟨n, hn⟩ := ih
    refine ⟨max 1 pause + n, hn.trans ?_⟩
    have hpass : m.pass (max 1 pause) = m.later (max 1 pause) := by
      simpa using m.later_pass 0 (show 0 < max 1 pause by omega)
    rw [← later_later, ← hpass]
    rfl

namespace Sysfs

variable {s : Sysfs} {f : Files}

/-- What a wait until a path is gone saw at its end. -/
theorem absent_of_waitGone {τ : Type} {pause : Nat} {path : String} {timeout : Duration}
    {m m' : Machine τ} (h : (s.watcher pause).waitGone path timeout m = (.ok (), m')) :
    (∃ n, m' = m.later n) ∧ m'.files.isPresent path = false := by
  obtain ⟨n, hn⟩ := Machine.later_of_awaitUntil pause
    (fun m : Machine τ => .ok (if m.files.isPresent path then none else some ()))
    (.deviceNotGone path timeout) (m.now + timeout.millis) m
  refine ⟨⟨n, by rw [← hn]; exact (congrArg Prod.snd h).symm⟩, ?_⟩
  have hlook := Machine.clock.look_of_awaitUntil pause _ _ _ h
  cases hpresent : m'.files.isPresent path with
  | false => rfl
  | true => rw [hpresent] at hlook; cases hlook

/-- A wait for a path that is absent already ends at once. -/
theorem waitGone_of_absent {τ : Type} {pause : Nat} {path : String} {timeout : Duration}
    {m : Machine τ} (h : m.files.isPresent path = false) :
    (s.watcher pause).waitGone path timeout m = (.ok (), m) := by
  show Machine.clock.await pause (fun m => .ok (if m.files.isPresent path then none else some ()))
    (.deviceNotGone path timeout) timeout m = _
  rw [Clock.await, Clock.awaitUntil]
  simp only [h, Bool.false_eq_true, if_false]

/-! ## Looking for devices -/

/-- The first block device of all is found by its model. -/
theorem findByModel_of_first {block model : String} {rest : List String}
    (hnames : f.names (Path.join s.root "block") = .ok (block :: rest))
    (hmodel : s.modelOf f block = some model) :
    s.findByModel f model = .ok (some (s.node block)) := by
  have hblocks : entryNames f (Path.join s.root "block") = .ok (block :: rest) := by
    rw [entryNames, hnames]
  have hfirst : (block :: rest).find? (fun block => s.modelOf f block == some model) = some block :=
    List.find?_cons_of_pos (beq_iff_eq.2 hmodel)
  rw [findByModel, hblocks]
  exact congrArg (fun block? => Except.ok (Option.map s.node block?)) hfirst

end Sysfs

namespace Initiator

variable {β τ : Type}

/-- How an attachment came to the block device whose node it answers: it is the first one of the
model, and the recorded function stays, or the first one of the volume's on the function that is
recorded now. -/
inductive Attached (i : Initiator) (nodes : Sysfs) (f : Files) (before : Option String) :
    Option String → String → Prop where
  | existing {block : String} {rest : List String}
    (first : nodes.ofModel f i.model = block :: rest) : Attached i nodes f before before block
  | shown {bdf block : String} {rest : List String}
    (first : (nodes.candidates f bdf).filter (nodes.fits? f i.awaitedModel) = block :: rest) :
    Attached i nodes f before (some bdf) block

/-- The block devices among which a detachment takes the first one for the volume's: those of the
recorded function for a virtio-blk device, if there is one, and else those of the model. -/
def sought (i : Initiator) (nodes : Sysfs) (f : Files) (bdf : Option String) : List String :=
  match bdf, i.target.transport with
  | some bdf, .virtioBlk => nodes.candidates f bdf
  | _, _ => nodes.ofModel f i.model

section

variable {i : Initiator} {b : Backend β (Machine τ)} {tree nodes : Sysfs} {pause : Nat}
  {timeout : Duration} {r : Runner (Machine τ)} {s s' : State β} {m m' : Machine τ} {path : String}

/-- An attachment that succeeds has found its block device among those of the machine. -/
theorem attached_of_connect (hpci : i.target.transport.isPci = true)
    (hrun : i.connect b (tree.host nodes pause timeout r) s m = (.ok path, s', m')) :
    ∃ block, nodes.node block = path ∧ i.Attached nodes m'.files s.bdf s'.bdf block := by
  obtain ⟨hmodel, hbdf⟩ | ⟨bdf, hfound, hbdf⟩ := seen_of_connect hpci hrun
  · obtain ⟨block, rest, hfirst, hnode⟩ := Sysfs.ofModel_of_findByModel hmodel
    exact ⟨block, hnode, hbdf ▸ .existing hfirst⟩
  · obtain ⟨block, rest, hfirst, hnode⟩ := Sysfs.candidates_of_findByBdf hfound
    exact ⟨block, hnode, hbdf ▸ .shown hfirst⟩

/-- A detachment takes the first of the block devices that it looks for. -/
theorem sought_of_findDevice
    (hfind : i.findDevice (tree.host nodes pause timeout r) s m = (.ok (some path), m')) :
    m' = m ∧ ∃ block rest, i.sought nodes m.files s.bdf = block :: rest ∧
      nodes.node block = path := by
  unfold findDevice at hfind
  split at hfind
  · rename_i bdf hbdf hvirtio
    obtain ⟨hfound, rfl⟩ := Prod.mk.inj hfind
    have hsought : i.sought nodes m.files s.bdf = nodes.candidates m.files bdf := by
      unfold sought
      rw [hbdf, hvirtio]
    have hall : (nodes.candidates m.files bdf).filter (nodes.fits? m.files none) =
        nodes.candidates m.files bdf := List.filter_eq_self.2 fun _ _ => rfl
    obtain ⟨block, rest, hfirst, hnode⟩ := Sysfs.candidates_of_findByBdf hfound
    exact ⟨rfl, block, rest, hsought.trans (hall.symm.trans hfirst), hnode⟩
  · rename_i hother
    obtain ⟨hfound, rfl⟩ := Prod.mk.inj hfind
    have hsought : i.sought nodes m.files s.bdf = nodes.ofModel m.files i.model := by
      unfold sought
      split
      · rename_i bdf hbdf hvirtio
        exact absurd hvirtio (hother bdf hbdf)
      · rfl
    obtain ⟨block, rest, hfirst, hnode⟩ := Sysfs.ofModel_of_findByModel hfound
    exact ⟨rfl, block, rest, hsought.trans hfirst, hnode⟩

/-- A detachment that goes well found a device, asked the backend and waited for the device to go
away. -/
theorem waited_of_disconnect (hpci : i.target.transport.isPci = true) {σ : Type}
    {b : Backend β σ} {h : Host σ} {w w' : σ}
    (hrun : i.disconnect b h s w = (.ok (), s', w')) :
    ∃ path w₁ kept w₂, i.findDevice h s w = (.ok (some path), w₁) ∧
      b.disconnect s.backend w₁ = (.ok (), kept, w₂) ∧
      h.watcher.waitGone path i.deviceTimeout w₂ = (.ok (), w') := by
  simp only [disconnect, if_pos hpci] at hrun
  generalize hreached : i.disconnectPci b h s w = out at hrun
  obtain ⟨_ | _, s₁, w₁⟩ := out
  · cases hrun
  · cases hrun
    unfold disconnectPci at hreached
    generalize hfind : i.findDevice h s w = out at hreached
    obtain ⟨_ | _ | path, w₁⟩ := out
    · cases hreached
    · cases hreached
    · simp only [] at hreached
      generalize hasked : b.disconnect s.backend w₁ = out at hreached
      obtain ⟨_ | _, kept, w₂⟩ := out
      · cases hreached
      · simp only [] at hreached
        generalize hgone : h.watcher.waitGone path i.deviceTimeout w₂ = out at hreached
        obtain ⟨_ | _, w₃⟩ := out
        · cases hreached
        · cases hreached
          exact ⟨path, w₁, kept, w₂, rfl, hasked, hgone⟩

end

/-- An attachment on a function answers the node of a block device of the volume's. When the next
detachment of the same initiator goes well, the node of the block device that it met first when it
began was seen to be absent at its end, some time after the backend was asked. This is the node of
the attachment, unless the detachment met another block device first. -/
theorem departed_of_disconnect {i : Initiator} (hpci : i.target.transport.isPci = true)
    (tree nodes : Sysfs) (pause : Nat) (timeout : Duration) (r : Runner (Machine τ))
    (b : Backend β (Machine τ)) {s s' s'' : State β} {m m' m₁ m'' : Machine τ} {path : String}
    (hconnect : i.connect b (tree.host nodes pause timeout r) s m = (.ok path, s', m'))
    (hdisconnect :
      i.disconnect b (tree.host nodes pause timeout r) s' m₁ = (.ok (), s'', m'')) :
    ∃ attached found rest, nodes.node attached = path ∧
      i.Attached nodes m'.files s.bdf s'.bdf attached ∧
      i.sought nodes m₁.files s'.bdf = found :: rest ∧
      (∃ kept m₂ n, b.disconnect s'.backend m₁ = (.ok (), kept, m₂) ∧ m'' = m₂.later n) ∧
      m''.files.isPresent (nodes.node found) = false ∧
      (m''.files.isPresent path = false ∨ found ≠ attached) := by
  obtain ⟨attached, hpath, hattached⟩ := attached_of_connect hpci hconnect
  obtain ⟨gone, m₂, kept, m₃, hfind, hasked, hgone⟩ := waited_of_disconnect hpci hdisconnect
  obtain ⟨rfl, found, rest, hsought, rfl⟩ := sought_of_findDevice hfind
  obtain ⟨⟨n, hlater⟩, habsent⟩ := Sysfs.absent_of_waitGone hgone
  refine ⟨attached, found, rest, hpath, hattached, hsought, ⟨kept, m₃, n, hasked, hlater⟩, habsent,
    ?_⟩
  by_cases hsame : found = attached
  · exact .inl (hpath ▸ hsame ▸ habsent)
  · exact .inr hsame

/-- A detachment that finds its device and sees it go forgets what it remembers. -/
theorem disconnect_of_gone {σ : Type} {i : Initiator} (hpci : i.target.transport.isPci = true)
    {b : Backend β σ} {h : Host σ} {s : State β} {w w₁ w₂ w' : σ} {kept : β} {path : String}
    (hfind : i.findDevice h s w = (.ok (some path), w₁))
    (hasked : b.disconnect s.backend w₁ = (.ok (), kept, w₂))
    (hgone : h.watcher.waitGone path i.deviceTimeout w₂ = (.ok (), w')) :
    i.disconnect b h s w = (.ok (), ⟨kept, none, none⟩, w') := by
  simp only [disconnect, if_pos hpci, disconnectPci, hfind, hasked, hgone]

/-- A backend that shows its volume as `nvme1n1` behind the first function; the node goes when it
takes the volume away, unless the device is stuck. -/
def plugging (stuck : Bool) : Backend Unit (Machine Unit) where
  connect _ kept m :=
    (.ok (), kept, m.change [.write "/sys/block/nvme1n1/device/model" (Utf8.encode "vol-1\n"),
      .mkdir "/sys/bus/pci/devices/0000:01:00.0/nvme/nvme1/nvme1n1", .write "/dev/nvme1n1" []])
  disconnect kept m := (.ok (), kept, if stuck then m else m.change [.remove "/dev/nvme1n1"])

/-- A machine to which another block device of the volume's model, without a node, comes after a
second. -/
def doubling : Machine Unit :=
  { coming := [⟨1000, [.write "/sys/block/nvme0n1/device/model" (Utf8.encode "vol-1\n")]⟩],
    rest := () }

theorem connect_plugging_eval (stuck : Bool)
    (out : Except AttachError String × State Unit × Machine Unit)
    (hout : (Registry.initiator .nvme).connect (plugging stuck) services { backend := () }
      doubling = out) : out.1.toOption = some "/dev/nvme1n1" ∧
      (Sysfs.findByModel { root := "/sys" } out.2.2.files "vol-1").toOption =
        some (some "/dev/nvme1n1") ∧
      (Registry.initiator .nvme).sought { root := "/sys" } out.2.2.files out.2.1.bdf = ["nvme1n1"] ∧
      (out.2.2.change [.remove "/dev/nvme1n1"]).files.isPresent "/dev/nvme1n1" = false := by
  rw [← hout]
  cases stuck <;> decide +kernel

theorem connect_plugging (stuck : Bool) : ∃ s m,
    (Registry.initiator .nvme).connect (plugging stuck) services { backend := () } doubling =
      (.ok "/dev/nvme1n1", s, m) ∧
    Sysfs.findByModel { root := "/sys" } m.files "vol-1" = .ok (some "/dev/nvme1n1") ∧
    (Registry.initiator .nvme).sought { root := "/sys" } m.files s.bdf = ["nvme1n1"] ∧
    (m.change [.remove "/dev/nvme1n1"]).files.isPresent "/dev/nvme1n1" = false := by
  obtain ⟨hresult, hfound, honly, habsent⟩ := connect_plugging_eval stuck _ rfl
  exact ⟨_, _, Prod.ext (eq_ok_of_toOption hresult) rfl, eq_ok_of_toOption hfound, honly, habsent⟩

/-- An NVMe device is looked for by its model. -/
theorem findDevice_nvme {s : State Unit} {m : Machine Unit} {path : String}
    (h : (Sysfs.findByModel { root := "/sys" } m.files "vol-1") = .ok (some path)) :
    (Registry.initiator .nvme).findDevice services s m = (.ok (some path), m) := by
  have hlook : services.watcher.existing "vol-1" m = (.ok (some path), m) := congrArg (·, m) h
  unfold findDevice
  split
  · rename_i hvirtio
    cases hvirtio
  · exact hlook

/-- The node of a volume is absent after a detachment that took it away. -/
theorem departed_of_disconnect_plugging :
    (Registry.initiator .nvme).target.transport.isPci = true ∧
    ∃ s' m' s'' m'', (Registry.initiator .nvme).connect (plugging false) services { backend := () }
        doubling = (.ok "/dev/nvme1n1", s', m') ∧
      (Registry.initiator .nvme).disconnect (plugging false) services s' m' = (.ok (), s'', m'') ∧
      m''.files.isPresent "/dev/nvme1n1" = false := by
  obtain ⟨s', m', hconnect, hfound, honly, habsent⟩ := connect_plugging false
  have hdisconnect := disconnect_of_gone (i := Registry.initiator .nvme) (b := plugging false)
    (s := s') rfl (findDevice_nvme hfound) rfl (Sysfs.waitGone_of_absent habsent)
  obtain ⟨_, found, rest, -, -, hsought, -, hgone, -⟩ :=
    departed_of_disconnect (i := Registry.initiator .nvme) rfl { root := "/sys" } { root := "/sys" }
      200 (.ofSecs 20) (fun _ _ m => (.error .notFound, m)) (plugging false) hconnect hdisconnect
  cases honly.symm.trans hsought
  exact ⟨rfl, _, _, _, _, hconnect, hdisconnect, hgone⟩

theorem twin_plugging (out : Except AttachError String × State Unit × Machine Unit)
    (hout : (Registry.initiator .nvme).connect (plugging true) services { backend := () }
      doubling = out) :
    ((out.2.2.pass 1000).files.find "/sys/block").toOption.bind FileTree.stored? =
        some ["nvme1n1", "nvme0n1"] ∧
      Sysfs.modelOf { root := "/sys" } (out.2.2.pass 1000).files "nvme0n1" = some "vol-1" ∧
      (out.2.2.pass 1000).files.isPresent "/dev/nvme0n1" = false ∧
      (out.2.2.pass 1000).files.isPresent "/dev/nvme1n1" = true := by
  rw [← hout]
  decide +kernel

/-- Of two block devices of one model, a detachment takes the first one. When that has no node, the
detachment goes well at once, and the node of the attached device is there all the time. -/
theorem not_departed_with_twin :
    ∃ s' m' s'', (Registry.initiator .nvme).connect (plugging true) services { backend := () }
        doubling = (.ok "/dev/nvme1n1", s', m') ∧
      (Registry.initiator .nvme).disconnect (plugging true) services s' (m'.pass 1000) =
        (.ok (), s'', m'.pass 1000) ∧
      (m'.pass 1000).files.isPresent "/dev/nvme1n1" = true := by
  obtain ⟨s', m', hconnect, -⟩ := connect_plugging true
  obtain ⟨hstored, hmodel, habsent, hpresent⟩ := twin_plugging _ hconnect
  have hsorted : (["nvme1n1", "nvme0n1"].mergeSort fun a b => decide (a ≤ b)) =
      ["nvme0n1", "nvme1n1"] := by
    have hle : ¬ "nvme1n1" ≤ "nvme0n1" := by decide +kernel
    simp [List.mergeSort, List.MergeSort.Internal.splitInTwo, hle]
  have hnames := Files.names_of_stored hstored
  rw [hsorted] at hnames
  have hfound := Sysfs.findByModel_of_first (s := { root := "/sys" }) hnames hmodel
  exact ⟨s', m', _, hconnect, disconnect_of_gone rfl (findDevice_nvme hfound) rfl
    (Sysfs.waitGone_of_absent habsent), hpresent⟩

end Initiator
end OffloadVolume
