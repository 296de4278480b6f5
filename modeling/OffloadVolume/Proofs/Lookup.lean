import OffloadVolume.Host.Sysfs

/-!
# Looking devices up by their function

The block devices of a function are candidates in a fixed order: the namespaces of its NVMe
controllers, then the disks of its virtio devices, each directory in the order of its names. Main
statement: `Sysfs.findByBdf_iff`, the first candidate of the model is found, unless one of the
directories cannot be read.
-/

namespace OffloadVolume

/-! ## Reading directories -/

namespace Files

/-- A directory is read: its names are these, in their order, or it does not exist and has none. -/
inductive Lists (f : Files) (path : String) : List String → Prop where
  | entries {entries : List (String × FileTree)} {names : List String}
    (here : f.find path = .ok (.dir entries)) (all : names.Perm (entries.map (·.1)))
    (sorted : names.Pairwise (· ≤ ·)) : Lists f path names
  | missing (gone : f.find path = .error .notFound) : Lists f path []

inductive Unlisted (f : Files) (path : String) : Fault → Prop where
  | unreachable {fault : Fault} (lost : f.find path = .error fault) (other : fault ≠ .notFound) :
    Unlisted f path fault
  | file {content : List UInt8} (here : f.find path = .ok (.file content)) :
    Unlisted f path .notDirectory

def namesIn (f : Files) (path : String) : List String :=
  match f.names path with
  | .ok names => names
  | .error _ => []

def unlisted? (f : Files) (path : String) : Option Fault :=
  match f.names path with
  | .ok _ | .error .notFound => none
  | .error fault => some fault

variable {f : Files} {path : String}

theorem sorted_mergeSort (names : List String) :
    (names.mergeSort fun a b => decide (a ≤ b)).Pairwise (· ≤ ·) := by
  have htrans : ∀ a b c : String, decide (a ≤ b) = true → decide (b ≤ c) = true →
      decide (a ≤ c) = true := by
    simp only [decide_eq_true_eq]
    exact fun a b c => String.le_trans
  have htotal : ∀ a b : String, (decide (a ≤ b) || decide (b ≤ a)) = true := by
    simp only [Bool.or_eq_true, decide_eq_true_eq]
    exact String.le_total
  simpa only [decide_eq_true_eq] using List.pairwise_mergeSort htrans htotal names

theorem unlisted?_eq_some_iff {fault : Fault} :
    f.unlisted? path = some fault ↔ f.Unlisted path fault := by
  unfold unlisted? names
  constructor
  · intro h
    cases hfind : f.find path with
    | error other =>
      rw [hfind] at h
      cases other <;> cases h <;> exact .unreachable hfind nofun
    | ok t =>
      rw [hfind] at h
      cases t <;> cases h
      exact .file hfind
  · rintro (⟨lost, other⟩ | ⟨here⟩)
    · rw [lost]
      cases fault <;> first | rfl | exact absurd rfl other
    · rw [here]
      rfl

/-- A directory that can be read lists its names. -/
theorem unlisted?_eq_none_iff : f.unlisted? path = none ↔ f.Lists path (f.namesIn path) := by
  unfold unlisted? namesIn names
  cases hfind : f.find path with
  | error fault =>
    constructor
    · intro h
      cases fault <;> cases h
      exact .missing hfind
    · rintro (⟨here, -, -⟩ | ⟨gone⟩)
      · cases here.symm.trans hfind
      · cases gone.symm.trans hfind
        rfl
  | ok t =>
    cases t with
    | file content =>
      refine ⟨nofun, ?_⟩
      rintro (⟨here, -, -⟩ | ⟨gone⟩)
      · cases here.symm.trans hfind
      · cases gone.symm.trans hfind
    | dir entries =>
      exact ⟨fun _ => .entries hfind (List.mergeSort_perm _ _) (sorted_mergeSort _), fun _ => rfl⟩

end Files

namespace Sysfs

/-! ## Candidates -/

/-- What is computed, unless there is a fault. -/
def outcome {α : Type} : Option Fault → α → Except AttachError α
  | none, a => .ok a
  | some fault, _ => .error (.io fault)

section

variable {α β : Type}

theorem outcome_map (fault? : Option Fault) (a : α) (g : α → β) :
    (do let a ← outcome fault? a; return g a) = outcome fault? (g a) := by
  cases fault? <;> rfl

/-- Of two computations in turn, the fault of the first counts if there is one. -/
theorem outcome_bind (fault? : Option Fault) (a : α) (other? : α → Option Fault) (g : α → β) :
    (do let a ← outcome fault? a; outcome (other? a) (g a)) =
      outcome (fault?.or (other? a)) (g a) := by
  cases fault? <;> rfl

theorem outcome_eq_ok {fault? : Option Fault} {a b : α} (h : outcome fault? a = .ok b) :
    fault? = none ∧ a = b := by
  cases fault? with
  | none => exact ⟨rfl, Except.ok.inj h⟩
  | some fault => cases h

theorem findSome?_cons_eq_or (fault? : α → Option Fault) (x : α) (xs : List α) :
    (x :: xs).findSome? fault? = (fault? x).or (xs.findSome? fault?) := by
  rw [List.findSome?_cons]
  cases fault? x <;> rfl

-- What the later elements come to does not matter after a fault, so it need not be left out.
/-- Values are computed one after another up to the first fault, so that the faults and the values
can be told apart. -/
theorem outcome_mapM (fault? : α → Option Fault) (g : α → β) (xs : List α) :
    xs.mapM (fun x => outcome (fault? x) (g x)) = outcome (xs.findSome? fault?) (xs.map g) := by
  induction xs with
  | nil => rfl
  | cons x xs ih =>
    rw [List.mapM_cons, ih, List.findSome?_cons]
    cases fault? x with
    | none => exact outcome_map _ (xs.map g) (g x :: ·)
    | some fault => rfl

end

/-- A directory that cannot be read is a fault; apart from that it has the names that it shows. -/
theorem entryNames_eq (f : Files) (path : String) :
    entryNames f path = outcome (f.unlisted? path) (f.namesIn path) := by
  unfold entryNames Files.unlisted? Files.namesIn
  cases f.names path with
  | ok names => rfl
  | error fault => cases fault <;> rfl

variable (s : Sysfs) (f : Files) (bdf : String)

def nvmePath : String := Path.join (s.functionPath bdf) "nvme"

def controllerPath (controller : String) : String :=
  Path.joinAll (s.functionPath bdf) ["nvme", controller]

def diskPath (device : String) : String := Path.joinAll (s.functionPath bdf) [device, "block"]

def virtioDevices : List String :=
  (f.namesIn (s.functionPath bdf)).filter (startsWith "virtio")

/-- The directories that are read to find the block devices of a function, in this order. -/
def directories : List String :=
  s.nvmePath bdf :: (f.namesIn (s.nvmePath bdf)).map (s.controllerPath bdf) ++
    s.functionPath bdf :: (s.virtioDevices f bdf).map (s.diskPath bdf)

/-- The block devices of a function in the order in which they are looked at. -/
def candidates : List String :=
  (f.namesIn (s.nvmePath bdf)).flatMap (fun controller =>
    (f.namesIn (s.controllerPath bdf controller)).filter (startsWith (controller ++ "n"))) ++
  (s.virtioDevices f bdf).flatMap fun device => f.namesIn (s.diskPath bdf device)

theorem namespacesOf_eq : s.namespacesOf f bdf =
    outcome ((s.nvmePath bdf :: (f.namesIn (s.nvmePath bdf)).map (s.controllerPath bdf)).findSome?
      f.unlisted?)
    ((f.namesIn (s.nvmePath bdf)).flatMap fun controller =>
      (f.namesIn (s.controllerPath bdf controller)).filter (startsWith (controller ++ "n"))) := by
  simp only [namespacesOf, entryNames_eq, outcome_map, outcome_mapM]
  rw [findSome?_cons_eq_or, List.findSome?_map, List.flatMap_def]
  exact outcome_bind _ _ _ _

theorem disksOf_eq : s.disksOf f bdf =
    outcome ((s.functionPath bdf :: (s.virtioDevices f bdf).map (s.diskPath bdf)).findSome?
      f.unlisted?)
    ((s.virtioDevices f bdf).flatMap fun device => f.namesIn (s.diskPath bdf device)) := by
  simp only [disksOf, entryNames_eq, outcome_map, outcome_mapM]
  rw [findSome?_cons_eq_or, List.findSome?_map, List.flatMap_def]
  exact outcome_bind _ _ _ _

/-- The block devices of a function are its candidates, unless a directory cannot be read. -/
theorem blocksOf_eq : s.blocksOf f bdf =
    outcome ((s.directories f bdf).findSome? f.unlisted?) (s.candidates f bdf) := by
  simp only [blocksOf, namespacesOf_eq, disksOf_eq, outcome_map]
  rw [directories, List.findSome?_append]
  exact outcome_bind _ _ _ _

/-! ## The first candidate -/

variable {s f bdf} {model : Option String}

/-- The model of a block device is the text of its model file without the white space around. -/
theorem modelOf_eq_some_iff {block m : String} : s.modelOf f block = some m ↔
    ∃ text, f.text (Path.joinAll s.root ["block", block, "device/model"]) = .ok text ∧
      Text.Trims text.toList m.toList := by
  unfold modelOf
  cases f.text (Path.joinAll s.root ["block", block, "device/model"]) with
  | error fault => simp
  | ok text =>
    simp only [Option.some.injEq, Except.ok.injEq, exists_eq_left', Text.trims_iff, Text.trim]
    constructor
    · rintro rfl
      rw [String.toList_ofList]
    · intro h
      rw [← h, String.ofList_toList]

variable (s f) in
/-- A block device is of the model that is looked for; without a model every one is. -/
def Fits (model : Option String) (block : String) : Prop :=
  ∀ m ∈ model, ∃ text,
    f.text (Path.joinAll s.root ["block", block, "device/model"]) = .ok text ∧
      Text.Trims text.toList m.toList

/-- A block device whose model cannot be read is of no model. -/
theorem not_fits_of_error {block m : String} {fault : Fault}
    (h : f.text (Path.joinAll s.root ["block", block, "device/model"]) = .error fault) :
    ¬ s.Fits f (some m) block := by
  intro hfits
  obtain ⟨text, htext, -⟩ := hfits m rfl
  cases h.symm.trans htext

variable (s f bdf model) in
/-- What a lookup by function comes to. The directories are read in their order, and the first one
that cannot be read decides; if all of them are read, the first candidate of the model does. -/
inductive Finds : Except AttachError (Option String) → Prop where
  | fault {before after : List String} {path : String} {fault : Fault}
    (order : s.directories f bdf = before ++ path :: after)
    (earlier : ∀ p ∈ before, f.Lists p (f.namesIn p)) (lost : f.Unlisted path fault) :
    Finds (.error (.io fault))
  | device {before after : List String} {block : String}
    (readable : ∀ p ∈ s.directories f bdf, f.Lists p (f.namesIn p))
    (order : s.candidates f bdf = before ++ block :: after)
    (earlier : ∀ b ∈ before, ¬ s.Fits f model b) (fits : s.Fits f model block) :
    Finds (.ok (some (s.node block)))
  | nothing (readable : ∀ p ∈ s.directories f bdf, f.Lists p (f.namesIn p))
    (unfit : ∀ b ∈ s.candidates f bdf, ¬ s.Fits f model b) : Finds (.ok none)

variable (s f model) in
def fits? (block : String) : Bool :=
  match model with
  | none => true
  | some _ => s.modelOf f block == model

theorem fits?_iff {block : String} : s.fits? f model block = true ↔ s.Fits f model block := by
  cases model with
  | none => exact ⟨fun _ _ hm => (nomatch hm), fun _ => rfl⟩
  | some m =>
    rw [fits?, beq_iff_eq, modelOf_eq_some_iff]
    exact ⟨fun h m' hm' => Option.mem_some_iff.1 hm' ▸ h, fun h => h m rfl⟩

/-- The faults come first, and do not depend on the model; then the first candidate of the model is
taken. -/
theorem findByBdf_eq : s.findByBdf f bdf model =
    outcome ((s.directories f bdf).findSome? f.unlisted?)
      (((s.candidates f bdf).find? (s.fits? f model)).map s.node) := by
  rw [findByBdf, blocksOf_eq]
  exact outcome_map _ _ _

theorem findSome?_unlisted?_eq_none_iff : (s.directories f bdf).findSome? f.unlisted? = none ↔
    ∀ p ∈ s.directories f bdf, f.Lists p (f.namesIn p) := by
  simp only [List.findSome?_eq_none_iff, Files.unlisted?_eq_none_iff]

/-- Each lookup by function comes to what it should. -/
theorem finds_findByBdf : s.Finds f bdf model (s.findByBdf f bdf model) := by
  rw [findByBdf_eq]
  cases hread : (s.directories f bdf).findSome? f.unlisted? with
  | some fault =>
    obtain ⟨before, path, after, order, lost, earlier⟩ := List.findSome?_eq_some_iff.1 hread
    exact .fault order (fun p hp => Files.unlisted?_eq_none_iff.1 (earlier p hp))
      (Files.unlisted?_eq_some_iff.1 lost)
  | none =>
    have readable := findSome?_unlisted?_eq_none_iff.1 hread
    cases hfind : (s.candidates f bdf).find? (s.fits? f model) with
    | none =>
      exact .nothing readable fun b hb hfits => List.find?_eq_none.1 hfind b hb (fits?_iff.2 hfits)
    | some block =>
      obtain ⟨hfits, before, after, order, earlier⟩ := List.find?_eq_some_iff_append.1 hfind
      refine .device readable order (fun b hb hfits => ?_) (fits?_iff.1 hfits)
      simpa [fits?_iff.2 hfits] using earlier b hb

/-- A lookup comes to one result only. -/
theorem Finds.unique {r : Except AttachError (Option String)} (h : s.Finds f bdf model r) :
    s.findByBdf f bdf model = r := by
  rw [findByBdf_eq]
  cases h with
  | fault order earlier lost =>
    rw [List.findSome?_eq_some_iff.2 ⟨_, _, _, order, Files.unlisted?_eq_some_iff.2 lost,
      fun p hp => Files.unlisted?_eq_none_iff.2 (earlier p hp)⟩]
    rfl
  | @device before after block readable order earlier fits =>
    have hbefore : ∀ b ∈ before, (!s.fits? f model b) = true := fun b hb => by
      simpa using mt fits?_iff.1 (earlier b hb)
    rw [findSome?_unlisted?_eq_none_iff.2 readable,
      List.find?_eq_some_iff_append.2 ⟨fits?_iff.2 fits, before, after, order, hbefore⟩]
    rfl
  | nothing readable unfit =>
    rw [findSome?_unlisted?_eq_none_iff.2 readable,
      List.find?_eq_none.2 fun b hb hfits => unfit b hb (fits?_iff.1 hfits)]
    rfl

/-- Looking up a device by its function gives the first candidate of the model, and nothing if no
candidate is of it; a directory that cannot be read is a fault, whatever else there is to find. -/
theorem findByBdf_iff (s : Sysfs) (f : Files) (bdf : String) (model : Option String) :
    (∀ r, s.findByBdf f bdf model = r ↔ s.Finds f bdf model r) ∧
      ∀ block m fault,
        f.text (Path.joinAll s.root ["block", block, "device/model"]) = .error fault →
          ¬ s.Fits f (some m) block :=
  ⟨fun _ => ⟨fun h => h ▸ finds_findByBdf, Finds.unique⟩, fun _ _ _ => not_fits_of_error⟩

/-! ## What was found -/

variable (s f) in
def ofModel (model : String) : List String :=
  (f.namesIn (Path.join s.root "block")).filter fun block => s.modelOf f block == some model

/-- A lookup by model takes the first block device of the model. -/
theorem findByModel_eq (model : String) : s.findByModel f model =
    outcome (f.unlisted? (Path.join s.root "block")) ((s.ofModel f model).head?.map s.node) := by
  rw [findByModel, entryNames_eq, ofModel, List.head?_filter]
  exact outcome_map _ _ _

theorem exists_cons_of_head? {blocks : List String} {path : String}
    (h : blocks.head?.map s.node = some path) :
    ∃ block rest, blocks = block :: rest ∧ s.node block = path := by
  cases blocks with
  | nil => cases h
  | cons block rest => exact ⟨block, rest, rfl, Option.some.inj h⟩

/-- What is found by a model is the first block device of the model. -/
theorem ofModel_of_findByModel {model path : String}
    (h : s.findByModel f model = .ok (some path)) :
    ∃ block rest, s.ofModel f model = block :: rest ∧ s.node block = path := by
  rw [findByModel_eq] at h
  exact exists_cons_of_head? (outcome_eq_ok h).2

/-- What is found by a function is its first candidate of the model. -/
theorem candidates_of_findByBdf {bdf path : String} {model : Option String}
    (h : s.findByBdf f bdf model = .ok (some path)) :
    ∃ block rest, (s.candidates f bdf).filter (s.fits? f model) = block :: rest ∧
      s.node block = path := by
  rw [findByBdf_eq, ← List.head?_filter] at h
  exact exists_cons_of_head? (outcome_eq_ok h).2

end Sysfs
end OffloadVolume
