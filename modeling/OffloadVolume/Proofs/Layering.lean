import OffloadVolume.Config.File
import OffloadVolume.Proofs.Linking

/-!
# Layers of a configuration

What the environment sets counts before what the file gives, and that before the default. Main
statement: `Config.loadFile_eq_iff`, which configuration a program has, and which of the reasons
against it counts when it has none: the file first, then the variables in their order, then the
bound on the bridges.
-/

namespace OffloadVolume

/-! ## Numbers in variables -/

/-- White space aside, a text is the decimal numeral of a number within a bound. -/
def Numeral.Holds (raw : String) (bound n : Nat) : Prop :=
  ∃ text : String, Text.Trims raw.toList text.toList ∧ Writes text n ∧ n ≤ bound

/-- A number is read exactly from its decimal numerals within the bound. -/
theorem Numeral.unsigned?_trimChars_iff {raw : String} {bound n : Nat} :
    unsigned? 10 bound (Text.trimChars raw.toList) = some n ↔ Holds raw bound n := by
  constructor
  · intro h
    have htext : (Text.trim raw).toList = Text.trimChars raw.toList := String.toList_ofList
    rw [← htext] at h
    exact ⟨Text.trim raw, Text.trims_iff.2 htext, writes_of_unsigned? h⟩
  · rintro ⟨text, htrims, hw, hle⟩
    rw [← Text.trims_iff.1 htrims]
    exact unsigned?_of_writes hw hle

namespace Config

variable {env : Environment} {key : String} {bound below n : Nat}

def Readable (env : Environment) (v : String × Nat) : Prop :=
  ∀ raw, env v.1 = some raw → ∃ n, Numeral.Holds raw v.2 n

/-- The number that a variable holds, and if it is not set the number below it. -/
inductive Sets (env : Environment) (key : String) (bound below : Nat) : Nat → Prop where
  | set {raw : String} {n : Nat} (here : env key = some raw)
    (holds : Numeral.Holds raw bound n) : Sets env key bound below n
  | unset (missing : env key = none) : Sets env key bound below below

theorem Sets.numberOr_eq (h : Sets env key bound below n) :
    numberOr env key bound below = .ok n := by
  cases h with
  | set here holds =>
    simp only [numberOr, here, readNumber, Numeral.unsigned?_trimChars_iff.2 holds]
  | unset missing => simp only [numberOr, missing]

theorem exists_sets (h : Readable env (key, bound)) (below : Nat) :
    ∃ n, Sets env key bound below n := by
  cases hraw : env key with
  | none => exact ⟨below, .unset hraw⟩
  | some raw =>
    obtain ⟨n, hn⟩ := h raw hraw
    exact ⟨n, .set hraw hn⟩

/-- A variable that is set but holds no such number is reported. -/
theorem numberOr_of_not_holds {raw : String} (hraw : env key = some raw)
    (h : ∀ n, ¬ Numeral.Holds raw bound n) :
    numberOr env key bound below = .error (.config (.notNumber key raw)) := by
  have hnone : Numeral.unsigned? 10 bound (Text.trimChars raw.toList) = none :=
    Option.eq_none_iff_forall_ne_some.2 fun n hn => h n (Numeral.unsigned?_trimChars_iff.1 hn)
  simp only [numberOr, hraw, readNumber, hnone]

/-! ## Layers -/

structure NamingLayered (p : NamingPatch) (n : Naming) : Prop where
  remotePrefix : n.remotePrefix = p.remotePrefix.getD "spckcsi-"
  hostNqnPrefix :
    n.hostNqnPrefix = p.hostNqnPrefix.getD "nqn.2023-04.io.spdk.csi:remote.controller:uuid:"
  subsystemPrefix : n.subsystemPrefix = p.subsystemPrefix.getD "spdkcsi-"
  subsystemNqnPrefix :
    n.subsystemNqnPrefix = p.subsystemNqnPrefix.getD "nqn.2016-06.io.spdk.csi:subsystem:uuid:"
  controllerPrefix : n.controllerPrefix = p.controllerPrefix.getD "spdkcsi-"
  namespacePrefix : n.namespacePrefix = p.namespacePrefix.getD "spdcksi-"
  virtioBlkPrefix : n.virtioBlkPrefix = p.virtioBlkPrefix.getD "virtioBlk."

theorem namingLayered_iff {p : NamingPatch} {n : Naming} : NamingLayered p n ↔ n = p.over {} := by
  constructor
  · rintro ⟨h₁, h₂, h₃, h₄, h₅, h₆, h₇⟩
    cases n
    simp_all [NamingPatch.over]
  · rintro rfl
    constructor <;> rfl

structure TcpLayered (p : TcpTargetPatch) (t : TcpTarget) : Prop where
  transport : t.transport = p.transport.getD "tcp"
  addr : t.addr = p.addr.getD "127.0.0.1"
  port : t.port = p.port.getD 4421
  nqnPrefix : t.nqnPrefix = p.nqnPrefix.getD "nqn.2022-04.io.spdk.csi:cnode0:uuid:"

theorem tcpLayered_iff {p : TcpTargetPatch} {t : TcpTarget} : TcpLayered p t ↔ t = p.over {} := by
  constructor
  · rintro ⟨h₁, h₂, h₃, h₄⟩
    cases t
    simp_all [TcpTargetPatch.over]
  · rintro rfl
    constructor <;> rfl

/-- The fields of a configuration: what the environment sets, what the file gives, and the defaults.
-/
structure Layered (env : Environment) (p : ConfigPatch) (c : Config) : Prop where
  callTimeout :
    Sets env "XPU_CALL_TIMEOUT_SECS" Numeral.max64 (p.callTimeoutSecs.getD 60) c.callTimeoutSecs
  deviceTimeout :
    Sets env "XPU_DEVICE_TIMEOUT_SECS" Numeral.max64 (p.deviceTimeoutSecs.getD 20)
      c.deviceTimeoutSecs
  bridges : Sets env "XPU_KVM_PCI_BRIDGES" Numeral.max32 (p.bridges.getD 1) c.bridges
  sysfsRoot : c.sysfsRoot = (env "XPU_SYSFS_ROOT").getD (p.sysfsRoot.getD "/sys")
  pollMillis : c.pollMillis = p.pollMillis.getD 200
  naming : NamingLayered p.naming c.naming
  tcp : TcpLayered p.tcp c.tcp

/-- The variables that hold numbers, with their bounds, in the order in which they are read. -/
def numericVariables : List (String × Nat) :=
  [("XPU_CALL_TIMEOUT_SECS", Numeral.max64), ("XPU_DEVICE_TIMEOUT_SECS", Numeral.max64),
   ("XPU_KVM_PCI_BRIDGES", Numeral.max32)]

variable {p : ConfigPatch} {c : Config}

/-- There is one way to lay the environment over the file, and the bound is left to check. -/
theorem Layered.applyEnvironment_eq (h : Layered env p c) :
    applyEnvironment env p.toConfig = do c.validate; return c := by
  obtain ⟨hcall, hdevice, hbridges, hroot, hpoll, hnaming, htcp⟩ := h
  have hc : numberOr env _ _ p.toConfig.callTimeoutSecs = _ := hcall.numberOr_eq
  have hd : numberOr env _ _ p.toConfig.deviceTimeoutSecs = _ := hdevice.numberOr_eq
  have hb : numberOr env _ _ p.toConfig.bridges = _ := hbridges.numberOr_eq
  have hlayered : Config.mk c.callTimeoutSecs c.deviceTimeoutSecs p.toConfig.pollMillis c.bridges
      ((env "XPU_SYSFS_ROOT").getD p.toConfig.sysfsRoot) p.toConfig.naming p.toConfig.tcp = c := by
    cases c
    rw [namingLayered_iff] at hnaming
    rw [tcpLayered_iff] at htcp
    simp only at hroot hpoll hnaming htcp
    rw [hroot, hpoll, hnaming, htcp]
    rfl
  rw [applyEnvironment, hc, hd, hb]
  exact congrArg (fun c : Config => do c.validate; return c) hlayered

/-- If every variable can be read, there is a configuration. -/
theorem exists_layered (h : ∀ v ∈ numericVariables, Readable env v) (p : ConfigPatch) :
    ∃ c, Layered env p c := by
  simp only [numericVariables, List.forall_mem_cons, List.not_mem_nil] at h
  obtain ⟨hcall, hdevice, hbridges, -⟩ := h
  obtain ⟨callTimeoutSecs, hc⟩ := exists_sets hcall (p.callTimeoutSecs.getD 60)
  obtain ⟨deviceTimeoutSecs, hd⟩ := exists_sets hdevice (p.deviceTimeoutSecs.getD 20)
  obtain ⟨bridges, hb⟩ := exists_sets hbridges (p.bridges.getD 1)
  exact ⟨⟨callTimeoutSecs, deviceTimeoutSecs, _, bridges, _, _, _⟩, hc, hd, hb, rfl, rfl,
    namingLayered_iff.2 rfl, tcpLayered_iff.2 rfl⟩

/-- A variable that cannot be read decides if those before it can be. -/
theorem applyEnvironment_of_unreadable {before after : List (String × Nat)} {key raw : String}
    {bound : Nat} (order : numericVariables = before ++ (key, bound) :: after)
    (earlier : ∀ v ∈ before, Readable env v) (hraw : env key = some raw)
    (unread : ∀ n, ¬ Numeral.Holds raw bound n) (c : Config) :
    applyEnvironment env c = .error (.config (.notNumber key raw)) := by
  have hfirst (below : Nat) : numberOr env key bound below = _ := numberOr_of_not_holds hraw unread
  -- It is the first, the second or the third variable; there is no fourth one.
  obtain _ | ⟨v₁, _ | ⟨v₂, _ | ⟨v₃, before⟩⟩⟩ := before
  · cases order
    rw [applyEnvironment, hfirst]
    rfl
  · cases order
    obtain ⟨_, hcall⟩ := exists_sets (earlier _ List.mem_cons_self) c.callTimeoutSecs
    rw [applyEnvironment, hcall.numberOr_eq, hfirst]
    rfl
  · cases order
    obtain ⟨_, hcall⟩ := exists_sets (earlier _ List.mem_cons_self) c.callTimeoutSecs
    obtain ⟨_, hdevice⟩ := exists_sets (earlier _ (List.mem_cons_of_mem _ List.mem_cons_self))
      c.deviceTimeoutSecs
    rw [applyEnvironment, hcall.numberOr_eq, hdevice.numberOr_eq, hfirst]
    rfl
  · have hlength := congrArg List.length order
    simp [numericVariables] at hlength

/-! ## Files -/

variable {f : Files} {path : Option String} {name text : String}

def fields? (name text : String) : Option ConfigPatch :=
  ((ConfigFormat.ofPath name).parse? text).bind ConfigPatch.ofDocument?

theorem readPatch_of_text (hread : f.text name = .ok text) :
    readPatch f name = (fields? name text).elim (.error (.config (.malformed name))) .ok := by
  simp only [readPatch, hread, fields?]
  cases ((ConfigFormat.ofPath name).parse? text).bind ConfigPatch.ofDocument? <;> rfl

/-- What a file gives, with no more bridges than there can be; no file gives nothing. -/
inductive Accepts (f : Files) : Option String → ConfigPatch → Prop where
  | nothing : Accepts f none {}
  | file {name text : String} {p : ConfigPatch} (read : f.text name = .ok text)
    (gives : fields? name text = some p) (bounded : ∀ n ∈ p.bridges, n ≤ maxBridges) :
    Accepts f (some name) p

/-- Once the file is accepted, the environment decides. -/
theorem Accepts.loadFile_eq (h : Accepts f path p) (env : Environment) :
    loadFile f path env = applyEnvironment env p.toConfig := by
  cases h with
  | nothing => rfl
  | @file name text _ read gives bounded =>
    have hbounded : p.toConfig.validate = .ok () := by
      rw [validate_eq_ok_iff]
      cases hown : p.bridges with
      | none => simp [ConfigPatch.toConfig, ConfigPatch.over, hown, maxBridges]
      | some n => simpa [ConfigPatch.toConfig, ConfigPatch.over, hown] using bounded n hown
    rw [loadFile, Option.map_some, readPatch_of_text read, gives]
    show (do applyEnvironment env (← ofPatch p)) = _
    rw [ofPatch, hbounded]
    rfl

/-- A file with too many bridges is refused whatever the environment says. -/
theorem loadFile_of_excess {n : Nat} (hread : f.text name = .ok text)
    (hgives : fields? name text = some p) (hown : p.bridges = some n) (hover : maxBridges < n)
    (env : Environment) :
    loadFile f (some name) env = .error (.config (.tooManyBridges n maxBridges)) := by
  have hrefused : p.toConfig.validate = .error (.config (.tooManyBridges n maxBridges)) := by
    have hn : p.toConfig.bridges = n := by rw [ConfigPatch.toConfig, ConfigPatch.over, hown]; rfl
    rw [validate, hn, if_pos hover]
  rw [loadFile, Option.map_some, readPatch_of_text hread, hgives]
  show (do applyEnvironment env (← ofPatch p)) = _
  rw [ofPatch, hrefused]
  rfl

/-! ## Configurations -/

/-- What comes of a file, if there is one, and an environment. What is wrong with the file counts
first, then the first variable that cannot be read, and in the end the bound on the bridges. -/
inductive Loads (f : Files) (env : Environment) :
    Option String → Except AttachError Config → Prop where
  | unreadable {name : String} {fault : Fault} (lost : f.text name = .error fault) :
    Loads f env (some name) (.error (.config (.unreadable name fault)))
  | malformed {name text : String} (read : f.text name = .ok text)
    (garbled : fields? name text = none) :
    Loads f env (some name) (.error (.config (.malformed name)))
  | excess {name text : String} {p : ConfigPatch} {n : Nat} (read : f.text name = .ok text)
    (gives : fields? name text = some p) (own : p.bridges = some n) (above : maxBridges < n) :
    Loads f env (some name) (.error (.config (.tooManyBridges n maxBridges)))
  | notNumber {path : Option String} {p : ConfigPatch} {before after : List (String × Nat)}
    {key raw : String} {bound : Nat} (file : Accepts f path p)
    (order : numericVariables = before ++ (key, bound) :: after)
    (earlier : ∀ v ∈ before, Readable env v) (here : env key = some raw)
    (unread : ∀ n, ¬ Numeral.Holds raw bound n) :
    Loads f env path (.error (.config (.notNumber key raw)))
  | tooMany {path : Option String} {p : ConfigPatch} {c : Config} (file : Accepts f path p)
    (layered : Layered env p c) (above : maxBridges < c.bridges) :
    Loads f env path (.error (.config (.tooManyBridges c.bridges maxBridges)))
  | loaded {path : Option String} {p : ConfigPatch} {c : Config} (file : Accepts f path p)
    (layered : Layered env p c) (bounded : c.bridges ≤ maxBridges) : Loads f env path (.ok c)

/-- One thing only comes of a file and an environment. -/
theorem Loads.unique {r : Except AttachError Config} (h : Loads f env path r) :
    loadFile f path env = r := by
  cases h with
  | unreadable lost =>
    simp only [loadFile, Option.map_some, readPatch, lost]
    rfl
  | malformed read garbled =>
    rw [loadFile, Option.map_some, readPatch_of_text read, garbled]
    rfl
  | excess read gives own above => exact loadFile_of_excess read gives own above env
  | notNumber file order earlier here unread =>
    rw [file.loadFile_eq, applyEnvironment_of_unreadable order earlier here unread]
  | tooMany file layered above =>
    rw [file.loadFile_eq, layered.applyEnvironment_eq, validate, if_pos above]
    rfl
  | @loaded _ _ c file layered bounded =>
    rw [file.loadFile_eq, layered.applyEnvironment_eq, c.validate_eq_ok_iff.2 bounded]
    rfl

/-- If not every variable can be read, there is a first one that cannot be. -/
theorem exists_unreadable (h : ¬∀ v ∈ numericVariables, Readable env v) :
    ∃ before key bound after raw, numericVariables = before ++ (key, bound) :: after ∧
      (∀ v ∈ before, Readable env v) ∧ env key = some raw ∧ ∀ n, ¬ Numeral.Holds raw bound n := by
  classical
  have hsome : (numericVariables.find? fun v => !decide (Readable env v)).isSome = true := by
    rw [List.find?_isSome]
    simpa using h
  obtain ⟨⟨key, bound⟩, hfirst⟩ := Option.isSome_iff_exists.1 hsome
  obtain ⟨hunread, before, after, order, earlier⟩ := List.find?_eq_some_iff_append.1 hfirst
  have hnot : ¬ Readable env (key, bound) := by simpa using hunread
  simp only [Readable, not_forall, not_exists] at hnot
  obtain ⟨raw, hraw, hholds⟩ := hnot
  refine ⟨before, key, bound, after, raw, order, fun v hv => ?_, hraw, hholds⟩
  simpa using earlier v hv

theorem exists_loads_of_accepts (h : Accepts f path p) (env : Environment) :
    ∃ r, Loads f env path r := by
  by_cases hall : ∀ v ∈ numericVariables, Readable env v
  · obtain ⟨c, hlayered⟩ := exists_layered hall p
    by_cases hbounded : c.bridges ≤ maxBridges
    · exact ⟨_, .loaded h hlayered hbounded⟩
    · exact ⟨_, .tooMany h hlayered (Nat.lt_of_not_le hbounded)⟩
  · obtain ⟨before, key, bound, after, raw, order, earlier, hraw, hholds⟩ := exists_unreadable hall
    exact ⟨_, .notNumber h order earlier hraw hholds⟩

/-- Each file and each environment come to something. -/
theorem exists_loads (f : Files) (path : Option String) (env : Environment) :
    ∃ r, Loads f env path r := by
  cases path with
  | none => exact exists_loads_of_accepts .nothing env
  | some name =>
    cases hread : f.text name with
    | error fault => exact ⟨_, .unreadable hread⟩
    | ok text =>
      cases hgives : fields? name text with
      | none => exact ⟨_, .malformed hread hgives⟩
      | some p =>
        by_cases hbounded : ∀ n ∈ p.bridges, n ≤ maxBridges
        · exact exists_loads_of_accepts (.file hread hgives hbounded) env
        · push Not at hbounded
          obtain ⟨n, hn, hover⟩ := hbounded
          exact ⟨_, .excess hread hgives hn hover⟩

/-- A program has a configuration, or none, as the file and the environment say. -/
theorem loadFile_eq_iff (f : Files) (path : Option String) (env : Environment)
    (r : Except AttachError Config) : loadFile f path env = r ↔ Loads f env path r := by
  refine ⟨?_, Loads.unique⟩
  rintro rfl
  obtain ⟨r, hr⟩ := exists_loads f path env
  rwa [hr.unique]

-- Too many bridges in the file are an error, even where a variable would set fewer.
example : load (some (.ok { bridges := some 300 }))
    (fun key => if key = "XPU_KVM_PCI_BRIDGES" then some "4" else none) =
      .error (.config (.tooManyBridges 300 256)) := rfl

end Config
end OffloadVolume
