import Mathlib.Logic.Function.Basic
import OffloadVolume.Proofs.Interleaving
import OffloadVolume.Proofs.Registry
import OffloadVolume.Rehearsal.Plane

/-!
# Backends of different volumes

The identifiers of a backend's resources come from the model of its volume and from the functions it
is on, so that what it has recorded it can never share with the backend of another volume. Main
statements: `Naming.identifier_ne`, different models on different functions have different
identifiers, `Provision.upholds_owned`, a backend deletes only what it has asked for, and
`Provision.separation`, which tells backends of different volumes from two of the same one.
-/

namespace OffloadVolume

theorem Numeral.decimal_injective : Function.Injective decimal := by
  intro m n hmn
  have hdigits : Nat.toDigits 10 m = Nat.toDigits 10 n := String.ofList_injective hmn
  calc
    m = Nat.ofDigitChars 10 (Nat.toDigits 10 m) 0 := Nat.ofDigitChars_ten_toDigits.symm
    _ = Nat.ofDigitChars 10 (Nat.toDigits 10 n) 0 := by rw [hdigits]
    _ = n := Nat.ofDigitChars_ten_toDigits

/-! ## Identifiers -/

def Naming.identifier (n : Naming) (model : String) (function : Nat) : Collection → String
  | .subsystem => n.subsystemId model
  | .controller => n.controllerId function
  | .remote => n.remoteId model
  | .namespace => n.namespaceId model
  | .virtioBlk => n.virtioBlkId function

/-- Whatever the prefixes are, identifiers in one collection differ. -/
theorem Naming.identifier_ne (n : Naming) {model model' : String} (hmodel : model ≠ model')
    {function function' : Nat} (hfunction : function ≠ function') (k : Collection) :
    n.identifier model function k ≠ n.identifier model' function' k := by
  have htext : ∀ before : String, before ++ model ≠ before ++ model' :=
    fun before he => hmodel ((String.append_right_inj before).1 he)
  have hnumber : ∀ before : String,
      before ++ Numeral.decimal function ≠ before ++ Numeral.decimal function' :=
    fun before he => hfunction (Numeral.decimal_injective ((String.append_right_inj before).1 he))
  cases k with
  | subsystem => exact htext n.subsystemPrefix
  | controller => exact hnumber n.controllerPrefix
  | remote => exact htext n.remotePrefix
  | «namespace» => exact htext n.namespacePrefix
  | virtioBlk => exact hnumber n.virtioBlkPrefix

def Collection.nqn? : (k : Collection) → k.Resource → Option String
  | .subsystem, r => r.spec.map (·.nqn)
  | .remote, r => some r.subnqn
  | .controller, _ | .namespace, _ | .virtioBlk, _ => none

def Collection.hostNqn? : (k : Collection) → k.Resource → Option String
  | .remote, r => some r.hostnqn
  | .subsystem, _ | .controller, _ | .namespace, _ | .virtioBlk, _ => none

namespace Provision

/-- The qualified name that a creation gives, or that it takes from the volume. -/
def nqn? (j : Provision) (model : String) : Collection → Option String
  | .subsystem => some (j.naming.subsystemNqn model)
  | .remote => j.volume.get? "nqn"
  | .controller | .namespace | .virtioBlk => none

def hostNqn? (j : Provision) (model : String) : Collection → Option String
  | .remote => some (j.naming.hostNqn model)
  | .subsystem | .controller | .namespace | .virtioBlk => none

/-- A request is for the identifiers of a model on a function. -/
structure Identifies (j : Provision) (model : String) (function : Nat) {k : Collection}
    (request : CreateRequest k.Resource) : Prop where
  id : request.id = j.naming.identifier model function k
  nqn : request.resource.bind k.nqn? = j.nqn? model k
  hostNqn : request.resource.bind k.hostNqn? = j.hostNqn? model k

/-- What a request asks for is named after the model and the function. -/
theorem identifies_of_request {j : Provision} {model : String} (hmodel : j.volume.model = .ok model)
    {function : Nat} {h : Handles} {k : Collection} {request : CreateRequest k.Resource}
    (hr : j.request function h k = .ok request) : j.Identifies model function request := by
  cases k with
  | subsystem =>
    obtain ⟨text, htext, ⟨⟩⟩ := ok_of_bind hr
    cases hmodel.symm.trans htext
    exact ⟨rfl, rfl, rfl⟩
  | controller =>
    obtain ⟨e, -, ⟨⟩⟩ := ok_of_bind hr
    exact ⟨rfl, rfl, rfl⟩
  | remote =>
    obtain ⟨text, htext, hr⟩ := ok_of_bind hr
    cases hmodel.symm.trans htext
    obtain ⟨service, -, hr⟩ := ok_of_bind hr
    cases hs : targetService? service with
    | none =>
      rw [hs] at hr
      cases hr
    | some n =>
      rw [hs] at hr
      obtain ⟨traddr, -, hr⟩ := ok_of_bind hr
      obtain ⟨subnqn, hnqn, ⟨⟩⟩ := ok_of_bind hr
      exact ⟨rfl, (VolumeContext.get?_of_require hnqn).symm, rfl⟩
  | «namespace» =>
    obtain ⟨text, htext, ⟨⟩⟩ := ok_of_bind hr
    cases hmodel.symm.trans htext
    exact ⟨rfl, rfl, rfl⟩
  | virtioBlk =>
    obtain ⟨text, -, hr⟩ := ok_of_bind hr
    obtain ⟨e, -, ⟨⟩⟩ := ok_of_bind hr
    exact ⟨rfl, rfl, rfl⟩

end Provision

/-! ## Names of their own -/

/-- What a control plane calls the resources that it is asked for under an id: each has a name of its
own, or none has a name, which is what the empty text says. -/
def Distinctive (names : Collection → String → String) : Prop :=
  (∀ k id, names k id ≠ "") ∧ Function.Injective2 names ∨ ∀ k id, names k id = ""

/-- Different ids are recorded under different names. -/
theorem Distinctive.recordedName_injective {names : Collection → String → String}
    (hd : Distinctive names) (k : Collection) :
    Function.Injective fun id => recordedName (names k id) id := by
  intro id id' he
  obtain ⟨hne, hinj⟩ | hnone := hd
  · have hname : ∀ id, recordedName (names k id) id = names k id := fun id => by
      rw [recordedName, if_neg (by simpa using hne k id)]
    simp only [hname] at he
    exact (hinj he).2
  · have hname : ∀ id, recordedName (names k id) id = id := fun id => by
      rw [hnone]
      rfl
    simpa only [hname] using he

def Exchange.Echoes (names : Collection → String → String) : Exchange → Prop
  | ⟨.create k, request, .answered reply⟩ => k.nameOf reply = names k request.id
  | _ => True

def Plane.Echoes {σ : Type} (p : Plane σ) (names : Collection → String → String) : Prop :=
  ∀ timeout c request w, Exchange.Echoes names ⟨c, request, (p.submit timeout c request w).1⟩

def Collection.nameUnder (k : Collection) (id : String) : String := k.folder ++ "/" ++ id

namespace Collection

/-- The folder of a name ends where its first slash is. -/
theorem takeWhile_nameUnder (k : Collection) (id : String) :
    (k.nameUnder id).toList.takeWhile (· ≠ '/') = k.folder.toList := by
  have hfolder : ∀ c ∈ k.folder.toList, decide (c ≠ '/') = true :=
    List.all_eq_true.1 (by cases k <;> decide)
  rw [nameUnder, String.append_assoc, String.toList_append, List.takeWhile_append_of_pos hfolder]
  simp

theorem nameUnder_injective : Function.Injective2 nameUnder := by
  intro k l id id' he
  have hfolder : k.folder.toList = l.folder.toList := by
    rw [← takeWhile_nameUnder k id, he, takeWhile_nameUnder]
  have hkl : k = l := by
    revert hfolder
    cases k <;> cases l <;> decide
  subst hkl
  exact ⟨rfl, (String.append_right_inj _).1 he⟩

/-- Names made of a folder and an id can be told apart. -/
theorem distinctive_nameUnder : Distinctive nameUnder :=
  .inl ⟨fun k id => by cases k <;> simp [nameUnder, folder], nameUnder_injective⟩

end Collection

def Plane.refusing (calls : List Call) : Plane Unit where
  submit _ c request w :=
    let script := CallScript.refusing calls c
    (script.failure.elim (.answered (script.reply c request)) .failed, w)

theorem Plane.refusing_echoes (calls : List Call) :
    (refusing calls).Echoes Collection.nameUnder := by
  intro timeout c request w
  cases c with
  | create k =>
    by_cases hmem : Call.create k ∈ calls
    · simp [refusing, CallScript.refusing, hmem, Exchange.Echoes]
    · simp [refusing, CallScript.refusing, hmem, Exchange.Echoes, CallScript.reply,
        Collection.nameUnder]
  | delete k => trivial

/-! ## What belongs to a backend -/

/-- The ids that a model has on some functions. -/
def Provision.Owns (j : Provision) (model : String) (onFunction : Nat → Prop) (k : Collection)
    (id : String) : Prop :=
  ∃ function, onFunction function ∧ id = j.naming.identifier model function k

section

variable (names : Collection → String → String) (own : Collection → String → Prop)

/-- An exchange is about own ids: it asks for one, or deletes what is named after one. -/
inductive Exchange.Concerns : Exchange → Prop where
  | create {k : Collection} {request : CreateRequest k.Resource} (hid : own k request.id)
    (o : Outcome k.Resource) : Exchange.Concerns ⟨.create k, request, o⟩
  | delete {k : Collection} {id : String} (hid : own k id) {request : DeleteRequest}
    (hname : request.name = recordedName (names k id) id) (o : Outcome Acknowledgement) :
    Exchange.Concerns ⟨.delete k, request, o⟩

def Handles.NamedAfter (h : Handles) : Prop :=
  ∀ k name, h.get k = some name → ∃ id, own k id ∧ name = recordedName (names k id) id

variable {names own}

theorem Handles.NamedAfter.set {h : Handles} (hh : h.NamedAfter names own) {k : Collection}
    {name : Option String}
    (hname : ∀ text, name = some text → ∃ id, own k id ∧ text = recordedName (names k id) id) :
    (h.set k name).NamedAfter names own := by
  intro l text hl
  by_cases hkl : k = l
  · subst hkl
    rw [Handles.get_set_self] at hl
    exact hname text hl
  · rw [Handles.get_set_of_ne h hkl] at hl
    exact hh l text hl

end

/-- As long as creations are answered with the names of their ids, a backend asks only for what the
model of its volume has on its functions, and deletes only what it has asked for. -/
theorem Provision.upholds_owned {j : Provision} {model : String}
    (hmodel : j.volume.model = .ok model) (onFunction : Nat → Prop)
    (names : Collection → String → String) :
    j.Upholds onFunction (Exchange.Echoes names)
      (Exchange.Concerns names (j.Owns model onFunction))
      (Handles.NamedAfter names (j.Owns model onFunction)) where
  create {function} hfunction {k h} hh {request} hr o ho := by
    have hid : j.Owns model onFunction k request.id :=
      ⟨function, hfunction, (identifies_of_request hmodel hr).id⟩
    refine ⟨.create hid o, ?_⟩
    cases o with
    | answered reply =>
      refine hh.set ?_
      rintro _ ⟨⟩
      exact ⟨request.id, hid, congrArg (recordedName · request.id) ho⟩
    | failed status => exact hh
    | late => exact hh
  delete {k h} hh {name} hg o _ := by
    obtain ⟨id, hid, hname⟩ := hh k name hg
    refine ⟨.delete hid hname o, ?_⟩
    cases o with
    | answered reply => exact hh.set nofun
    | failed status => exact hh
    | late => exact hh
  forget k h hh := hh.set nofun

/-! ## Two backends -/

/-- The first exchange deletes, in some collection, what the second asks for there. -/
def Exchange.Strikes (names : Collection → String → String) (x y : Exchange) : Prop :=
  ∃ k deletion o request o', x = ⟨.delete k, deletion, o⟩ ∧ y = ⟨.create k, request, o'⟩ ∧
    deletion.name = recordedName (names k request.id) request.id

def Exchange.Contends (x y : Exchange) : Prop :=
  ∃ k request o request' o', x = ⟨.create k, request, o⟩ ∧ y = ⟨.create k, request', o'⟩ ∧
    request.id = request'.id

/-- Neither exchange deletes what the other asks for, and they do not ask for the same id. -/
structure Exchange.Apart (names : Collection → String → String) (x y : Exchange) : Prop where
  left : ¬x.Strikes names y
  right : ¬y.Strikes names x
  ids : ¬x.Contends y

section

variable {names : Collection → String → String} (hnames : Distinctive names)
  {own other : Collection → String → Prop} (hdisjoint : ∀ k id, own k id → ¬other k id)
include hdisjoint

include hnames in
/-- Who asks only for own ids does not delete what another one asks for. -/
theorem Exchange.Concerns.not_strikes {x y : Exchange} (hx : x.Concerns names own)
    (hy : y.Concerns names other) : ¬x.Strikes names y := by
  rintro ⟨k, deletion, o, request, o', rfl, rfl, hname⟩
  obtain - | ⟨hown, hown', -⟩ := hx
  obtain ⟨hother, -⟩ | - := hy
  have hid := hnames.recordedName_injective k (hown'.symm.trans hname)
  exact hdisjoint k _ hown (hid ▸ hother)

theorem Exchange.Concerns.not_contends {x y : Exchange} (hx : x.Concerns names own)
    (hy : y.Concerns names other) : ¬x.Contends y := by
  rintro ⟨k, request, o, request', o', rfl, rfl, hid⟩
  obtain ⟨hown, -⟩ | - := hx
  obtain ⟨hother, -⟩ | - := hy
  exact hdisjoint k _ hown (hid ▸ hother)

include hnames in
/-- Exchanges about disjoint ids are apart. -/
theorem Exchange.Concerns.apart {x y : Exchange} (hx : x.Concerns names own)
    (hy : y.Concerns names other) : x.Apart names y where
  left := hx.not_strikes hnames hdisjoint hy
  right := hy.not_strikes hnames (fun k id hother hown => hdisjoint k id hown hother) hx
  ids := hx.not_contends hdisjoint hy

end

namespace Provision

/-- Over any control plane whose names can be told apart, and however their calls are interleaved,
two new backends that are never on the same function keep apart from each other. -/
def Separate (c : Chain) (j j' : Provision) : Prop :=
  ∀ {σ : Type} (p : Plane σ) (names : Collection → String → String), Distinctive names →
    p.Echoes names → ∀ asks asks' : List Ask,
    (∀ f, .connect (.pciFunction f) ∈ asks → .connect (.pciFunction f) ∉ asks') →
    ∀ (w : σ) (log : List (Exchange ⊕ Exchange)), Interleaved p j.timeout j'.timeout
      (j.serveAllTask c asks .empty) (j'.serveAllTask c asks' .empty) w log →
    ∀ x y, .inl x ∈ log → .inr y ∈ log → x.Apart names y

/-- Whatever is recorded before, and whatever is answered and by whom, two creations of a chain on
one function ask in each collection that both reach for the same id, host name and qualified name;
the name that a link to a storage target leads to is the one that the volumes give. -/
def Repeats (c : Chain) (j j' : Provision) : Prop :=
  ∀ {σ σ' : Type} (p : Plane σ) (p' : Plane σ') (params : ConnectParams) (h h' : Handles) (w : σ)
    (w' : σ') (k : Collection) (request request' : CreateRequest k.Resource)
    (o o' : Outcome k.Resource),
    ⟨.create k, request, o⟩ ∈ (j.connect c p.recorded params h (w, [])).2.2.2 →
    ⟨.create k, request', o'⟩ ∈ (j'.connect c p'.recorded params h' (w', [])).2.2.2 →
    request.id = request'.id ∧
      request.resource.bind k.hostNqn? = request'.resource.bind k.hostNqn? ∧
      ((k = .remote → j.volume.get? "nqn" = j'.volume.get? "nqn") →
        request.resource.bind k.nqn? = request'.resource.bind k.nqn?)

variable {j j' : Provision} {model model' : String}

/-- Two models that are never on the same function have no id in common. -/
theorem disjoint_of_ne (hnaming : j.naming = j'.naming) (hne : model ≠ model')
    {onFunction onFunction' : Nat → Prop} (hfunctions : ∀ f, onFunction f → ¬onFunction' f)
    (k : Collection) (id : String) (hid : j.Owns model onFunction k id) :
    ¬j'.Owns model' onFunction' k id := by
  rintro ⟨function', hfunction', hid'⟩
  obtain ⟨function, hfunction, rfl⟩ := hid
  have hdistinct : function ≠ function' := by
    rintro rfl
    exact hfunctions function hfunction hfunction'
  rw [hnaming] at hid'
  exact j'.naming.identifier_ne hne hdistinct k hid'

/-- The backends of two models keep apart from each other. -/
theorem separate_of_ne (hnaming : j.naming = j'.naming) (hmodel : j.volume.model = .ok model)
    (hmodel' : j'.volume.model = .ok model') (hne : model ≠ model') (c : Chain) :
    Separate c j j' := by
  intro σ p names hnames hechoes asks asks' hfunctions w log hlog x y hx hy
  let onFunction (f : Nat) : Prop := .connect (.pciFunction f) ∈ asks
  let onFunction' (f : Nat) : Prop := .connect (.pciFunction f) ∈ asks'
  have hempty : ∀ own, Handles.NamedAfter names own .empty := fun own k name hk => by
    rw [Handles.get_empty] at hk
    cases hk
  have hleft := (upholds_owned hmodel onFunction names).serveAllTask c (fun f hf => hf)
    (hempty _)
  have hright := (upholds_owned hmodel' onFunction' names).serveAllTask c (fun f hf => hf)
    (hempty _)
  obtain ⟨hall, hall'⟩ := hlog.guaranteed hechoes hleft hright
  exact (hall x hx).apart hnames (disjoint_of_ne hnaming hne hfunctions) (hall' y hy)

/-- The creation of a chain asks only for the identifiers of the model on the function. -/
theorem identifies_of_connect (hmodel : j.volume.model = .ok model) {c : Chain} {σ : Type}
    {p : Plane σ} {params : ConnectParams} {h : Handles} {w : σ} {k : Collection}
    {request : CreateRequest k.Resource} {o : Outcome k.Resource}
    (hx : ⟨.create k, request, o⟩ ∈ (j.connect c p.recorded params h (w, [])).2.2.2) :
    ∃ function, params = .pciFunction function ∧ j.Identifies model function request := by
  have hu : j.Upholds (fun f => params = .pciFunction f) (fun _ => True)
      (fun x => ∀ k request o, x = ⟨.create k, request, o⟩ →
        ∃ function, params = .pciFunction function ∧ j.Identifies model function request)
      (fun _ => True) := {
    create := by
      rintro function hfunction k h - request hr o -
      refine ⟨?_, trivial⟩
      rintro _ _ _ ⟨⟩
      exact ⟨function, hfunction, identifies_of_request hmodel hr⟩
    delete := by
      rintro k h - name - o -
      refine ⟨?_, trivial⟩
      rintro _ _ _ ⟨⟩
    forget := fun _ _ hh => hh }
  exact hu.connect c (fun f hf => hf) trivial (fun _ _ _ => trivial) w _ hx k request o rfl

/-- The backends of one model ask for the same on the same function. -/
theorem repeats_of_eq (hnaming : j.naming = j'.naming) (hmodel : j.volume.model = .ok model)
    (hmodel' : j'.volume.model = .ok model) (c : Chain) : Repeats c j j' := by
  intro σ σ' p p' params h h' w w' k request request' o o' hx hx'
  obtain ⟨function, hparams, hi⟩ := identifies_of_connect hmodel hx
  obtain ⟨function', hparams', hi'⟩ := identifies_of_connect hmodel' hx'
  cases hparams.symm.trans hparams'
  refine ⟨?_, ?_, fun hnqn => ?_⟩
  · rw [hi.id, hi'.id, hnaming]
  · rw [hi.hostNqn, hi'.hostNqn]
    cases k <;> simp [hostNqn?, hnaming]
  · rw [hi.nqn, hi'.nqn]
    cases k with
    | subsystem => simp only [nqn?, hnaming]
    | remote => exact hnqn rfl
    | controller | «namespace» | virtioBlk => rfl

/-- Backends of different volumes keep apart; two of the same volume ask for the same. -/
theorem separation (hnaming : j.naming = j'.naming) (hmodel : j.volume.model = .ok model)
    (hmodel' : j'.volume.model = .ok model') (c : Chain) :
    (model ≠ model' → Separate c j j') ∧ (model = model' → Repeats c j j') := by
  refine ⟨fun hne => separate_of_ne hnaming hmodel hmodel' hne c, ?_⟩
  rintro rfl
  exact repeats_of_eq hnaming hmodel hmodel' c

def neighbour : Provision :=
  { Registry.provision with volume := Registry.provision.volume.insert "model" "vol-2" }

/-- The two volumes are shown at the same time, on functions 64 and 65, call by call, while no
namespace can be created. -/
def bothRefused : List (Exchange ⊕ Exchange) :=
  Task.weave (Plane.refusing [.create .namespace]) Registry.provision.timeout neighbour.timeout
    (List.replicate 7 [true, false]).flatten
    (Registry.provision.serveAllTask .nvme [.connect (.pciFunction 64)] .empty)
    (neighbour.serveAllTask .nvme [.connect (.pciFunction 65)] .empty) ()

/-- Both are taken back, and each backend deletes what is its own. -/
theorem separation_refused :
    bothRefused.map (Sum.elim Exchange.call Exchange.call) =
      [.create .subsystem, .create .subsystem, .create .controller, .create .controller,
        .create .remote, .create .remote, .create .namespace, .create .namespace,
        .delete .subsystem, .delete .subsystem, .delete .controller, .delete .controller,
        .delete .remote, .delete .remote] ∧
      (∀ x y, .inl x ∈ bothRefused → .inr y ∈ bothRefused → x.Apart Collection.nameUnder y) ∧
      Repeats .nvme neighbour neighbour := by
  have hnaming : Registry.provision.naming = neighbour.naming := rfl
  have hmodel : Registry.provision.volume.model = .ok "vol-1" := rfl
  have hmodel' : neighbour.volume.model = .ok "vol-2" := rfl
  refine ⟨by decide +kernel, ?_, (separation rfl hmodel' hmodel' .nvme).2 rfl⟩
  apply (separation hnaming hmodel hmodel' .nvme).1 (by decide)
    (Plane.refusing [.create .namespace]) Collection.nameUnder Collection.distinctive_nameUnder
    (Plane.refusing_echoes _) [.connect (.pciFunction 64)] [.connect (.pciFunction 65)] (by simp)
    () bothRefused
  exact Task.interleaved_weave _ _ _ _ _ _ _

end Provision
end OffloadVolume
