import Mathlib.Data.List.Induction
import Mathlib.Data.List.TakeWhile
import Mathlib.Logic.Function.Basic
import OffloadVolume.CommandLine.Context

/-!
# What options come to

A context holds under each key what the last option about it gives, unless an option is wrong: then
the first such option is reported. Main statement: `VolumeContext.ofOptions_lastWord`, when options
describe a context and which one it is, and which of them can change places.
-/

namespace OffloadVolume
namespace VolumeContext

/-! ## One option -/

/-- The first equals sign of a text stands between two parts. -/
structure Cuts (raw before after : String) : Prop where
  text : raw = before ++ "=" ++ after
  first : '=' ∉ before.toList

/-- An option gives a text to a key: the key stands before the first equals sign, with white space
around it or without, and the text after the sign. -/
def Gives (raw key value : String) : Prop :=
  ∃ before, Cuts raw before value ∧ Text.Trims before.toList key.toList

def Concerns (raw key : String) : Prop := ∃ value, Gives raw key value

/-- An option has an equals sign, and before the first one there is not only white space. -/
def InOrder (raw : String) : Prop :=
  ∃ before after, Cuts raw before after ∧ ∃ c ∈ before.toList, Text.isBlank c = false

inductive Wrong (raw : String) : OptionFault → Prop where
  | noEquals (missing : '=' ∉ raw.toList) : Wrong raw (.noEquals raw)
  | emptyKey {before after : String} (cut : Cuts raw before after)
    (blank : ∀ c ∈ before.toList, Text.isBlank c = true) : Wrong raw (.emptyKey raw)

variable {raw before after key value : String} {e : OptionFault}

theorem Cuts.toList (h : Cuts raw before after) :
    raw.toList = before.toList ++ '=' :: after.toList := by
  rw [h.text]
  simp

theorem Cuts.ne_of_mem (h : Cuts raw before after) : ∀ c ∈ before.toList, (c != '=') = true := by
  intro c hc
  simpa using ne_of_mem_of_not_mem hc h.first

theorem Cuts.takeWhile (h : Cuts raw before after) :
    raw.toList.takeWhile (· != '=') = before.toList := by
  rw [h.toList, List.takeWhile_append_of_pos h.ne_of_mem, List.takeWhile_cons_of_neg (by simp),
    List.append_nil]

theorem Cuts.dropWhile (h : Cuts raw before after) :
    raw.toList.dropWhile (· != '=') = '=' :: after.toList := by
  rw [h.toList, List.dropWhile_append_of_pos h.ne_of_mem, List.dropWhile_cons_of_neg (by simp)]

/-- There is one way to cut a text. -/
theorem Cuts.before_eq {before' after' : String} (h : Cuts raw before after)
    (h' : Cuts raw before' after') : before = before' :=
  String.toList_inj.1 (h.takeWhile.symm.trans h'.takeWhile)

theorem Cuts.mem (h : Cuts raw before after) : '=' ∈ raw.toList := by
  rw [h.toList]
  simp

/-- A text with an equals sign is cut at the first one. -/
theorem exists_cuts (h : '=' ∈ raw.toList) : ∃ before after, Cuts raw before after := by
  obtain ⟨before, after, hraw, hfirst⟩ := List.eq_append_cons_of_mem h
  refine ⟨String.ofList before, String.ofList after, ?_, by rwa [String.toList_ofList]⟩
  rw [← String.toList_inj, hraw]
  simp

/-- An option with an equals sign is about some key, if only about the empty one. -/
theorem Cuts.gives (h : Cuts raw before after) : Gives raw (Text.trim before) after :=
  ⟨before, h, Text.trims_iff.2 String.toList_ofList⟩

theorem Gives.key_eq {key' value' : String} (h : Gives raw key value) (h' : Gives raw key' value') :
    key = key' := by
  obtain ⟨before, hcut, htrims⟩ := h
  obtain ⟨before', hcut', htrims'⟩ := h'
  rw [hcut.before_eq hcut'] at htrims
  exact String.toList_inj.1 ((Text.trims_iff.1 htrims).trans (Text.trims_iff.1 htrims').symm)

theorem option_of_missing (h : '=' ∉ raw.toList) : option raw = .error (.noEquals raw) := by
  have hnone : raw.toList.dropWhile (· != '=') = [] := by
    rw [List.dropWhile_eq_nil_iff]
    intro c hc
    simpa using ne_of_mem_of_not_mem hc h
  rw [option, hnone]

/-- An option with a key is read as its entry, and one without is refused. -/
theorem option_of_gives (h : Gives raw key value) :
    option raw = if key = "" then .error (.emptyKey raw) else .ok (key, value) := by
  obtain ⟨before, hcut, htrims⟩ := h
  have hkey := Text.trims_iff.1 htrims
  have hempty : key.toList.isEmpty = true ↔ key = "" := by
    rw [List.isEmpty_iff, String.toList_eq_nil_iff]
  simp only [option, hcut.takeWhile, hcut.dropWhile, ← hkey, hempty, String.ofList_toList]

theorem inOrder_of_gives (h : Gives raw key value) (hne : key ≠ "") : InOrder raw := by
  obtain ⟨before, hcut, htrims⟩ := h
  refine ⟨before, value, hcut, ?_⟩
  by_contra hnone
  have hblank : ∀ c ∈ before.toList, Text.isBlank c = true := by simpa using hnone
  have hkey := Text.trims_iff.1 htrims
  rw [← Text.trims_iff.1 (Text.trims_nil_iff.2 hblank)] at hkey
  exact hne (String.toList_eq_nil_iff.1 hkey)

theorem wrong_of_gives_empty (h : Gives raw "" value) : Wrong raw (.emptyKey raw) := by
  obtain ⟨before, hcut, htrims⟩ := h
  exact .emptyKey hcut (Text.trims_nil_iff.1 htrims)

theorem not_inOrder_of_wrong (h : Wrong raw e) : ¬ InOrder raw := by
  rintro ⟨before, after, hcut, c, hc, hvisible⟩
  cases h with
  | noEquals missing => exact missing hcut.mem
  | emptyKey hcut' hblank =>
    rw [hcut'.before_eq hcut] at hblank
    cases (hblank c hc).symm.trans hvisible

inductive Reads (raw : String) : Except OptionFault (String × String) → Prop where
  | entry {key value : String} (inOrder : InOrder raw) (gives : Gives raw key value) :
    Reads raw (.ok (key, value))
  | fault {e : OptionFault} (wrong : Wrong raw e) : Reads raw (.error e)

/-- Each option is read as it should. -/
theorem reads_option (raw : String) : Reads raw (option raw) := by
  by_cases hequals : '=' ∈ raw.toList
  · obtain ⟨before, after, hcut⟩ := exists_cuts hequals
    have hgives := hcut.gives
    rw [option_of_gives hgives]
    by_cases hempty : Text.trim before = ""
    · rw [if_pos hempty]
      rw [hempty] at hgives
      exact .fault (wrong_of_gives_empty hgives)
    · rw [if_neg hempty]
      exact .entry (inOrder_of_gives hgives hempty) hgives
  · rw [option_of_missing hequals]
    exact .fault (.noEquals hequals)

theorem append_of_eq {text first rest : String} (before : String) (h : text = first ++ rest) :
    before ++ text = before ++ first ++ rest := by
  rw [h, String.append_assoc]

/-- The text of a fault names the option as it was given. -/
theorem message_of_wrong (h : Wrong raw e) :
    ∃ reason, e.message = "invalid --context value \x60" ++ raw ++ "\x60: " ++ reason := by
  cases h with
  | noEquals missing => exact ⟨"expected format KEY=VALUE", append_of_eq _ rfl⟩
  | emptyKey cut blank => exact ⟨"key must not be empty", append_of_eq _ rfl⟩

/-! ## All options -/

/-- What options come to under a key: the text of the last one about it, or nothing if none is. -/
inductive LastWord (options : List String) (key : String) : Option String → Prop where
  | last {before after : List String} {raw value : String}
    (order : options = before ++ raw :: after) (gives : Gives raw key value)
    (later : ∀ o ∈ after, ¬ Concerns o key) : LastWord options key (some value)
  | nothing (silent : ∀ o ∈ options, ¬ Concerns o key) : LastWord options key none

/-- What options come to: if all of them are in order, the last word under each key, and otherwise
what is wrong with the first one that is not. -/
inductive Describes (options : List String) : Except OptionFault VolumeContext → Prop where
  | context {v : VolumeContext} (inOrder : ∀ o ∈ options, InOrder o)
    (texts : ∀ key, LastWord options key (v.get? key)) : Describes options (.ok v)
  | fault {before after : List String} {raw : String} {e : OptionFault}
    (order : options = before ++ raw :: after) (earlier : ∀ o ∈ before, InOrder o)
    (wrong : Wrong raw e) : Describes options (.error e)

variable {options : List String} {said : Option String} {v w : VolumeContext}
  {r : Except OptionFault VolumeContext}

theorem addOption_of_gives (h : Gives raw key value) (v : VolumeContext) :
    v.addOption raw = if key = "" then .error (.emptyKey raw) else .ok (v.insert key value) := by
  rw [addOption, option_of_gives h]
  split <;> rfl

/-- An option about something else does not change the last word. -/
theorem LastWord.concat (h : LastWord options key said) (hraw : ¬ Concerns raw key) :
    LastWord (options ++ [raw]) key said := by
  cases h with
  | last order gives later =>
    rw [order, List.append_assoc]
    exact .last rfl gives (List.forall_mem_append.2 ⟨later, List.forall_mem_singleton.2 hraw⟩)
  | nothing silent =>
    exact .nothing (List.forall_mem_append.2 ⟨silent, List.forall_mem_singleton.2 hraw⟩)

/-- One more option decides about its own key and leaves every other one as it was. -/
theorem LastWord.insert (h : ∀ key, LastWord options key (v.get? key))
    (hraw : Gives raw key value) :
    ∀ other, LastWord (options ++ [raw]) other ((v.insert key value).get? other) := by
  intro other
  rw [get?_insert]
  by_cases hkey : key = other
  · rw [if_pos hkey]
    exact .last rfl (hkey ▸ hraw) (by simp)
  · rw [if_neg hkey]
    refine (h other).concat ?_
    rintro ⟨value', hgives⟩
    exact hkey (hraw.key_eq hgives)

/-- One more option is added to what the options before come to. -/
theorem Describes.concat (h : Describes options r) (raw : String) :
    Describes (options ++ [raw]) (r.bind (addOption · raw)) := by
  cases h with
  | @context v inOrder texts =>
    show Describes _ ((option raw).map _)
    have hreads := reads_option raw
    generalize option raw = out at hreads ⊢
    cases hreads with
    | entry hraw hgives =>
      have hall := List.forall_mem_append.2 ⟨inOrder, List.forall_mem_singleton.2 hraw⟩
      exact .context hall (LastWord.insert texts hgives)
    | fault hwrong => exact .fault rfl inOrder hwrong
  | fault order earlier wrong =>
    rw [order, List.append_assoc]
    exact .fault rfl earlier wrong

theorem ofOptions_concat (options : List String) (raw : String) :
    ofOptions (options ++ [raw]) = (ofOptions options).bind (addOption · raw) := by
  rw [ofOptions_append]
  congr
  funext v
  rw [addOptions, List.foldlM_cons]
  cases v.addOption raw <;> rfl

-- An option is looked at after those before it, so the induction takes the last one off.
/-- Any options come to what they should. -/
theorem describes_ofOptions (options : List String) : Describes options (ofOptions options) := by
  induction options using List.reverseRecOn with
  | nil => exact .context (by simp) fun key => .nothing (by simp)
  | append_singleton options raw ih =>
    rw [ofOptions_concat]
    exact ih.concat raw

theorem exists_ofOptions_iff (options : List String) :
    (∃ v, ofOptions options = .ok v) ↔ ∀ o ∈ options, InOrder o := by
  have hdescribes := describes_ofOptions options
  generalize ofOptions options = r at hdescribes
  cases hdescribes with
  | @context v inOrder texts => exact ⟨fun _ => inOrder, fun _ => ⟨v, rfl⟩⟩
  | @fault before after raw e order earlier wrong =>
    have hraw : raw ∈ options := by simp [order]
    exact ⟨nofun, fun hall => absurd (hall raw hraw) (not_inOrder_of_wrong wrong)⟩

/-! ## The order of options -/

theorem get?_insert_eq_update (v : VolumeContext) (key value : String) :
    (v.insert key value).get? = Function.update v.get? key (some value) := by
  funext other
  rw [get?_insert, Function.update_apply]
  by_cases h : key = other <;> simp [h, eq_comm]

theorem addOptions_cons (v : VolumeContext) (raw : String) (options : List String) :
    v.addOptions (raw :: options) = (v.addOption raw).bind (addOptions · options) := rfl

/-- Contexts with the same texts under the same keys keep having the same ones. -/
theorem get?_addOptions_congr (h : v.get? = w.get?) (options : List String) :
    (v.addOptions options).map get? = (w.addOptions options).map get? := by
  induction options generalizing v w with
  | nil => exact congrArg Except.ok h
  | cons raw options ih =>
    rw [addOptions_cons, addOptions_cons, addOption, addOption]
    cases option raw with
    | error e => rfl
    | ok entry =>
      apply ih
      rw [get?_insert_eq_update, get?_insert_eq_update, h]

/-- Options about different keys can change places; if one of the keys is empty, it is this option
that is reported either way. -/
theorem get?_addOptions_swap {other key' value' : String} (hraw : Gives raw key value)
    (hother : Gives other key' value') (hne : key ≠ key') (v : VolumeContext)
    (options : List String) :
    (v.addOptions (raw :: other :: options)).map get? =
      (v.addOptions (other :: raw :: options)).map get? := by
  simp only [addOptions_cons, addOption_of_gives hraw, addOption_of_gives hother]
  by_cases hkey : key = ""
  · have hkey' : key' ≠ "" := fun h => hne (hkey.trans h.symm)
    simp only [if_pos hkey, if_neg hkey']
    rfl
  · by_cases hkey' : key' = ""
    · simp only [if_neg hkey, if_pos hkey']
      rfl
    · simp only [if_neg hkey, if_neg hkey']
      apply get?_addOptions_congr
      simp only [get?_insert_eq_update]
      exact Function.update_comm hne _ _ _

/-- An option changes nothing under other keys. -/
theorem get?_of_addOption (h : v.addOption raw = .ok w) (hkey : ¬ Concerns raw key) :
    w.get? key = v.get? key := by
  have hreads := reads_option raw
  unfold addOption at h
  generalize option raw = out at hreads h
  cases hreads with
  | @entry key' value inOrder gives =>
    cases h
    have hne : key' ≠ key := fun he => hkey ⟨value, he ▸ gives⟩
    exact (get?_insert _ _ _ _).trans (if_neg hne)
  | fault wrong => cases h

/-- Options describe a context exactly if each of them has an equals sign with more than white space
before it. The context then holds under each key what the last option about it gives, and nothing if
there is none. Otherwise the first option that is wrong is reported, and named as it was given. Two
neighbours about different keys can change places, and one more option changes no other key than its
own. -/
theorem ofOptions_lastWord (options : List String) :
    ((∃ v, ofOptions options = .ok v) ↔ ∀ o ∈ options, InOrder o) ∧
    (∀ v, ofOptions options = .ok v → ∀ key, LastWord options key (v.get? key)) ∧
    (∀ e, ofOptions options = .error e →
      ∃ before raw after, options = before ++ raw :: after ∧ (∀ o ∈ before, InOrder o) ∧
        Wrong raw e ∧
        ∃ reason, e.message = "invalid --context value \x60" ++ raw ++ "\x60: " ++ reason) ∧
    (∀ raw other key key' later, Concerns raw key → Concerns other key' → key ≠ key' →
      (ofOptions (options ++ raw :: other :: later)).map get? =
        (ofOptions (options ++ other :: raw :: later)).map get?) ∧
    ∀ raw v w, ofOptions options = .ok v → ofOptions (options ++ [raw]) = .ok w →
      ∀ key, ¬ Concerns raw key → w.get? key = v.get? key := by
  refine ⟨exists_ofOptions_iff options, fun v hv => ?_, fun e he => ?_, ?_, ?_⟩
  · have hdescribes := describes_ofOptions options
    rw [hv] at hdescribes
    cases hdescribes with
    | context inOrder texts => exact texts
  · have hdescribes := describes_ofOptions options
    rw [he] at hdescribes
    cases hdescribes with
    | fault order earlier wrong => exact ⟨_, _, _, order, earlier, wrong, message_of_wrong wrong⟩
  · rintro raw other key key' later ⟨value, hraw⟩ ⟨value', hother⟩ hne
    rw [ofOptions_append, ofOptions_append]
    cases ofOptions options with
    | error e => rfl
    | ok v => exact get?_addOptions_swap hraw hother hne v later
  · intro raw v w hv hw key hkey
    rw [ofOptions_concat, hv] at hw
    exact get?_of_addOption hw hkey

/-- Two options whose keys are the same but for white space, and one after them. -/
theorem ofOptions_lastWord_spaced :
    ∃ v w, ofOptions ["model=vol-1", "\u3000model\u00a0= vol=2"] = .ok v ∧
      ofOptions (["model=vol-1", "\u3000model\u00a0= vol=2"] ++ ["nqn=a"]) = .ok w ∧
      (∀ o ∈ ["model=vol-1", "\u3000model\u00a0= vol=2"], InOrder o) ∧
      LastWord ["model=vol-1", "\u3000model\u00a0= vol=2"] "model" (some " vol=2") ∧
      ¬ Concerns "nqn=a" "model" ∧ w.get? "model" = v.get? "model" := by
  obtain ⟨hright, hword, -, -, happend⟩ :=
    ofOptions_lastWord ["model=vol-1", "\u3000model\u00a0= vol=2"]
  have hv : ofOptions ["model=vol-1", "\u3000model\u00a0= vol=2"] =
      .ok ⟨[("model", " vol=2"), ("model", "vol-1")]⟩ := by rfl
  have hw : ofOptions (["model=vol-1", "\u3000model\u00a0= vol=2"] ++ ["nqn=a"]) =
      .ok ⟨[("nqn", "a"), ("model", " vol=2"), ("model", "vol-1")]⟩ := by rfl
  have hcut : Cuts "nqn=a" "nqn" "a" := ⟨rfl, by decide⟩
  have hother : ¬ Concerns "nqn=a" "model" := by
    rintro ⟨value, hgives⟩
    exact absurd (hgives.key_eq hcut.gives) (by decide)
  exact ⟨_, _, hv, hw, hright.1 ⟨_, hv⟩, hword _ hv "model", hother, happend _ _ _ hv hw _ hother⟩

end VolumeContext
end OffloadVolume
