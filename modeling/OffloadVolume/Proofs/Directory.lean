import OffloadVolume.Files.Tree

/-!
# Names in directories

In a tree whose entries have proper names, a path leads through the directory that lists its next
part. Main statements: `Files.listed_of_content`, whatever can be read below a name stands under that
name in a directory that can be listed, and `Files.Proper.change`, changes whose paths do not go back
keep the names proper.
-/

namespace OffloadVolume

/-! ## Paths -/

namespace Path

structure IsName (name : String) : Prop where
  ne_empty : name ≠ ""
  ne_dot : name ≠ "."
  ne_dots : name ≠ ".."
  no_slash : '/' ∉ name.toList

instance (name : String) : Decidable (IsName name) :=
  decidable_of_iff (name ≠ "" ∧ name ≠ "." ∧ name ≠ ".." ∧ '/' ∉ name.toList)
    ⟨fun h => ⟨h.1, h.2.1, h.2.2.1, h.2.2.2⟩, fun h => ⟨h.1, h.2, h.3, h.4⟩⟩

/-- A path that does not end with a slash, so that one is put before what follows. -/
def IsOpen (path : String) : Prop := ∃ c, path.toList.getLast? = some c ∧ c ≠ '/'

theorem IsOpen.ne_empty {path : String} (h : IsOpen path) : path ≠ "" := by
  rintro rfl
  obtain ⟨c, hc, -⟩ := h
  cases hc

theorem IsName.isOpen {name : String} (h : IsName name) : IsOpen name := by
  have hne : name.toList ≠ [] := fun he => h.ne_empty (String.toList_eq_nil_iff.1 he)
  refine ⟨name.toList.getLast hne, List.getLast?_eq_some_getLast hne, fun he => h.no_slash ?_⟩
  exact he ▸ List.getLast_mem hne

theorem IsName.not_isAbsolute {name : String} (h : IsName name) : isAbsolute name = false := by
  have hne : name.toList.head? ≠ some '/' := fun he => h.no_slash (List.mem_of_head? he)
  simpa [isAbsolute] using hne

theorem IsOpen.append {path : String} (h : IsOpen path) (base : String) :
    IsOpen (base ++ path) := by
  obtain ⟨c, hc, hslash⟩ := h
  refine ⟨c, ?_, hslash⟩
  rw [String.toList_append, List.getLast?_append, hc]
  rfl

theorem IsOpen.join {path : String} (h : IsOpen path) (base : String) : IsOpen (join base path) := by
  unfold Path.join
  split
  · exact h
  · split
    · exact h.append _
    · exact h.append _

theorem join_of_isOpen {base path : String} (hb : IsOpen base) (hp : isAbsolute path = false) :
    join base path = base ++ "/" ++ path := by
  have ⟨c, hc, hslash⟩ := hb
  have hlast : (base.toList.getLast? == some '/') = false := by simp [hc, hslash]
  simp only [join, hp, hlast, String.isEmpty_eq_false_iff.2 hb.ne_empty, Bool.or_false]
  rfl

/-- A slash between two paths puts their parts one after another. -/
theorem parts_slash (base path : String) : parts (base ++ "/" ++ path) = parts base ++ parts path := by
  have hlist : (base ++ "/" ++ path).toList = base.toList ++ '/' :: path.toList := by simp
  rw [parts, hlist, List.splitOn_append_cons_self, List.map_append, parts, parts]

/-- A name is a path of one part. -/
theorem IsName.parts {name : String} (h : IsName name) : parts name = [name] := by
  rw [Path.parts, List.splitOn_eq_singleton h.no_slash, List.map_singleton, String.ofList_toList]

theorem isAbsolute_append {base : String} (h : base ≠ "") (path : String) :
    isAbsolute (base ++ path) = isAbsolute base := by
  have hne : base.toList ≠ [] := fun he => h (String.toList_eq_nil_iff.1 he)
  obtain ⟨c, cs, hcs⟩ := List.exists_cons_of_ne_nil hne
  simp [isAbsolute, hcs]

/-- The start of a path is a path. -/
theorem fault?_of_append {base path : String} (hb : base ≠ "") (h : fault? (base ++ path) = none) :
    fault? base = none := by
  have hsize : (base ++ path).utf8ByteSize = base.utf8ByteSize + path.utf8ByteSize :=
    String.utf8ByteSize_append
  unfold fault? at h ⊢
  split at h
  · cases h
  · rename_i hzero
    split at h
    · cases h
    · split at h
      · cases h
      · have hlong : ¬maxPath ≤ base.utf8ByteSize := by omega
        have hchar : '\x00' ∉ base.toList := by
          simp only [String.toList_append, List.contains_iff_mem, List.mem_append, not_or] at hzero
          exact hzero.1
        simp [hchar, hlong, hb]

end Path

/-! ## Trees -/

namespace FileTree

open OffloadVolume.Path (IsName)

/-- Where one part of a path leads, with the directories that were followed before. -/
def advance (up : List FileTree) (t : FileTree) (part : String) :
    Except Fault (List FileTree × FileTree) :=
  match t with
  | file _ => .error .notDirectory
  | dir entries =>
    if part = "" ∨ part = "." then .ok (up, t)
    else if part = ".." then
      match up with
      | [] => .ok ([], t)
      | parent :: up => .ok (up, parent)
    else if Path.maxName < part.utf8ByteSize then .error .nameTooLong
    else
      match entry? entries part with
      | none => .error .notFound
      | some child => .ok (t :: up, child)

/-- To follow a path is to take one part after another. -/
theorem follow_cons (up : List FileTree) (t : FileTree) (part : String) (rest : List String) :
    follow up t (part :: rest) =
      match advance up t part with
      | .error fault => .error fault
      | .ok (up, t) => follow up t rest := by
  cases t with
  | file content => rfl
  | dir entries =>
    simp only [follow, advance]
    split
    · rfl
    · split
      · cases up with
        | nil => rfl
        | cons parent up => rfl
      · split
        · rfl
        · cases entry? entries part with
          | none => rfl
          | some child => rfl

/-- What a path of several parts leads to is reached part by part. -/
theorem advance_of_follow {up : List FileTree} {t : FileTree} {part : String} {rest : List String}
    {t' : FileTree} (h : follow up t (part :: rest) = .ok t') :
    ∃ at', advance up t part = .ok at' ∧ follow at'.1 at'.2 rest = .ok t' := by
  rw [follow_cons] at h
  cases ha : advance up t part with
  | error fault => simp only [ha] at h; cases h
  | ok at' => exact ⟨at', rfl, by simpa only [ha] using h⟩

/-- A name leads to the entry of that name. -/
theorem entry_of_advance {name : String} (hn : IsName name) {up : List FileTree} {t : FileTree}
    {at' : List FileTree × FileTree} (h : advance up t name = .ok at') :
    ∃ entries, t = .dir entries ∧ entry? entries name = some at'.2 := by
  cases t with
  | file content => cases h
  | dir entries =>
    simp only [advance, hn.ne_empty, hn.ne_dot, hn.ne_dots, or_self, if_false] at h
    split at h
    · cases h
    · split at h
      · cases h
      · rename_i child he
        cases h
        exact ⟨entries, rfl, he⟩

/-- A path through a name leads through a directory with an entry of that name. -/
theorem follow_through {name : String} (hn : IsName name) {rest : List String} {t' : FileTree}
    (parts : List String) (up : List FileTree) (t : FileTree)
    (h : follow up t (parts ++ name :: rest) = .ok t') :
    ∃ entries child, follow up t parts = .ok (.dir entries) ∧ entry? entries name = some child := by
  induction parts generalizing up t with
  | nil =>
    obtain ⟨at', ha, -⟩ := advance_of_follow h
    obtain ⟨entries, rfl, he⟩ := entry_of_advance hn ha
    exact ⟨entries, at'.2, rfl, he⟩
  | cons part parts ih =>
    obtain ⟨at', ha, hrest⟩ := advance_of_follow h
    rw [follow_cons, ha]
    exact ih at'.1 at'.2 hrest

theorem mem_of_entry {entries : List (String × FileTree)} {name : String} {t : FileTree}
    (ht : entry? entries name = some t) : (name, t) ∈ entries := by
  obtain ⟨e, he, rfl⟩ := Option.map_eq_some_iff.1 ht
  have hname : e.1 = name := by simpa using List.find?_some he
  exact hname ▸ List.mem_of_find?_eq_some he

/-- Everything in a tree has a name that an entry can have. -/
inductive Proper : FileTree → Prop where
  | file (content : List UInt8) : Proper (.file content)
  | dir {entries : List (String × FileTree)} (names : ∀ e ∈ entries, IsName e.1)
    (trees : ∀ e ∈ entries, e.2.Proper) : Proper (.dir entries)

namespace Proper

theorem advance {up : List FileTree} {t : FileTree} {part : String}
    {at' : List FileTree × FileTree} (h : FileTree.advance up t part = .ok at')
    (hup : ∀ u ∈ t :: up, u.Proper) : ∀ u ∈ at'.2 :: at'.1, u.Proper := by
  cases t with
  | file content => cases h
  | dir entries =>
    simp only [FileTree.advance] at h
    split at h
    · cases h
      exact hup
    · split at h
      · cases up with
        | nil => cases h; exact hup
        | cons parent up =>
          cases h
          exact (List.forall_mem_cons.1 hup).2
      · split at h
        · cases h
        · split at h
          · cases h
          · rename_i child he
            cases h
            refine List.forall_mem_cons.2 ⟨?_, hup⟩
            cases (List.forall_mem_cons.1 hup).1 with
            | dir names trees => exact trees _ (mem_of_entry he)

/-- Whatever a path leads to in a tree is as proper as the tree. -/
theorem follow {up : List FileTree} {t : FileTree} {parts : List String} {t' : FileTree}
    (h : FileTree.follow up t parts = .ok t') (hup : ∀ u ∈ t :: up, u.Proper) : t'.Proper := by
  induction parts generalizing up t with
  | nil =>
    cases h
    exact (List.forall_mem_cons.1 hup).1
  | cons part parts ih =>
    obtain ⟨at', ha, hrest⟩ := advance_of_follow h
    exact ih hrest (advance ha hup)

theorem isName {t : FileTree} (ht : t.Proper) {names : List String} (h : t.names = .ok names) :
    ∀ name ∈ names, IsName name := by
  cases ht with
  | file content => cases h
  | dir hnames _ =>
    cases h
    intro name hmem
    obtain ⟨e, he, rfl⟩ := List.mem_map.1 (List.mem_mergeSort.1 hmem)
    exact hnames e he

theorem dir_iff {entries : List (String × FileTree)} :
    (FileTree.dir entries).Proper ↔ ∀ e ∈ entries, IsName e.1 ∧ e.2.Proper := by
  refine ⟨fun h => ?_, fun h => .dir (fun e he => (h e he).1) fun e he => (h e he).2⟩
  cases h with
  | dir names trees => exact fun e he => ⟨names e he, trees e he⟩

mutual

def decideTree : (t : FileTree) → Decidable t.Proper
  | .file content => isTrue (.file content)
  | .dir entries =>
    match decideEntries entries with
    | isTrue h => isTrue (dir_iff.2 h)
    | isFalse h => isFalse fun hp => h (dir_iff.1 hp)

def decideEntries : (entries : List (String × FileTree)) →
    Decidable (∀ e ∈ entries, IsName e.1 ∧ e.2.Proper)
  | [] => isTrue (by simp)
  | (name, t) :: entries =>
    have := decideTree t
    have := decideEntries entries
    decidable_of_iff ((IsName name ∧ t.Proper) ∧ ∀ e ∈ entries, IsName e.1 ∧ e.2.Proper)
      (by rw [List.forall_mem_cons])

end

instance : DecidablePred FileTree.Proper := decideTree

theorem empty : FileTree.empty.Proper := dir_iff.2 (by simp)

def KeptBy (change : Option FileTree → Option FileTree) : Prop :=
  ∀ t, (∀ u ∈ t, u.Proper) → ∀ u ∈ change t, u.Proper

theorem alter {change : Option FileTree → Option FileTree} (hc : KeptBy change) {name : String}
    (hn : IsName name) {entries : List (String × FileTree)} (h : (FileTree.dir entries).Proper) :
    (FileTree.dir (FileTree.alter change name entries)).Proper := by
  rw [dir_iff] at h ⊢
  have hnew (old : Option FileTree) (hold : ∀ u ∈ old, u.Proper) :
      ∀ e ∈ ((change old).map fun t => (name, t)).toList, IsName e.1 ∧ e.2.Proper := by
    intro e he
    obtain ⟨t, ht, rfl⟩ := Option.map_eq_some_iff.1 (Option.mem_toList.1 he)
    exact ⟨hn, hc old hold t ht⟩
  induction entries with
  | nil => exact hnew none (by simp)
  | cons e entries ih =>
    obtain ⟨he, hrest⟩ := List.forall_mem_cons.1 h
    unfold FileTree.alter
    split
    · exact List.forall_mem_append.2 ⟨hnew (some e.2) (by simpa using he.2), hrest⟩
    · exact List.forall_mem_cons.2 ⟨he, ih hrest⟩

/-- To change what is under proper names keeps a tree proper. -/
theorem alterAt {change : Option FileTree → Option FileTree} (hc : KeptBy change)
    {parts : List String} (hp : ∀ part ∈ parts, IsName part) :
    KeptBy (FileTree.alterAt change parts) := by
  induction parts with
  | nil => exact hc
  | cons part parts ih =>
    obtain ⟨hpart, hrest⟩ := List.forall_mem_cons.1 hp
    intro t ht u hu
    have hroot : (t.getD FileTree.empty).Proper := by
      cases t with
      | none => exact empty
      | some t => exact ht t rfl
    unfold FileTree.alterAt at hu
    split at hu
    · cases hu
      exact .file _
    · rename_i entries he
      cases hu
      exact alter (ih hrest) hpart (he ▸ hroot)

theorem removeAt {t : FileTree} (ht : t.Proper) (parts : List String) :
    (FileTree.removeAt parts t).Proper := by
  induction parts generalizing t with
  | nil => cases t <;> exact ht
  | cons part parts ih =>
    cases t with
    | file content => exact ht
    | dir entries =>
      rw [dir_iff] at ht
      cases parts with
      | nil => exact dir_iff.2 fun e he => ht e (List.mem_filter.1 he).1
      | cons next parts =>
        rw [FileTree.removeAt, dir_iff]
        intro e' he'
        obtain ⟨e, he, rfl⟩ := List.mem_map.1 he'
        split
        · exact ⟨(ht e he).1, ih (ht e he).2⟩
        · exact ht e he
        · simp

end Proper
end FileTree

/-! ## Files -/

def FileChange.path : FileChange → String
  | mkdir path | write path _ | remove path => path

namespace Files

variable {f : Files}

def Proper (f : Files) : Prop := f.root.Proper

instance : DecidablePred Proper := fun f => FileTree.Proper.decideTree f.root

theorem Proper.isName (hf : f.Proper) {path : String} {names : List String}
    (h : f.names path = .ok names) : ∀ name ∈ names, Path.IsName name := by
  unfold Files.names find at h
  split at h
  · cases h
  · cases ht : f.root.follow [] (f.route path) with
    | error fault => rw [ht] at h; cases h
    | ok t =>
      rw [ht] at h
      exact (FileTree.Proper.follow ht (List.forall_mem_singleton.2 hf)).isName h

/-- A change at a place with a proper name keeps all names proper. -/
theorem Proper.change (hf : f.Proper) {c : FileChange}
    (hc : ∀ part ∈ f.places c.path, Path.IsName part) : (f.change c).Proper := by
  have hroot : ∀ u ∈ some f.root, u.Proper := fun u hu => by cases hu; exact hf
  have hgetD (t : Option FileTree) (ht : ∀ u ∈ t, u.Proper) : (t.getD .empty).Proper := by
    cases t with
    | none => exact .empty
    | some t => exact ht t rfl
  cases c with
  | mkdir path =>
    refine hgetD _ (FileTree.Proper.alterAt (fun t ht u hu => ?_) hc _ hroot)
    cases hu
    exact hgetD t ht
  | write path content =>
    refine hgetD _ (FileTree.Proper.alterAt (fun t ht u hu => ?_) hc _ hroot)
    split at hu
    · cases hu
      exact ht _ rfl
    · cases hu
      exact .file content
  | remove path => exact hf.removeAt _

/-- What follows a path is followed from where the path leads. -/
theorem route_slash {base : String} (hb : base ≠ "") (path : String) :
    f.route (base ++ "/" ++ path) = f.route base ++ Path.parts path := by
  have habs : Path.isAbsolute (base ++ "/" ++ path) = Path.isAbsolute base := by
    rw [String.append_assoc, Path.isAbsolute_append hb]
  rw [route, route, habs, Path.parts_slash]
  split
  · rfl
  · rw [List.append_assoc]

/-- What can be read below a name stands under that name in a directory that can be listed. -/
theorem listed_of_content {base name rest : String} (hb : base ≠ "") (hn : Path.IsName name)
    {bytes : List UInt8} (h : f.content (base ++ "/" ++ name ++ "/" ++ rest) = .ok bytes) :
    ∃ names, f.names base = .ok names ∧ name ∈ names := by
  have hroute : f.route (base ++ "/" ++ name ++ "/" ++ rest) =
      f.route base ++ name :: Path.parts rest := by
    rw [route_slash (by simp [hb]), route_slash hb, hn.parts, List.append_assoc]
    rfl
  unfold content find at h
  split at h
  · cases h
  · rename_i hfault
    rw [String.append_assoc, String.append_assoc, String.append_assoc] at hfault
    rw [hroute] at h
    cases ht : f.root.follow [] (f.route base ++ name :: Path.parts rest) with
    | error fault => rw [ht] at h; cases h
    | ok t =>
      obtain ⟨entries, child, hbase, he⟩ := FileTree.follow_through hn _ _ _ ht
      have hmem : name ∈ entries.map (·.1) :=
        List.mem_map.2 ⟨(name, child), FileTree.mem_of_entry he, rfl⟩
      have hnames : f.names base =
          .ok ((entries.map (·.1)).mergeSort fun a b => decide (a ≤ b)) := by
        rw [names, find, Path.fault?_of_append hb hfault, hbase]
        rfl
      exact ⟨_, hnames, List.mem_mergeSort.2 hmem⟩

end Files
end OffloadVolume
