import Mathlib.Data.List.Nodup
import OffloadVolume.Chain.Handles

/-!
# Names recorded one after another

Main statement: `Handles.recordedIn_record`, names recorded in some collections are found there again
in the order in which they were recorded.
-/

namespace OffloadVolume.Handles

def record (h : Handles) (made : List (Collection × String)) : Handles :=
  made.foldl (fun h m => h.set m.1 (some m.2)) h

def recordedIn (h : Handles) (ks : List Collection) : List (Collection × String) :=
  ks.filterMap fun k => (h.get k).map (k, ·)

theorem set_none_of_get {h : Handles} {k : Collection} (hk : h.get k = none) :
    h.set k none = h := by
  refine ext_get fun l => ?_
  by_cases hkl : k = l
  · rw [← hkl, get_set_self, hk]
  · rw [get_set_of_ne h hkl]

theorem record_append (h : Handles) (made more : List (Collection × String)) :
    h.record (made ++ more) = (h.record made).record more := List.foldl_append

/-- The names that are recorded take the place of those there, and the others stay. -/
theorem get_record (h : Handles) {made : List (Collection × String)}
    (hn : (made.map Prod.fst).Nodup) (k : Collection) (name : String) :
    (h.record made).get k = some name ↔
      (k, name) ∈ made ∨ k ∉ made.map Prod.fst ∧ h.get k = some name := by
  induction made generalizing h with
  | nil => simp [record]
  | cons m made ih =>
    obtain ⟨l, text⟩ := m
    rw [List.map_cons, List.nodup_cons] at hn
    rw [record, List.foldl_cons, ← record, ih _ hn.2, get_set]
    by_cases hl : l = k
    · subst hl
      have hm : (l, name) ∉ made := fun hm => hn.1 (List.mem_map.2 ⟨_, hm, rfl⟩)
      simp [hm, eq_comm, hn.1]
    · simp [hl, Ne.symm hl]

theorem get_record_of_not_mem (h : Handles) {made : List (Collection × String)} {k : Collection}
    (hk : k ∉ made.map Prod.fst) : (h.record made).get k = h.get k := by
  induction made generalizing h with
  | nil => rfl
  | cons m made ih =>
    rw [List.map_cons, List.mem_cons, not_or] at hk
    rw [record, List.foldl_cons, ← record, ih _ hk.2, get_set_of_ne _ (Ne.symm hk.1)]

theorem get_record_empty {made : List (Collection × String)} (hn : (made.map Prod.fst).Nodup)
    (k : Collection) (name : String) :
    (empty.record made).get k = some name ↔ (k, name) ∈ made := by
  rw [get_record _ hn, get_empty]
  simp

theorem mem_recordedIn {h : Handles} {ks : List Collection} {k : Collection} {name : String} :
    (k, name) ∈ h.recordedIn ks ↔ k ∈ ks ∧ h.get k = some name := by
  simp only [recordedIn, List.mem_filterMap, Option.map_eq_some_iff, Prod.mk.injEq]
  constructor
  · rintro ⟨l, hl, text, hg, rfl, rfl⟩
    exact ⟨hl, hg⟩
  · rintro ⟨hk, hg⟩
    exact ⟨k, hk, name, hg, rfl, rfl⟩

theorem recordedIn_empty (ks : List Collection) : empty.recordedIn ks = [] := by
  rw [recordedIn, List.filterMap_eq_nil_iff]
  intro k _
  rw [get_empty]
  rfl

theorem recordedIn_cons_of_none {h : Handles} {k : Collection} (hk : h.get k = none)
    (ks : List Collection) : h.recordedIn (k :: ks) = h.recordedIn ks := by
  rw [recordedIn, List.filterMap_cons, hk]
  rfl

theorem recordedIn_cons_of_some {h : Handles} {k : Collection} {name : String}
    (hk : h.get k = some name) (ks : List Collection) :
    h.recordedIn (k :: ks) = (k, name) :: h.recordedIn ks := by
  rw [recordedIn, List.filterMap_cons, hk]
  rfl

theorem nodup_recordedIn (h : Handles) {ks : List Collection} (hn : ks.Nodup) :
    ((h.recordedIn ks).map Prod.fst).Nodup := by
  induction ks with
  | nil => exact List.nodup_nil
  | cons k ks ih =>
    rw [List.nodup_cons] at hn
    cases hg : h.get k with
    | none =>
      rw [recordedIn_cons_of_none hg]
      exact ih hn.2
    | some name =>
      rw [recordedIn_cons_of_some hg]
      refine List.nodup_cons.2 ⟨fun hk => ?_, ih hn.2⟩
      obtain ⟨⟨l, text⟩, hm, rfl⟩ := List.mem_map.1 hk
      exact hn.1 (mem_recordedIn.1 hm).1

/-- Where each collection has a name, all of them are in what is recorded. -/
theorem map_fst_recordedIn {h : Handles} {ks : List Collection}
    (hk : ∀ k ∈ ks, ∃ name, h.get k = some name) : (h.recordedIn ks).map Prod.fst = ks := by
  induction ks with
  | nil => rfl
  | cons k ks ih =>
    obtain ⟨⟨name, hg⟩, hk⟩ := List.forall_mem_cons.1 hk
    rw [recordedIn_cons_of_some hg, List.map_cons, ih hk]

theorem recordedIn_set (h : Handles) {k : Collection} {ks : List Collection} (hk : k ∉ ks)
    (name : Option String) : (h.set k name).recordedIn ks = h.recordedIn ks := by
  refine List.filterMap_congr fun l hl => ?_
  have hl : k ≠ l := fun he => hk (he ▸ hl)
  rw [get_set_of_ne h hl name]

/-- What was recorded one after another is found in the same order. -/
theorem recordedIn_record {made : List (Collection × String)} {rest : List Collection}
    (hn : (made.map Prod.fst ++ rest).Nodup) :
    (empty.record made).recordedIn (made.map Prod.fst ++ rest) = made := by
  have hm := get_record_empty hn.of_append_left
  have hrest : rest.filterMap (fun k => ((empty.record made).get k).map (k, ·)) = [] := by
    rw [List.filterMap_eq_nil_iff]
    intro k hk
    cases hg : (empty.record made).get k with
    | none => rfl
    | some name =>
      exact absurd rfl ((List.nodup_append.1 hn).2.2 k (List.mem_map_of_mem ((hm k name).1 hg)) k hk)
  have hmade : made.filterMap (fun m => ((empty.record made).get m.1).map (m.1, ·)) =
      made.filterMap some := by
    refine List.filterMap_congr fun m hmem => ?_
    rw [(hm m.1 m.2).2 hmem]
    rfl
  rw [recordedIn, List.filterMap_append, hrest, List.append_nil, List.filterMap_map]
  exact hmade.trans List.filterMap_some

end OffloadVolume.Handles
