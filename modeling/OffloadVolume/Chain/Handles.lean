import OffloadVolume.Plane.Call

/-!
# Handles

The names of the remote resources that an attachment has recorded, at most one in a collection.
-/

namespace OffloadVolume

/-- A recorded name for each collection. -/
structure Handles where
  subsystem : Option String := none
  controller : Option String := none
  remote : Option String := none
  «namespace» : Option String := none
  virtioBlk : Option String := none
  deriving DecidableEq, Repr

namespace Handles

def empty : Handles := {}

def get (h : Handles) : Collection → Option String
  | .subsystem => h.subsystem
  | .controller => h.controller
  | .remote => h.remote
  | .namespace => h.namespace
  | .virtioBlk => h.virtioBlk

def set (h : Handles) (k : Collection) (name : Option String) : Handles :=
  match k with
  | .subsystem => { h with subsystem := name }
  | .controller => { h with controller := name }
  | .remote => { h with remote := name }
  | .namespace => { h with «namespace» := name }
  | .virtioBlk => { h with virtioBlk := name }

def clear (h : Handles) (ks : List Collection) : Handles := ks.foldl (fun h k => h.set k none) h

def isEmpty (h : Handles) : Bool := Collection.all.all fun k => (h.get k).isNone

@[simp] theorem get_empty (k : Collection) : empty.get k = none := by cases k <;> rfl

@[simp] theorem get_set_self (h : Handles) (k : Collection) (name : Option String) :
    (h.set k name).get k = name := by cases k <;> rfl

theorem get_set (h : Handles) (k l : Collection) (name : Option String) :
    (h.set k name).get l = if k = l then name else h.get l := by
  cases k <;> cases l <;> rfl

theorem get_set_of_ne (h : Handles) {k l : Collection} (hkl : k ≠ l) (name : Option String) :
    (h.set k name).get l = h.get l := by rw [get_set, if_neg hkl]

/-- Handles that hold the same names are the same. -/
theorem ext_get {h g : Handles} (hg : ∀ k, h.get k = g.get k) : h = g := by
  have h1 := hg .subsystem
  have h2 := hg .controller
  have h3 := hg .remote
  have h4 := hg .namespace
  have h5 := hg .virtioBlk
  cases h
  cases g
  simp only [get] at *
  subst h1 h2 h3 h4 h5
  rfl

theorem get_clear (h : Handles) (ks : List Collection) (k : Collection) :
    (h.clear ks).get k = if k ∈ ks then none else h.get k := by
  induction ks generalizing h with
  | nil => rfl
  | cons l ks ih =>
    rw [clear, List.foldl_cons, ← clear, ih, get_set]
    by_cases hk : k ∈ ks
    · simp [hk]
    · by_cases hl : l = k
      · simp [hl]
      · simp [hk, hl, Ne.symm hl]

theorem isEmpty_iff (h : Handles) : h.isEmpty = true ↔ h = empty := by
  simp only [isEmpty, List.all_eq_true, Option.isNone_iff_eq_none]
  refine ⟨fun hn => ext_get fun k => ?_, fun he k _ => by rw [he, get_empty]⟩
  rw [get_empty]
  exact hn k k.mem_all

end Handles
end OffloadVolume
