import OffloadVolume.Error

/-!
# Volumes

The description of a volume: texts by key. Main statement: `get?_insert`, a key holds the text
inserted last under it.
-/

namespace OffloadVolume

/-- Texts by key, of which the first entry of a key counts. -/
structure VolumeContext where
  entries : List (String × String)
  deriving Repr

namespace VolumeContext

def empty : VolumeContext := ⟨[]⟩

/-- Puts a text under a key, in place of the one there. -/
def insert (v : VolumeContext) (key value : String) : VolumeContext :=
  ⟨(key, value) :: v.entries⟩

/-- The context of a list of entries, of which the last one of a key counts. -/
def ofList (entries : List (String × String)) : VolumeContext :=
  entries.foldl (fun v e => v.insert e.1 e.2) empty

def get? (v : VolumeContext) (key : String) : Option String :=
  (v.entries.find? fun e => e.1 == key).map (·.2)

@[simp] theorem get?_empty (key : String) : empty.get? key = none := rfl

/-- To insert a text changes what is under its key, and nothing else. -/
theorem get?_insert (v : VolumeContext) (key value other : String) :
    (v.insert key value).get? other = if key = other then some value else v.get? other := by
  by_cases h : key = other <;> simp [get?, insert, h]

/-- The text under a key that must be there and not be empty. -/
def require (v : VolumeContext) (key : String) : Except AttachError String :=
  match v.get? key with
  | some text => if text.isEmpty then .error (.invalidArgument (.missingKey key)) else .ok text
  | none => .error (.invalidArgument (.missingKey key))

def model (v : VolumeContext) : Except AttachError String := v.require "model"

def agrees (v w : VolumeContext) : Bool :=
  (v.entries ++ w.entries).all fun e => v.get? e.1 == w.get? e.1

/-- Contexts agree exactly if they tell the same text under every key. -/
theorem agrees_iff (v w : VolumeContext) :
    v.agrees w = true ↔ ∀ key, v.get? key = w.get? key := by
  simp only [agrees, List.all_eq_true, beq_iff_eq]
  refine ⟨fun h key => ?_, fun h e _ => h e.1⟩
  by_cases hv : ∃ e ∈ v.entries ++ w.entries, e.1 = key
  · obtain ⟨e, he, rfl⟩ := hv
    exact h e he
  · have hnone : ∀ e ∈ v.entries ++ w.entries, ¬ e.1 = key := fun e he hk => hv ⟨e, he, hk⟩
    simp only [List.mem_append] at hnone
    have h1 : v.entries.find? (fun e => e.1 == key) = none :=
      List.find?_eq_none.2 fun e he => by simpa using hnone e (.inl he)
    have h2 : w.entries.find? (fun e => e.1 == key) = none :=
      List.find?_eq_none.2 fun e he => by simpa using hnone e (.inr he)
    simp [get?, h1, h2]

end VolumeContext
end OffloadVolume
