import OffloadVolume.Text.Numeral

/-!
# Documents

What a configuration file holds, whatever its format: leaves that may be read as a number or as
text, and records of named or ordered fields. A record may leave fields out and may have others
than those asked for, but none of those asked for twice. Main statement: `fields?_eq_some_iff`, each
field is found under its own name, or in its place.
-/

namespace OffloadVolume

/-- The content of a file. -/
inductive Document where
  /-- A single value, with the number and the text that it stands for, if any. -/
  | leaf (number : Option Nat) (text : Option String)
  /-- Nothing where something could be: the empty text, or a record without fields. -/
  | blank
  /-- Fields by name; a key that is no text has no name. -/
  | record (members : List (Option String × Document))
  /-- Fields in their order. -/
  | ordered (items : List Document)
  deriving Repr

namespace Document

def number? (bound : Nat) : Document → Option Nat
  | leaf number _ => number.filter (· ≤ bound)
  | _ => none

def text? : Document → Option String
  | leaf _ text => text
  | blank => some ""
  | _ => none

def uses (members : List (Option String × Document)) (name : String) : Nat :=
  members.countP fun m => m.1 == some name

def field? (members : List (Option String × Document)) (name : String) : Option Document :=
  (members.find? fun m => m.1 == some name).map (·.2)

/-- The fields of some names, as far as they are there. -/
def fields? (names : List String) : Document → Option (List (Option Document))
  | leaf .. => none
  | blank => some (names.map fun _ => none)
  | record members =>
    if members.all (·.1.isSome) && names.all (uses members · ≤ 1) then
      some (names.map (field? members))
    else none
  | ordered items =>
    if items.length ≤ names.length then
      some (items.map some ++ List.replicate (names.length - items.length) none)
    else none

/-- The fields of some names can be looked for in a document. -/
inductive Fits (names : List String) : Document → Prop where
  | blank : Fits names blank
  | record {members : List (Option String × Document)} (named : ∀ m ∈ members, m.1.isSome = true)
    (once : ∀ name ∈ names, uses members name ≤ 1) : Fits names (record members)
  | ordered {items : List Document} (few : items.length ≤ names.length) : Fits names (ordered items)

/-- The field that has a name, or a place if there are no names. -/
def at? : Document → Nat → String → Option Document
  | leaf .., _, _ | blank, _, _ => none
  | record members, _, name => field? members name
  | ordered items, place, _ => items[place]?

theorem fields_of_names {α : Type} (f : String → α) (names : List String) :
    names.map f = names.mapIdx fun _ => f := List.ext_getElem (by simp) (by simp)

theorem fields_of_places {items : List Document} {names : List String}
    (few : items.length ≤ names.length) :
    items.map some ++ List.replicate (names.length - items.length) none =
      names.mapIdx (ordered items).at? := by
  refine List.ext_getElem (by simp; omega) fun i _ _ => ?_
  by_cases hi : i < items.length <;> simp [List.getElem_append, at?, hi]

/-- Each of the fields is the one that has its name, wherever it stands in a record, or its place. -/
theorem fields?_eq_some_iff {names : List String} {d : Document} {fields : List (Option Document)} :
    d.fields? names = some fields ↔ d.Fits names ∧ fields = names.mapIdx d.at? := by
  cases d with
  | leaf => exact iff_of_false nofun fun h => nomatch h.1
  | blank =>
    rw [fields?, and_iff_right .blank, Option.some_inj, eq_comm, fields_of_names]
    rfl
  | record members =>
    have hfits : (record members).Fits names ↔
        (members.all (·.1.isSome) && names.all (uses members · ≤ 1)) = true := by
      rw [Bool.and_eq_true, List.all_eq_true, List.all_eq_true]
      constructor
      · intro fits
        cases fits with
        | record named once => exact ⟨named, fun name hn => decide_eq_true (once name hn)⟩
      · rintro ⟨named, once⟩
        exact .record named fun name hn => of_decide_eq_true (once name hn)
    rw [fields?, hfits]
    split
    · rename_i fits
      rw [and_iff_right fits, Option.some_inj, eq_comm, fields_of_names]
      rfl
    · rename_i unfit
      exact iff_of_false nofun fun h => unfit h.1
  | ordered items =>
    have hfits : (ordered items).Fits names ↔ items.length ≤ names.length := by
      constructor
      · intro fits
        cases fits with
        | ordered few => exact few
      · exact .ordered
    rw [fields?, hfits]
    split
    · rename_i few
      rw [fields_of_places few, and_iff_right few, Option.some_inj, eq_comm]
    · rename_i many
      exact iff_of_false nofun fun h => many h.1

/-- What is computed of the fields is computed of what stands under the names, in the order of the
names. -/
theorem bind_fields?_eq_some_iff {α : Type} {names : List String} {d : Document}
    {read? : List (Option Document) → Option α} {a : α} :
    (d.fields? names).bind read? = some a ↔
      d.Fits names ∧ read? (names.mapIdx d.at?) = some a := by
  rw [Option.bind_eq_some_iff]
  constructor
  · rintro ⟨fields, hfields, ha⟩
    obtain ⟨fits, rfl⟩ := fields?_eq_some_iff.1 hfields
    exact ⟨fits, ha⟩
  · rintro ⟨fits, ha⟩
    exact ⟨_, fields?_eq_some_iff.2 ⟨fits, rfl⟩, ha⟩

/-- Reads a field that may be left out. -/
def optional {α : Type} (read? : Document → Option α) : Option Document → Option (Option α)
  | none => some none
  | some d => (read? d).map some

/-- A value that a field gives, if it is not left out. -/
theorem optional_getD_iff {α : Type} {read? : Document → Option α} {given : α → Document → Prop}
    (hread : ∀ {d value}, read? d = some value ↔ given value d) {field : Option Document}
    {default value : α} :
    (∃ inner, optional read? field = some inner ∧ inner.getD default = value) ↔
      field.elim (value = default) (given value) := by
  cases field with
  | none => simp [optional, eq_comm]
  | some d =>
    constructor
    · rintro ⟨inner, hinner, rfl⟩
      obtain ⟨a, ha, rfl⟩ := Option.map_eq_some_iff.1 hinner
      exact hread.1 ha
    · intro hd
      exact ⟨some value, congrArg (Option.map some) (hread.2 hd), rfl⟩

end Document
end OffloadVolume
