/-!
# Words of a command line

An argument is an option, a plain word, or the mark after which all words are plain. Main
statement: `ofText_long`, a long option is read back from its name and value.
-/

namespace OffloadVolume

inductive Word where
  | endOfOptions
  | long (name : String) (value : Option String)
  | short (letter : Char)
  | plain
  deriving DecidableEq, Repr

namespace Word

/-- The long option of what follows two hyphens; an equals sign separates its value. -/
def ofLong (cs : List Char) : Word :=
  let name := String.ofList (cs.takeWhile (· != '='))
  match cs.dropWhile (· != '=') with
  | [] => long name none
  | _ :: value => long name (some (String.ofList value))

/-- What an argument looks like; of several short options the first one counts. -/
def ofText (s : String) : Word :=
  match s.toList with
  | ['-', '-'] => endOfOptions
  | '-' :: '-' :: rest => ofLong rest
  | '-' :: letter :: _ => short letter
  | _ => plain

theorem ofLong_append {name : List Char} (h : ∀ c ∈ name, c ≠ '=') (value : String) :
    ofLong (name ++ '=' :: value.toList) = long (String.ofList name) (some value) := by
  have hne : ∀ c ∈ name, (c != '=') = true := fun c hc => by simpa using h c hc
  simp [ofLong, List.takeWhile_append_of_pos hne, List.dropWhile_append_of_pos hne]

/-- A long option is split at its first equals sign. -/
theorem ofText_long {name : String} (h : ∀ c ∈ name.toList, c ≠ '=') (value : String) :
    ofText ("--" ++ name ++ "=" ++ value) = long name (some value) := by
  have hs : ("--" ++ name ++ "=" ++ value).toList =
      '-' :: '-' :: (name.toList ++ '=' :: value.toList) := by simp
  rw [ofText, hs]
  split
  · rename_i e
    simp at e
  · rename_i rest _ e
    simp only [List.cons.injEq, true_and] at e
    subst e
    simp [ofLong_append h]
  · rename_i h1 e
    exact (h1 (List.cons.inj (List.cons.inj e).2).1.symm).elim
  · rename_i h1
    exact (h1 _ _ rfl).elim

end Word
end OffloadVolume
