import OffloadVolume.Document.Yaml.Tag

/-!
# YAML directives

A directive takes a line before a document. It tells the version of the language, or what a handle
of tags stands for.
-/

namespace OffloadVolume.Yaml

inductive Directive where
  | version (major minor : Nat)
  | shorthand (handle start : String)
  deriving DecidableEq, Repr

namespace Directive

def maxDigits : Nat := 9

/-- Whether nothing is left of a line but white space and a comment. -/
def isDone (c : Cursor) : Bool :=
  let left := (c.span isSpace).2.rest
  left.isEmpty || left.head?.any fun d => d == '#' || isBreak d

def number? (c : Cursor) : Option (Nat × Cursor) :=
  let (digits, cursor) := c.span Char.isDigit
  if digits.length ≤ maxDigits then (Numeral.ofDigits? 10 digits).map (·, cursor) else none

/-- Two numbers with a dot between them. -/
def version? (c : Cursor) : Option Directive := do
  let (major, c) ← number? c
  if c.rest.head? == some '.' then
    let (minor, c) ← number? (c.skip 1)
    if isDone c then return version major minor else none
  else none

/-- A handle and what follows it: the mark of tags alone, or a name between two of them. -/
def handle? (c : Cursor) : Option (String × Cursor) :=
  match Tag.named? c with
  | some named => some named
  | none => if c.rest.head? == some '!' then some ("!", c.skip 1) else none

/-- A handle and the text that it stands for. -/
def shorthand? (c : Cursor) : Option Directive := do
  let (handle, c) ← handle? c
  let (gap, c) := c.span isSpace
  let (text, c) := c.span Tag.isUriChar
  if !gap.isEmpty && !text.isEmpty && endsHere c.rest && isDone c then
    return shorthand handle (← Tag.unescape? text)
  else none

/-- The directive of a line after its mark. -/
def read? (c : Cursor) : Option Directive :=
  let (name, afterName) := c.span isNameChar
  let (gap, value) := afterName.span isSpace
  if gap.isEmpty then none
  else if name == "YAML".toList then version? value
  else if name == "TAG".toList then shorthand? value
  else none

end Directive
end OffloadVolume.Yaml
