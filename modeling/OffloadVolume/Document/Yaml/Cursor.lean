/-!
# Cursors

A place in the text of a YAML document, and runs of characters from it on. Line breaks are made
alike before anything is read: a carriage return, with or without a line feed, and a next-line
character are each a line feed.
-/

namespace OffloadVolume.Yaml

def isAllowed (c : Char) : Bool :=
  c == '\t' || c == '\n' || c == '\r' || (0x20 ≤ c.toNat && c.toNat ≤ 0x7E) || c.toNat == 0x85 ||
    (0xA0 ≤ c.toNat && c.toNat ≤ 0xD7FF) || (0xE000 ≤ c.toNat && c.toNat ≤ 0xFFFD) ||
    0x10000 ≤ c.toNat

/-- Makes line breaks alike. -/
def alikeBreaks : List Char → List Char
  | [] => []
  | '\r' :: '\n' :: rest => '\n' :: alikeBreaks rest
  | c :: rest => (if c = '\r' ∨ c.toNat = 0x85 then '\n' else c) :: alikeBreaks rest

def isBreak (c : Char) : Bool := c == '\n' || c.toNat == 0x2028 || c.toNat == 0x2029

def isSpace (c : Char) : Bool := c == ' ' || c == '\t'

/-- Whether a text ends here, or goes on with a space, a tab or a line break. -/
def endsHere : List Char → Bool
  | [] => true
  | c :: _ => isSpace c || isBreak c

def isNameChar (c : Char) : Bool := c.isAlphanum || c == '_' || c == '-'

structure Position where
  line : Nat := 0
  column : Nat := 0
  index : Nat := 0
  deriving DecidableEq, Repr

def Position.after (p : Position) (c : Char) : Position :=
  if isBreak c then ⟨p.line + 1, 0, p.index + 1⟩ else ⟨p.line, p.column + 1, p.index + 1⟩

/-- A place, and the characters from it on. -/
structure Cursor where
  position : Position := {}
  rest : List Char
  deriving Repr

/-- What to do at a character: take it and go on, stop before it, take it and stop, or fail. -/
inductive Move (σ : Type) where
  | go (s : σ)
  | stop
  | finish (s : σ)
  | fail

/-- Runs over characters; at the end of the text a run must stop. -/
def run {σ : Type} (step : σ → Position → List Char → Move σ) :
    σ → Position → List Char → Option (σ × Cursor)
  | s, p, [] =>
    match step s p [] with
    | .stop => some (s, ⟨p, []⟩)
    | _ => none
  | s, p, c :: rest =>
    match step s p (c :: rest) with
    | .go s => run step s (p.after c) rest
    | .stop => some (s, ⟨p, c :: rest⟩)
    | .finish s => some (s, ⟨p.after c, rest⟩)
    | .fail => none

namespace Cursor

def run {σ : Type} (c : Cursor) (step : σ → Position → List Char → Move σ) (s : σ) :
    Option (σ × Cursor) := Yaml.run step s c.position c.rest

def skip (c : Cursor) : Nat → Cursor
  | 0 => c
  | n + 1 =>
    match c.rest with
    | [] => c
    | d :: rest => skip ⟨c.position.after d, rest⟩ n

/-- The characters with a property, and what follows them. -/
def span (c : Cursor) (p : Char → Bool) : List Char × Cursor :=
  (c.rest.takeWhile p, c.skip (c.rest.takeWhile p).length)

/-- Whether a mark of three characters that separates documents stands at the cursor. -/
def isSeparator (column : Nat) (cs : List Char) (mark : Char) : Bool :=
  column == 0 &&
    match cs with
    | a :: b :: c :: rest => a == mark && b == mark && c == mark && endsHere rest
    | _ => false

end Cursor
end OffloadVolume.Yaml
