import OffloadVolume.Document.Yaml.Cursor
import OffloadVolume.Text.Numeral

/-!
# YAML scalars

The four ways to write a text: plain, between single or double quotes, and as a block of lines that
are kept or folded. Between two parts of a plain or quoted text, spaces are kept, a single line
break is a space, and of several line breaks all but the first are kept.
-/

namespace OffloadVolume.Yaml

/-- The spaces, or else the line breaks, since the last part of a text; the latest first. -/
structure Gap where
  spaces : List Char := []
  broken : Bool := false
  firstBreak : Option Char := none
  breaks : List Char := []
  deriving Repr

namespace Gap

/-- Adds a space; after a line break it does not count. -/
def space (g : Gap) (c : Char) : Gap := if g.broken then g else { g with spaces := c :: g.spaces }

/-- Adds a line break; the spaces before it do not count. -/
def lineBreak (g : Gap) (c : Char) : Gap :=
  if g.broken then { g with breaks := c :: g.breaks } else { broken := true, firstBreak := some c }

def isEmpty (g : Gap) : Bool := g.spaces.isEmpty && !g.broken

/-- What stands for the gap, the latest first. -/
def folded (g : Gap) : List Char :=
  if !g.broken then g.spaces
  else if g.firstBreak = some '\n' then (if g.breaks.isEmpty then [' '] else g.breaks)
  else g.breaks ++ g.firstBreak.toList

end Gap

/-- A text that is read, the latest character first, and the gap after it. -/
structure Fold where
  text : List Char := []
  gap : Gap := {}
  deriving Repr

namespace Fold

def push (f : Fold) (c : Char) : Fold := ⟨c :: (f.gap.folded ++ f.text), {}⟩

def close (f : Fold) : Fold := ⟨f.gap.folded ++ f.text, {}⟩

def result (f : Fold) : String := String.ofList f.text.reverse

end Fold

/-! ## Plain scalars -/

def isFlowMark (others : String) (c : Char) : Bool :=
  (",[]\x7b\x7d" ++ others).toList.contains c

/-- What to do at a character of a plain scalar whose lines are indented so far. -/
def plainStep (indent : Int) (inFlow : Bool) (f : Fold) (p : Position) (cs : List Char) :
    Move Fold :=
  match cs with
  | [] => .stop
  | c :: rest =>
    if isSpace c then
      if f.gap.broken && (p.column : Int) < indent && c == '\t' then .fail
      else .go { f with gap := f.gap.space c }
    else if isBreak c then .go { f with gap := f.gap.lineBreak c }
    else if !f.gap.isEmpty && ((!inFlow && (p.column : Int) < indent) || c == '#') then .stop
    else if Cursor.isSeparator p.column cs '-' || Cursor.isSeparator p.column cs '.' then .stop
    else if inFlow && c == ':' && rest.head?.any (isFlowMark "?") then .fail
    else if c == ':' && endsHere rest then .stop
    else if inFlow && isFlowMark "" c then .stop
    else .go (f.push c)

/-! ## Quoted scalars -/

inductive QuotedMode where
  | text
  | skip
  | escape
  | hex (missing value : Nat)
  deriving DecidableEq, Repr

structure Quoted where
  fold : Fold := {}
  mode : QuotedMode := .text
  deriving Repr

def escaped? (c : Char) : Option Char :=
  match c with
  | '0' => some '\x00'
  | 'a' => some '\x07'
  | 'b' => some '\x08'
  | 't' | '\t' => some '\t'
  | 'n' => some '\n'
  | 'v' => some '\x0B'
  | 'f' => some '\x0C'
  | 'r' => some '\r'
  | 'e' => some '\x1B'
  | ' ' => some ' '
  | '"' => some '"'
  | '/' => some '/'
  | '\\' => some '\\'
  | 'N' => some '\u0085'
  | '_' => some '\u00A0'
  | 'L' => some '\u2028'
  | 'P' => some '\u2029'
  | _ => none

def escapeLength? (c : Char) : Option Nat :=
  match c with
  | 'x' => some 2
  | 'u' => some 4
  | 'U' => some 8
  | _ => none

def quotedStep (single : Bool) (q : Quoted) (p : Position) (cs : List Char) : Move Quoted :=
  match cs with
  | [] => .fail
  | c :: rest =>
    match q.mode with
    | .skip => .go { q with mode := .text }
    | .escape =>
      match escaped? c, escapeLength? c with
      | some e, _ => .go ⟨q.fold.push e, .text⟩
      | none, some n => .go { q with mode := .hex n 0 }
      | none, none => .fail
    | .hex missing value =>
      match Numeral.digit? c with
      | none => .fail
      | some d =>
        let value := value * 16 + d
        if missing ≠ 1 then .go { q with mode := .hex (missing - 1) value }
        else if value.isValidChar then .go ⟨q.fold.push (Char.ofNat value), .text⟩
        else .fail
    | .text =>
      if Cursor.isSeparator p.column cs '-' || Cursor.isSeparator p.column cs '.' then .fail
      else if isSpace c then .go { q with fold.gap := q.fold.gap.space c }
      else if isBreak c then .go { q with fold.gap := q.fold.gap.lineBreak c }
      else if single then
        if c = '\'' then
          if rest.head? = some '\'' then .go ⟨q.fold.push c, .skip⟩
          else .finish { q with fold := q.fold.close }
        else .go { q with fold := q.fold.push c }
      else if c = '"' then .finish { q with fold := q.fold.close }
      else if c = '\\' then
        if rest.head?.any isBreak then .go ⟨⟨q.fold.close.text, { broken := true }⟩, .skip⟩
        else .go { q with mode := .escape }
      else .go { q with fold := q.fold.push c }

/-! ## Block scalars -/

inductive Chomp where
  | strip
  | clip
  | keep
  deriving DecidableEq, Repr

inductive HeadMode where
  | start
  | digit
  | chomp
  | space
  | comment
  deriving DecidableEq, Repr

/-- The head of a block scalar: how much it is indented, or 0, and what becomes of its end. -/
structure BlockHead where
  chomp : Chomp := .clip
  indent : Nat := 0
  mode : HeadMode := .start
  deriving Repr

def Chomp.ofChar? (c : Char) : Option Chomp :=
  if c = '+' then some .keep else if c = '-' then some .strip else none

def headStep (h : BlockHead) (_ : Position) (cs : List Char) : Move BlockHead :=
  match cs with
  | [] => .stop
  | c :: _ =>
    if isBreak c then .finish h
    else if h.mode = .comment then .go h
    else
      match h.mode, Chomp.ofChar? c with
      | .start, some chomp => .go { h with chomp, mode := .digit }
      | .chomp, some chomp => .go { h with chomp, mode := .space }
      | mode, _ =>
        if c.isDigit && (mode == .start || mode == .digit) then
          if c = '0' then .fail
          else
            let next := if mode = .start then .chomp else .space
            .go { h with indent := c.toNat - 48, mode := next }
        else if isSpace c then .go { h with mode := .space }
        else if c = '#' then .go { h with mode := .comment }
        else .fail

/-- The lines of a block scalar that are read, the latest character first. -/
structure Block where
  /-- The indentation of the block, or 0 while it is not known. -/
  indent : Nat
  /-- The greatest indentation of the lines before the first one that is not empty. -/
  deepest : Nat := 0
  text : List Char := []
  /-- The line break after the last line. -/
  ended : Option Char := none
  /-- The line breaks after it. -/
  empty : List Char := []
  /-- Whether the last line starts with a space. -/
  spaced : Bool := false
  inLine : Bool := false
  deriving Repr

namespace Block

/-- The indentation, once a line that is not empty is reached. -/
def settled (b : Block) (outer : Int) (column : Nat) : Nat :=
  if b.indent = 0 then max (max b.deepest column) (max (outer + 1).toNat 1) else b.indent

def startLine (b : Block) (folded : Bool) (c : Char) : Block :=
  let joined :=
    if folded && b.ended == some '\n' && !b.spaced && !isSpace c then
      if b.empty.isEmpty then ' ' :: b.text else b.text
    else b.ended.toList ++ b.text
  { b with text := c :: (b.empty ++ joined), ended := none, empty := [], spaced := isSpace c,
           inLine := true }

/-- What to do at a character of a block, which stands in a collection indented by `outer`. -/
def step (folded : Bool) (outer : Int) (b : Block) (p : Position) (cs : List Char) : Move Block :=
  match cs with
  | [] => .stop
  | c :: _ =>
    if b.inLine then
      if isBreak c then .go { b with ended := some c, inLine := false }
      else .go { b with text := c :: b.text }
    else if (b.indent = 0 ∨ p.column < b.indent) ∧ c = ' ' then .go b
    else if (b.indent = 0 ∨ p.column < b.indent) ∧ c = '\t' then .fail
    else if isBreak c then .go { b with deepest := max b.deepest p.column, empty := c :: b.empty }
    else
      let indent := b.settled outer p.column
      if p.column = indent then .go ({ b with indent }.startLine folded c) else .stop

def result (b : Block) (chomp : Chomp) : String :=
  let text := if chomp = .strip then b.text else b.ended.toList ++ b.text
  String.ofList (if chomp = .keep then b.empty ++ text else text).reverse

end Block
end OffloadVolume.Yaml
