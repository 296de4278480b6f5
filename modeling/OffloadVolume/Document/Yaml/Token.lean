import OffloadVolume.Document.Yaml.Directive
import OffloadVolume.Document.Yaml.Scalar

/-!
# YAML tokens

A document is cut into tokens. Indentation opens and closes block collections, and a text turns out
to be a key when the colon after it is reached: its mark is then put before it.
-/

namespace OffloadVolume.Yaml

inductive Style where
  | plain
  | quoted
  | literal
  | folded
  deriving DecidableEq, Repr

inductive Token where
  | directive (d : Directive)
  | documentStart
  | documentEnd
  | blockSequenceStart
  | blockMappingStart
  | blockEnd
  | flowSequenceStart
  | flowSequenceEnd
  | flowMappingStart
  | flowMappingEnd
  | blockEntry
  | flowEntry
  | key
  | value
  | alias (name : String)
  | anchor (name : String)
  | tag (handle rest : String)
  | scalar (text : String) (style : Style)
  deriving DecidableEq, Repr

/-- Where a key may have started: the number of its token, and whether it must turn out one. -/
structure PossibleKey where
  token : Nat
  position : Position
  required : Bool
  deriving Repr

/-- How far a key and its colon may be apart. -/
def maxKeyLength : Nat := 1024

/-- The tokens read so far, and what decides on those to come. -/
structure Scan where
  tokens : Array Token := #[]
  cursor : Cursor
  /-- Whether a key may start here. -/
  keyAllowed : Bool := true
  /-- The indentation of the block collection that is open, and of those around it. -/
  indent : Int := -1
  outer : List Int := []
  /-- The possible key of each flow collection that is open, innermost first, and of the block. -/
  keys : List (Option PossibleKey) := [none]
  deriving Repr

namespace Scan

def inFlow (s : Scan) : Bool := 1 < s.keys.length

def push (s : Scan) (t : Token) : Scan := { s with tokens := s.tokens.push t }

def skip (s : Scan) (n : Nat) : Scan := { s with cursor := s.cursor.skip n }

/-- Puts a token in front of the one with a number. -/
def insert (s : Scan) (at_ : Nat) (t : Token) : Scan :=
  { s with tokens := s.tokens.insertIdxIfInBounds at_ t }

/-- Gives up on the possible key; one that is required cannot be given up. -/
def dropKey? (s : Scan) : Option Scan :=
  match s.keys with
  | some k :: rest => if k.required then none else some { s with keys := none :: rest }
  | _ => some s

def markKey? (s : Scan) : Option Scan :=
  if s.keyAllowed then
    s.dropKey?.map fun s =>
      let here := s.cursor.position
      let required := !s.inFlow && s.indent == (here.column : Int)
      { s with keys := some ⟨s.tokens.size, here, required⟩ :: s.keys.tail }
  else some s

def isStale (p : Position) (k : PossibleKey) : Bool :=
  k.position.line < p.line || k.position.index + maxKeyLength < p.index

def dropStale? (s : Scan) : Option Scan :=
  let stale (k : Option PossibleKey) : Bool := k.any (isStale s.cursor.position)
  if s.keys.any fun k => stale k && k.any (·.required) then none
  else some { s with keys := s.keys.map fun k => if stale k then none else k }

/-- Opens a block collection if the indentation asks for it; its token goes before the one with a
number. -/
def openBlock (s : Scan) (column : Nat) (at_ : Nat) (t : Token) : Scan :=
  if !s.inFlow && s.indent < (column : Int) then
    { s.insert at_ t with indent := column, outer := s.indent :: s.outer }
  else s

/-- Closes the block collections that are indented more than a column. -/
def closeBlocks (s : Scan) (column : Int) : Scan :=
  if s.inFlow then s
  else
    let all := s.indent :: s.outer
    let left := all.dropWhile (column < ·)
    let closed := (all.takeWhile (column < ·)).length
    { s with
      tokens := s.tokens ++ Array.replicate closed .blockEnd
      indent := left.headD (-1)
      outer := left.tail }

/-- What to do between tokens: white space, line breaks and comments. -/
def gapStep (inFlow : Bool) (s : Bool × Bool) (_ : Position) (cs : List Char) :
    Move (Bool × Bool) :=
  let (inComment, keyAllowed) := s
  match cs with
  | [] => .stop
  | c :: _ =>
    if isBreak c then .go (false, keyAllowed || !inFlow)
    else if inComment then .go s
    else if c = ' ' ∨ (c = '\t' ∧ (inFlow || !keyAllowed)) then .go s
    else if c = '#' then .go (true, keyAllowed)
    else .stop

def skipGap? (s : Scan) : Option Scan :=
  (s.cursor.run (gapStep s.inFlow) (false, s.keyAllowed)).map fun (mode, cursor) =>
    { s with cursor, keyAllowed := mode.2 }

/-! ## Tokens by their first character -/

def separator? (s : Scan) (t : Token) : Option Scan :=
  (s.closeBlocks (-1)).dropKey?.map fun s => { (s.skip 3).push t with keyAllowed := false }

def openFlow? (s : Scan) (t : Token) : Option Scan :=
  s.markKey?.map fun s => { (s.skip 1).push t with keys := none :: s.keys, keyAllowed := true }

def closeFlow? (s : Scan) (t : Token) : Option Scan :=
  s.dropKey?.map fun s =>
    { (s.skip 1).push t with
      keys := if s.inFlow then s.keys.tail else s.keys
      keyAllowed := false }

def flowEntry? (s : Scan) : Option Scan :=
  s.dropKey?.map fun s => { (s.skip 1).push .flowEntry with keyAllowed := true }

def openHere? (s : Scan) (t : Token) : Option Scan :=
  if s.inFlow then some s
  else if s.keyAllowed then some (s.openBlock s.cursor.position.column s.tokens.size t)
  else none

def blockEntry? (s : Scan) : Option Scan := do
  let s ← s.openHere? .blockSequenceStart
  let s ← s.dropKey?
  return { (s.skip 1).push .blockEntry with keyAllowed := true }

def key? (s : Scan) : Option Scan := do
  let s ← s.openHere? .blockMappingStart
  let s ← s.dropKey?
  return { (s.skip 1).push .key with keyAllowed := !s.inFlow }

/-- The colon of a value; what is before it may turn out a key. -/
def value? (s : Scan) : Option Scan :=
  match s.keys with
  | some k :: rest =>
    let s := { s.insert k.token .key with keys := none :: rest }
    let s := s.openBlock k.position.column k.token .blockMappingStart
    some { (s.skip 1).push .value with keyAllowed := false }
  | _ =>
    (s.openHere? .blockMappingStart).map fun s =>
      { (s.skip 1).push .value with keyAllowed := !s.inFlow }

def endsName (cs : List Char) : Bool :=
  endsHere cs || cs.head?.any fun c => "?:,]\x7d%@\x60".toList.contains c

def name? (s : Scan) (make : String → Token) : Option Scan := do
  let s ← s.markKey?
  let (name, cursor) := (s.cursor.skip 1).span isNameChar
  if name.isEmpty || !endsName cursor.rest then none
  else return { s.push (make (String.ofList name)) with cursor, keyAllowed := false }

def tag? (s : Scan) : Option Scan := do
  let s ← s.markKey?
  let (handle, rest, cursor) ← Tag.read? s.cursor
  if endsHere cursor.rest || (s.inFlow && cursor.rest.head? == some ',') then
    return { s.push (.tag handle rest) with cursor, keyAllowed := false }
  else none

def block? (s : Scan) (folded : Bool) : Option Scan := do
  let s ← s.dropKey?
  let (head, body) ← (s.cursor.skip 1).run headStep {}
  let indent := if head.indent = 0 then 0 else s.indent.toNat + head.indent
  let (block, cursor) ← body.run (Block.step folded s.indent) { indent }
  let style := if folded then Style.folded else .literal
  return { s.push (.scalar (block.result head.chomp) style) with cursor, keyAllowed := true }

def quoted? (s : Scan) (single : Bool) : Option Scan := do
  let s ← s.markKey?
  let (quoted, cursor) ← (s.cursor.skip 1).run (quotedStep single) {}
  return { s.push (.scalar quoted.fold.result .quoted) with cursor, keyAllowed := false }

/-- A plain scalar; after a line break a key may start. -/
def plain? (s : Scan) : Option Scan := do
  let s ← s.markKey?
  let (fold, cursor) ← s.cursor.run (plainStep (s.indent + 1) s.inFlow) {}
  return { s.push (.scalar fold.result .plain) with cursor, keyAllowed := fold.gap.broken }

def directive? (s : Scan) : Option Scan := do
  let s ← (s.closeBlocks (-1)).dropKey?
  let start := s.cursor.skip 1
  let d ← Directive.read? start
  return { s.push (.directive d) with cursor := (start.span (!isBreak ·)).2, keyAllowed := false }

def startsPlain (inFlow : Bool) (c : Char) (rest : List Char) : Bool :=
  !(isSpace c || isBreak c || "-?:,[]\x7b\x7d#&*!|>'\"%@\x60".toList.contains c) ||
    (c == '-' && !(rest.head?.any isSpace)) ||
    (!inFlow && (c == '?' || c == ':') && !endsHere rest)

def token? (s : Scan) : Option Scan :=
  let column := s.cursor.position.column
  match s.cursor.rest with
  | [] => some s
  | c :: rest =>
    if column == 0 && c == '%' then s.directive?
    else if Cursor.isSeparator column (c :: rest) '-' then s.separator? .documentStart
    else if Cursor.isSeparator column (c :: rest) '.' then s.separator? .documentEnd
    else if c == '[' then s.openFlow? .flowSequenceStart
    else if c == '{' then s.openFlow? .flowMappingStart
    else if c == ']' then s.closeFlow? .flowSequenceEnd
    else if c == '}' then s.closeFlow? .flowMappingEnd
    else if c == ',' then s.flowEntry?
    else if c == '-' && endsHere rest then s.blockEntry?
    else if c == '?' && (s.inFlow || endsHere rest) then s.key?
    else if c == ':' && (s.inFlow || endsHere rest) then s.value?
    else if c == '*' then s.name? .alias
    else if c == '&' then s.name? .anchor
    else if c == '!' then s.tag?
    else if c == '|' && !s.inFlow then s.block? false
    else if c == '>' && !s.inFlow then s.block? true
    else if c == '\'' then s.quoted? true
    else if c == '"' then s.quoted? false
    else if startsPlain s.inFlow c rest then s.plain?
    else none

/-- Reads tokens to the end of the text; each but the last step takes a character. -/
def all? : Nat → Scan → Option (List Token)
  | 0, _ => none
  | fuel + 1, s => do
    let s ← s.skipGap?
    let s ← s.dropStale?
    let s := s.closeBlocks s.cursor.position.column
    if s.cursor.rest.isEmpty then
      let s ← (s.closeBlocks (-1)).dropKey?
      return s.tokens.toList
    else all? fuel (← s.token?)

end Scan

def isOrderMark (c : Char) : Bool := c.toNat == 0xFEFF

/-- The start of a text: a byte order mark is no part of it, and one after it takes a column. -/
def start (cs : List Char) : Cursor :=
  let cs := if cs.head?.any isOrderMark then cs.tail else cs
  let cursor : Cursor := { rest := cs }
  if cs.head?.any isOrderMark then cursor.skip 1 else cursor

def tokens? (text : String) : Option (List Token) :=
  if text.toList.all isAllowed then
    let cs := alikeBreaks text.toList
    Scan.all? (cs.length + 1) { cursor := start cs }
  else none

end OffloadVolume.Yaml
