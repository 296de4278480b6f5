import OffloadVolume.Document.Basic
import OffloadVolume.Document.Yaml.Token

/-!
# YAML nodes

The tokens of a text build scalars, sequences and mappings. A node may be named by an anchor and
stand again where an alias names it, also inside of itself. A text holds at most one document.
-/

namespace OffloadVolume.Yaml

inductive Node where
  | scalar (text : String) (style : Style) (tag : Option String)
  | sequence (items : List Node)
  | mapping (entries : List (Node × Node))
  /-- A node that has an anchor, by its number. -/
  | anchored (number : Nat) (node : Node)
  /-- The node that has the anchor of a number. -/
  | alias (number : Nat)
  deriving Repr

namespace Node

/-- The node where nothing is written. -/
def empty : Node := scalar "" .plain none

instance : Inhabited Node := ⟨empty⟩

end Node

/-- The tokens that are left, the shorthands of tags, and the numbers of the anchors. -/
structure Parse where
  tokens : List Token
  shorthands : List (String × String) := []
  anchors : List (String × Nat) := []
  deriving Repr

/-- What a node is named and tagged with. -/
structure Properties where
  anchor : Option String := none
  tag : Option String := none
  deriving Repr

namespace Properties

def isEmpty (p : Properties) : Bool := p.anchor.isNone && p.tag.isNone

end Properties

namespace Parse

/-- The shorthands that need not be declared. -/
def standardShorthands : List (String × String) := [("!", "!"), ("!!", "tag:yaml.org,2002:")]

/-- The full text of a tag, if its handle is declared. -/
def tag? (s : Parse) (handle rest : String) : Option String :=
  if handle.isEmpty then some rest
  else ((s.shorthands ++ standardShorthands).find? fun h => h.1 == handle).map (·.2 ++ rest)

/-- Reads the properties of a node: an anchor and a tag in either order. -/
def properties? (s : Parse) : Option (Properties × Parse) :=
  match s.tokens with
  | .anchor name :: .tag handle rest :: tokens | .tag handle rest :: .anchor name :: tokens =>
    (s.tag? handle rest).map fun tag => (⟨some name, some tag⟩, { s with tokens })
  | .anchor name :: tokens => some (⟨some name, none⟩, { s with tokens })
  | .tag handle rest :: tokens =>
    (s.tag? handle rest).map fun tag => (⟨none, some tag⟩, { s with tokens })
  | _ => some ({}, s)

/-- Numbers an anchor by how many names there are. -/
def anchor (s : Parse) (name : String) : Nat × Parse :=
  let others := s.anchors.filter (·.1 != name)
  (s.anchors.length, { s with anchors := (name, s.anchors.length) :: others })

def isAt (s : Parse) (ts : List Token) : Bool := s.tokens.head?.any ts.contains

mutual

/-- Reads a node. A block collection may stand only in a block, and a sequence without an
indentation of its own only as a part of a mapping. -/
def node? : Nat → (inBlock noIndent : Bool) → Parse → Option (Node × Parse)
  | 0, _, _, _ => none
  | fuel + 1, inBlock, noIndent, s =>
    match s.tokens with
    | .alias name :: tokens =>
      (s.anchors.find? fun a => a.1 == name).map fun a => (.alias a.2, { s with tokens })
    | _ => do
      let (p, s) ← s.properties?
      match p.anchor with
      | some name =>
        let (number, s) := s.anchor name
        let (n, s) ← content? fuel inBlock noIndent p s
        return (.anchored number n, s)
      | none => content? fuel inBlock noIndent p s

def content? : Nat → (inBlock noIndent : Bool) → Properties → Parse → Option (Node × Parse)
  | 0, _, _, _, _ => none
  | fuel + 1, inBlock, noIndent, p, s =>
    match s.tokens with
    | .scalar text style :: tokens => some (.scalar text style p.tag, { s with tokens })
    | .flowSequenceStart :: tokens =>
      (flowItems? fuel true { s with tokens }).map fun (l, s) => (.sequence l, s)
    | .flowMappingStart :: tokens =>
      (flowEntries? fuel true { s with tokens }).map fun (l, s) => (.mapping l, s)
    | .blockEntry :: _ =>
      if noIndent then (looseItems? fuel s).map fun (l, s) => (.sequence l, s)
      else if p.isEmpty then none
      else some (.scalar "" .plain p.tag, s)
    | .blockSequenceStart :: tokens =>
      if inBlock then (blockItems? fuel { s with tokens }).map fun (l, s) => (.sequence l, s)
      else if p.isEmpty then none
      else some (.scalar "" .plain p.tag, s)
    | .blockMappingStart :: tokens =>
      if inBlock then (blockEntries? fuel { s with tokens }).map fun (l, s) => (.mapping l, s)
      else if p.isEmpty then none
      else some (.scalar "" .plain p.tag, s)
    | _ => if p.isEmpty then none else some (.scalar "" .plain p.tag, s)

/-- Reads a node unless the next token is one of some, or the tokens are at their end. -/
def nodeUnless? : Nat → (inBlock noIndent : Bool) → List Token → Parse → Option (Node × Parse)
  | 0, _, _, _, _ => none
  | fuel + 1, inBlock, noIndent, ts, s =>
    if s.isAt ts then some (.empty, s) else node? fuel inBlock noIndent s

def blockItems? : Nat → Parse → Option (List Node × Parse)
  | 0, _ => none
  | fuel + 1, s =>
    match s.tokens with
    | .blockEntry :: tokens => do
      let (n, s) ← nodeUnless? fuel true false [.blockEntry, .blockEnd] { s with tokens }
      let (l, s) ← blockItems? fuel s
      return (n :: l, s)
    | .blockEnd :: tokens => some ([], { s with tokens })
    | _ => none

/-- Reads the items of a sequence without an indentation of its own. -/
def looseItems? : Nat → Parse → Option (List Node × Parse)
  | 0, _ => none
  | fuel + 1, s =>
    match s.tokens with
    | .blockEntry :: tokens => do
      let (n, s) ← nodeUnless? fuel true false [.blockEntry, .key, .value, .blockEnd]
        { s with tokens }
      let (l, s) ← looseItems? fuel s
      return (n :: l, s)
    | _ => some ([], s)

def blockEntries? : Nat → Parse → Option (List (Node × Node) × Parse)
  | 0, _ => none
  | fuel + 1, s =>
    match s.tokens with
    | .key :: tokens => do
      let (k, s) ← nodeUnless? fuel true true [.key, .value, .blockEnd] { s with tokens }
      let (v, s) ← blockValue? fuel s
      let (l, s) ← blockEntries? fuel s
      return ((k, v) :: l, s)
    | .blockEnd :: tokens => some ([], { s with tokens })
    | _ => none

def blockValue? : Nat → Parse → Option (Node × Parse)
  | 0, _ => none
  | fuel + 1, s =>
    match s.tokens with
    | .value :: tokens =>
      nodeUnless? fuel true true [.key, .value, .blockEnd] { s with tokens }
    | _ => some (.empty, s)

/-- Reads the items of a flow sequence and its end. An item may be a mapping of one entry. -/
def flowItems? : Nat → (first : Bool) → Parse → Option (List Node × Parse)
  | 0, _, _ => none
  | fuel + 1, first, s =>
    match s.tokens with
    | .flowSequenceEnd :: tokens => some ([], { s with tokens })
    | .flowEntry :: tokens =>
      if first then none else flowItem? fuel { s with tokens }
    | _ => if first then flowItem? fuel s else none

def flowItem? : Nat → Parse → Option (List Node × Parse)
  | 0, _ => none
  | fuel + 1, s =>
    match s.tokens with
    | .flowSequenceEnd :: tokens => some ([], { s with tokens })
    | .key :: tokens => do
      let (k, s) ← flowKey? fuel { s with tokens }
      let (v, s) ← flowValue? fuel .flowSequenceEnd s
      let (l, s) ← flowItems? fuel false s
      return (.mapping [(k, v)] :: l, s)
    | _ => do
      let (n, s) ← node? fuel false false s
      let (l, s) ← flowItems? fuel false s
      return (n :: l, s)

/-- Reads the key of a mapping of one entry; where it is missing, the token there is lost. -/
def flowKey? : Nat → Parse → Option (Node × Parse)
  | 0, _ => none
  | fuel + 1, s =>
    if s.isAt [.value, .flowEntry, .flowSequenceEnd] then
      some (.empty, { s with tokens := s.tokens.tail })
    else node? fuel false false s

def flowValue? : Nat → (ending : Token) → Parse → Option (Node × Parse)
  | 0, _, _ => none
  | fuel + 1, ending, s =>
    match s.tokens with
    | .value :: tokens => nodeUnless? fuel false false [.flowEntry, ending] { s with tokens }
    | _ => some (.empty, s)

def flowEntries? : Nat → (first : Bool) → Parse → Option (List (Node × Node) × Parse)
  | 0, _, _ => none
  | fuel + 1, first, s =>
    match s.tokens with
    | .flowMappingEnd :: tokens => some ([], { s with tokens })
    | .flowEntry :: tokens =>
      if first then none else flowEntry? fuel { s with tokens }
    | _ => if first then flowEntry? fuel s else none

def flowEntry? : Nat → Parse → Option (List (Node × Node) × Parse)
  | 0, _ => none
  | fuel + 1, s =>
    match s.tokens with
    | .flowMappingEnd :: tokens => some ([], { s with tokens })
    | .key :: tokens => do
      let (k, s) ← nodeUnless? fuel false false [.value, .flowEntry, .flowMappingEnd]
        { s with tokens }
      let (v, s) ← flowValue? fuel .flowMappingEnd s
      let (l, s) ← flowEntries? fuel false s
      return ((k, v) :: l, s)
    | _ => do
      let (k, s) ← node? fuel false false s
      let (l, s) ← flowEntries? fuel false s
      return ((k, .empty) :: l, s)

end

/-- Takes the directives before a document: one version at most, and shorthands that differ. -/
def directives? (versionSeen : Bool) : List Token → Parse → Option Parse
  | .directive (.version major minor) :: tokens, s =>
    if !versionSeen && major == 1 && (minor == 1 || minor == 2) then directives? true tokens s
    else none
  | .directive (.shorthand handle start) :: tokens, s =>
    if s.shorthands.any fun h => h.1 == handle then none
    else directives? versionSeen tokens { s with shorthands := (handle, start) :: s.shorthands }
  | tokens, s => some { s with tokens }

def isExplicit : List Token → Bool
  | .directive _ :: _ | .documentStart :: _ => true
  | _ => false

def isWithoutContent : List Token → Bool
  | [] | .documentEnd :: _ => true
  | tokens => isExplicit tokens

def document? (fuel : Nat) (tokens : List Token) : Option (Node × Parse) :=
  if isExplicit tokens then
    match directives? false tokens { tokens } with
    | some s =>
      match s.tokens with
      | .documentStart :: tokens =>
        if isWithoutContent tokens then some (.empty, { s with tokens })
        else node? fuel true false { s with tokens }
      | _ => none
    | none => none
  else node? fuel true false { tokens }

end Parse

/-- The node of a text, unless the text holds no document; a second one is refused. -/
def Node.ofTokens? (tokens : List Token) : Option (Option Node) :=
  if tokens.isEmpty then some none
  else
    match Parse.document? (8 * tokens.length + 8) tokens with
    | some (n, s) => if s.tokens.all (· == .documentEnd) then some (some n) else none
    | none => none

def numberTag : String := "tag:yaml.org,2002:int"

/-- The whole number that a text stands for: decimal without superfluous zeros, or in a radix that
its start tells. -/
def number? (text : String) : Option Nat :=
  let unsigned := match text.toList with
    | '+' :: rest => rest
    | cs => cs
  match unsigned with
  | '0' :: 'x' :: rest => Numeral.ofDigits? 16 rest
  | '0' :: 'o' :: rest => Numeral.ofDigits? 8 rest
  | '0' :: 'b' :: rest => Numeral.ofDigits? 2 rest
  | ['0'] => some 0
  | '0' :: _ => none
  | cs => Numeral.ofDigits? 10 cs

mutual

/-- The nodes that have anchors, by number, in the order in which they start. -/
def Node.anchors : Node → List (Nat × Node)
  | .scalar .. | .alias _ => []
  | .sequence items => Node.anchorsOfItems items
  | .mapping entries => Node.anchorsOfEntries entries
  | .anchored number node => (number, node) :: node.anchors

def Node.anchorsOfItems : List Node → List (Nat × Node)
  | [] => []
  | n :: rest => n.anchors ++ Node.anchorsOfItems rest

def Node.anchorsOfEntries : List (Node × Node) → List (Nat × Node)
  | [] => []
  | (k, v) :: rest => k.anchors ++ v.anchors ++ Node.anchorsOfEntries rest

end

/-- The node that stands at a place: of the nodes that share a number, the last one. -/
def Node.target (anchors : List (Nat × Node)) : Node → Node
  | .alias number => ((anchors.filter (·.1 == number)).getLast?.map (·.2)).getD .empty
  | .anchored _ node => node
  | n => n

def scalarDocument (text : String) (style : Style) (tag : Option String) : Document :=
  if text.isEmpty && style == .plain then .blank
  else if style == .plain || (style == .literal && tag == some numberTag) then
    .leaf (number? text) (some text)
  else .leaf none (some text)

/-- The document of a node: its records down to so many levels, for those below are not read and a
node may stand inside of itself. -/
def Node.document (anchors : List (Nat × Node)) : (levels : Nat) → Node → Document
  | 0, n =>
    match n.target anchors with
    | .scalar text style tag => scalarDocument text style tag
    | _ => .leaf none none
  | levels + 1, n =>
    match n.target anchors with
    | .scalar text style tag => scalarDocument text style tag
    | .mapping entries =>
      .record (entries.map fun (k, v) =>
        ((k.document anchors levels).text?, v.document anchors levels))
    | _ => .leaf none none

def parse? (levels : Nat) (text : String) : Option Document :=
  ((tokens? text).bind Node.ofTokens?).map fun n =>
    match n with
    | some n => n.document n.anchors levels
    | none => .blank

end OffloadVolume.Yaml
