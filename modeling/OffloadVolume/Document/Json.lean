import OffloadVolume.Document.Basic

/-!
# JSON documents

The text is cut into tokens character by character, and the tokens build a document with a stack of
the lists and records that are open. Nesting is not bounded. A record may be written as the list of
its fields.
-/

namespace OffloadVolume.Json

/-- The tokens of JSON. A number is kept if it is a whole one without a sign; a text is not kept if
it holds half of a surrogate pair. -/
inductive Token where
  | opening (isRecord : Bool)
  | close (isRecord : Bool)
  | comma
  | colon
  | text (content : Option String)
  | number (value : Option Nat)
  | word
  deriving DecidableEq, Repr

/-! ## Tokens -/

def isDigits (cs : List Char) : Bool := !cs.isEmpty && cs.all Char.isDigit

/-- Whether characters are digits that do not start with a superfluous zero. -/
def isWhole (cs : List Char) : Bool := isDigits cs && (cs.length == 1 || cs.head? != some '0')

def isTail (cs : List Char) : Bool :=
  let exponent (cs : List Char) : Bool :=
    match cs with
    | [] => true
    | e :: '+' :: rest | e :: '-' :: rest => (e == 'e' || e == 'E') && isDigits rest
    | e :: rest => (e == 'e' || e == 'E') && isDigits rest
  match cs with
  | '.' :: rest => isDigits (rest.takeWhile Char.isDigit) && exponent (rest.dropWhile Char.isDigit)
  | cs => exponent cs

/-- The token of a run of characters outside of texts and marks. -/
def wordToken? (cs : List Char) : Option Token :=
  if cs = "true".toList ∨ cs = "false".toList ∨ cs = "null".toList then some .word
  else
    let (negative, unsigned) :=
      match cs with
      | '-' :: rest => (true, rest)
      | cs => (false, cs)
    let whole := unsigned.takeWhile Char.isDigit
    let rest := unsigned.dropWhile Char.isDigit
    if isWhole whole && isTail rest then
      some (.number (if negative || !rest.isEmpty then none else Numeral.value? 10 whole))
    else none

/-- The text of code units, of which a pair of surrogates stands for one character. -/
def ofUnits? : List Nat → Option (List Char)
  | [] => some []
  | [u] => if u / 1024 = 54 ∨ u / 1024 = 55 then none else some [Char.ofNat u]
  | u :: v :: rest =>
    if u / 1024 = 54 then
      if v / 1024 = 55 then
        (ofUnits? rest).map (Char.ofNat (65536 + u % 1024 * 1024 + v % 1024) :: ·)
      else none
    else if u / 1024 = 55 then none
    else (ofUnits? (v :: rest)).map (Char.ofNat u :: ·)

/-- What the next character belongs to. Units are kept with the latest first. -/
inductive Mode where
  | between
  | word (run : List Char)
  | text (units : List Nat)
  | escape (units : List Nat)
  | unicode (units : List Nat) (missing value : Nat)
  deriving Repr

/-- The tokens read, with the latest first, and what is being read. -/
structure Reading where
  tokens : List Token := []
  mode : Mode := .between
  deriving Repr

def isWordChar (c : Char) : Bool := c.isAlphanum || c == '+' || c == '-' || c == '.'

def escaped? (c : Char) : Option Char :=
  match c with
  | '"' => some '"'
  | '\\' => some '\\'
  | '/' => some '/'
  | 'b' => some '\x08'
  | 'f' => some '\x0C'
  | 'n' => some '\n'
  | 'r' => some '\r'
  | 't' => some '\t'
  | _ => none

namespace Reading

def start? (tokens : List Token) (c : Char) : Option Reading :=
  match c with
  | ' ' | '\t' | '\n' | '\r' => some ⟨tokens, .between⟩
  | '{' => some ⟨.opening true :: tokens, .between⟩
  | '[' => some ⟨.opening false :: tokens, .between⟩
  | '}' => some ⟨.close true :: tokens, .between⟩
  | ']' => some ⟨.close false :: tokens, .between⟩
  | ',' => some ⟨.comma :: tokens, .between⟩
  | ':' => some ⟨.colon :: tokens, .between⟩
  | '"' => some ⟨tokens, .text []⟩
  | c => if isWordChar c then some ⟨tokens, .word [c]⟩ else none

def next? (r : Reading) (c : Char) : Option Reading :=
  match r.mode with
  | .between => start? r.tokens c
  | .word run =>
    if isWordChar c then some ⟨r.tokens, .word (c :: run)⟩
    else (wordToken? run.reverse).bind fun t => start? (t :: r.tokens) c
  | .text units =>
    if c = '"' then
      some ⟨.text ((ofUnits? units.reverse).map String.ofList) :: r.tokens, .between⟩
    else if c = '\\' then some ⟨r.tokens, .escape units⟩
    else if c.toNat < 32 then none
    else some ⟨r.tokens, .text (c.toNat :: units)⟩
  | .escape units =>
    if c = 'u' then some ⟨r.tokens, .unicode units 4 0⟩
    else (escaped? c).map fun e => ⟨r.tokens, .text (e.toNat :: units)⟩
  | .unicode units missing value =>
    (Numeral.digit? c).bind fun d =>
      if 16 ≤ d then none
      else if missing = 1 then some ⟨r.tokens, .text ((value * 16 + d) :: units)⟩
      else some ⟨r.tokens, .unicode units (missing - 1) (value * 16 + d)⟩

def finish? (r : Reading) : Option (List Token) :=
  match r.mode with
  | .between => some r.tokens.reverse
  | .word run => (wordToken? run.reverse).map fun t => (t :: r.tokens).reverse
  | _ => none

end Reading

def tokens? (s : String) : Option (List Token) :=
  (s.toList.foldlM Reading.next? {}).bind Reading.finish?

/-! ## Documents -/

/-- A list or a record that is open, its parts with the latest first. -/
inductive Frame where
  | list (items : List Document)
  | record (members : List (Option String × Document)) (key : Option String)
  deriving Repr

inductive Expected where
  | value
  | valueOrClose
  | key
  | keyOrClose
  | colon
  | commaOrClose
  | ending
  deriving DecidableEq, Repr

/-- What is open, innermost first, and what may come next; in the end the document. -/
structure Building where
  frames : List Frame := []
  expected : Expected := .value
  result : Document := .blank
  deriving Repr

namespace Building

def put (frames : List Frame) (d : Document) : Building :=
  match frames with
  | [] => ⟨[], .ending, d⟩
  | .list items :: outer => ⟨.list (d :: items) :: outer, .commaOrClose, .blank⟩
  | .record members key :: outer =>
    ⟨.record ((key, d) :: members) none :: outer, .commaOrClose, .blank⟩

def value? (frames : List Frame) : Token → Option Building
  | .opening true => some ⟨.record [] none :: frames, .keyOrClose, .blank⟩
  | .opening false => some ⟨.list [] :: frames, .valueOrClose, .blank⟩
  | .text content => some (put frames (.leaf none content))
  | .number value => some (put frames (.leaf value none))
  | .word => some (put frames (.leaf none none))
  | _ => none

def close? (frames : List Frame) (isRecord : Bool) : Option Building :=
  match frames, isRecord with
  | .list items :: outer, false => some (put outer (.ordered items.reverse))
  | .record members _ :: outer, true => some (put outer (.record members.reverse))
  | _, _ => none

def key? (frames : List Frame) : Token → Option Building
  | .text content =>
    match frames with
    | .record members _ :: outer => some ⟨.record members content :: outer, .colon, .blank⟩
    | _ => none
  | _ => none

def next? (b : Building) (t : Token) : Option Building :=
  match b.expected, t with
  | .value, t => value? b.frames t
  | .valueOrClose, .close isRecord => close? b.frames isRecord
  | .valueOrClose, t => value? b.frames t
  | .key, t => key? b.frames t
  | .keyOrClose, .close isRecord => close? b.frames isRecord
  | .keyOrClose, t => key? b.frames t
  | .colon, .colon => some { b with expected := .value }
  | .commaOrClose, .close isRecord => close? b.frames isRecord
  | .commaOrClose, .comma =>
    match b.frames with
    | .list _ :: _ => some { b with expected := .value }
    | .record .. :: _ => some { b with expected := .key }
    | [] => none
  | _, _ => none

end Building

def parse? (s : String) : Option Document :=
  match (tokens? s).bind fun ts => ts.foldlM Building.next? {} with
  | some ⟨_, .ending, d⟩ => some d
  | _ => none

end OffloadVolume.Json
