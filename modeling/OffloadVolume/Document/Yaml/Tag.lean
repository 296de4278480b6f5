import OffloadVolume.Document.Yaml.Cursor
import OffloadVolume.Text.Numeral

/-!
# YAML tags

A tag has a handle, which a directive may stand for some text, and what follows the handle. A
character of a tag may be written as its bytes, each a percent sign with two digits of radix 16.
-/

namespace OffloadVolume.Yaml.Tag

def isTagChar (c : Char) : Bool := c.isAlphanum || "_-;/?:@&=+$.%!~*'()".toList.contains c

/-- Whether a character may stand in a tag between angle brackets or in what a handle stands for. -/
def isUriChar (c : Char) : Bool := isTagChar c || ",[]".toList.contains c

/-- What the first byte of a character gives to its value, and how many bytes follow it. -/
def leadByte? (b : Nat) : Option (Nat × Nat) :=
  if b < 0x80 then some (b, 0)
  else if b / 32 = 0b110 then some (b % 32, 1)
  else if b / 16 = 0b1110 then some (b % 16, 2)
  else if b / 8 = 0b11110 then some (b % 8, 3)
  else none

/-- What one more byte gives to a character's value, and how many bytes are left. -/
def push? (value left b : Nat) : Option (Nat × Nat) :=
  if left = 0 then leadByte? b
  else if b / 64 = 0b10 then some (value * 64 + b % 64, left - 1)
  else none

/-- Reads escaped characters; the bytes of one must follow each other. -/
def unescapeFrom? (value left : Nat) : List Char → Option (List Char)
  | [] => if left = 0 then some [] else none
  | '%' :: a :: b :: rest => do
    let (value, left) ← push? value left (← Numeral.ofDigits? 16 [a, b])
    let l ← unescapeFrom? value left rest
    return if left = 0 then Char.ofNat value :: l else l
  | c :: rest =>
    if left = 0 ∧ c ≠ '%' then (unescapeFrom? 0 0 rest).map (c :: ·) else none

/-- The text of escaped characters, up to a null character. -/
def unescape? (cs : List Char) : Option String :=
  (unescapeFrom? 0 0 cs).map fun l => String.ofList (l.takeWhile (·.toNat != 0))

def named? (c : Cursor) : Option (String × Cursor) :=
  let (name, after) := (c.skip 1).span isNameChar
  if c.rest.head? == some '!' && after.rest.head? == some '!' then
    some ("!" ++ String.ofList name ++ "!", after.skip 1)
  else none

def parts? (c : Cursor) : Option (String × List Char × Cursor) :=
  match c.rest with
  | '!' :: '<' :: _ =>
    let (text, cursor) := (c.skip 2).span isUriChar
    if text.isEmpty || cursor.rest.head? != some '>' then none
    else some ("", text, cursor.skip 1)
  | _ =>
    match named? c with
    | some (handle, cursor) =>
      let (text, cursor) := cursor.span isTagChar
      if text.isEmpty then none else some (handle, text, cursor)
    | none =>
      let (text, cursor) := (c.skip 1).span isTagChar
      if text.isEmpty then some ("", ['!'], cursor) else some ("!", text, cursor)

def read? (c : Cursor) : Option (String × String × Cursor) := do
  let (handle, text, cursor) ← parts? c
  return (handle, ← unescape? text, cursor)

end OffloadVolume.Yaml.Tag
