import OffloadVolume.Text.Utf8
import OffloadVolume.Wire.Record

/-!
# Message codecs

A message type is described by its fields, each with a tag and a way to write and read its values.
A field whose value is the one that an absent record stands for is left out. Reading merges the
records into a message one after another, so that the last value counts and messages inside
messages are merged, and leaves out records of other tags. Main statement: `merge?_append`, merging
two sequences one after the other is merging the two together.
-/

namespace OffloadVolume.Wire

/-- How values of one kind are kept in records. -/
structure Kind (α : Type) where
  /-- The value without a record. -/
  absent : α
  /-- What is written of a value, if anything. -/
  write : α → Option Payload
  /-- The value after one more record, with a budget for what may be nested. -/
  merge? : Nat → Payload → α → Option α

namespace Kind

def text : Kind String where
  absent := ""
  write s := if s.isEmpty then none else some (.bytes (Utf8.encode s))
  merge? _ p _ :=
    match p with
    | .bytes content => Utf8.decode? content
    | _ => none

def ofNumber (absent : α) (isAbsent : α → Bool) (toNumber : α → UInt64) (ofNumber : UInt64 → α) :
    Kind α where
  absent := absent
  write a := if isAbsent a then none else some (.varint (toNumber a))
  merge? _ p _ :=
    match p with
    | .varint n => some (ofNumber n)
    | _ => none

/-- Truth values; every number but 0 is true. -/
def flag : Kind Bool := ofNumber false (!·) Bool.toUInt64 (· != 0)

/-- Signed numbers of 32 bits; they are written with 64, of which the low 32 are read. -/
def int32 : Kind Int32 := ofNumber 0 (· == 0) (·.toInt64.toUInt64) (·.toUInt32.toInt32)

def int64 : Kind Int64 := ofNumber 0 (· == 0) Int64.toUInt64 UInt64.toInt64

end Kind

/-- One field of messages of a type. -/
structure Field (M : Type) where
  tag : Nat
  write : M → Option Payload
  merge? : Nat → Payload → M → Option M

def Field.of (tag : Nat) (kind : Kind α) (get : M → α) (set : α → M → M) : Field M where
  tag := tag
  write m := kind.write (get m)
  merge? budget p m := (kind.merge? budget p (get m)).map (set · m)

/-- A message type: the message without records, and the fields in the order of their tags. -/
structure Codec (M : Type) where
  empty : M
  fields : List (Field M)

namespace Codec

variable {M : Type}

def records (c : Codec M) (m : M) : List Record :=
  c.fields.filterMap fun f => (f.write m).map (Record.mk f.tag)

def encode (c : Codec M) (m : M) : List UInt8 := (c.records m).flatMap Record.encode

def mergeRecord? (c : Codec M) (budget : Nat) (m : M) (r : Record) : Option M :=
  match c.fields.find? (·.tag == r.tag) with
  | some f => f.merge? budget r.payload m
  | none => some m

def merge? (c : Codec M) (budget : Nat) (m : M) (bytes : List UInt8) : Option M :=
  (Record.readAll? budget bytes).bind (·.foldlM (c.mergeRecord? budget) m)

/-- How deep messages and groups may be nested. -/
def depthLimit : Nat := 100

def decode? (c : Codec M) (bytes : List UInt8) : Option M := c.merge? depthLimit c.empty bytes

/-- To merge two byte sequences one after the other is to merge them put together, if the first one
ends with a record. -/
theorem merge?_append {c : Codec M} {budget : Nat} {m : M} {a b : List UInt8} {rs : List Record}
    (h : Record.readAll? budget a = some rs) :
    c.merge? budget m (a ++ b) = (c.merge? budget m a).bind fun m => c.merge? budget m b := by
  simp only [merge?, Record.readAll?_append b h, h]
  cases Record.readAll? budget b with
  | none => simp
  | some bs => simp [List.foldlM_append, bind, Option.bind]

end Codec

/-- A message inside another one; it is written also when all its fields are left out. -/
def Kind.message {N : Type} (c : Codec N) : Kind (Option N) where
  absent := none
  write o := o.map fun n => .bytes (c.encode n)
  merge? budget p o :=
    match budget, p with
    | budget + 1, .bytes content => (c.merge? budget (o.getD c.empty) content).map some
    | _, _ => none

end OffloadVolume.Wire
