import OffloadVolume.Wire.Varint

/-!
# Records

A message on the wire is a sequence of records, each a tag and a payload of one of five forms.
Groups are recognised and left out. Main statements: `readAll?_append`, the records of two
sequences are those of the first and then those of the second, and `read?_encode`, a record is read
back from its bytes.
-/

namespace OffloadVolume.Wire

inductive Form where
  | varint
  | fixed64
  | bytes
  | groupStart
  | groupEnd
  | fixed32
  deriving DecidableEq, Repr

namespace Form

def code : Form → Nat
  | varint => 0
  | fixed64 => 1
  | bytes => 2
  | groupStart => 3
  | groupEnd => 4
  | fixed32 => 5

/-- The form of three bits; two of the eight values have none. -/
def ofCode? : Nat → Option Form
  | 0 => some varint
  | 1 => some fixed64
  | 2 => some bytes
  | 3 => some groupStart
  | 4 => some groupEnd
  | 5 => some fixed32
  | _ => none

@[simp] theorem ofCode?_code (f : Form) : ofCode? f.code = some f := by cases f <;> rfl

theorem code_lt (f : Form) : f.code < 8 := by cases f <;> decide

end Form

structure Key where
  tag : Nat
  form : Form
  deriving DecidableEq, Repr

namespace Key

def encode (k : Key) : List UInt8 := Varint.encode (k.tag * 8 + k.form.code)

def limit : Nat := 4294967296

def tagLimit : Nat := 536870912

/-- Reads a key: a number of 32 bits whose tag is not 0. -/
def read? (bytes : List UInt8) : Option (Key × List UInt8) :=
  match Varint.read? bytes with
  | none => none
  | some (n, rest) =>
    if n.toNat < limit ∧ n.toNat / 8 ≠ 0 then
      (Form.ofCode? (n.toNat % 8)).map fun form => (⟨n.toNat / 8, form⟩, rest)
    else none

theorem length_lt_of_read? {bytes rest : List UInt8} {k : Key}
    (h : read? bytes = some (k, rest)) : rest.length < bytes.length := by
  simp only [read?] at h
  split at h
  · simp at h
  · rename_i n r hn
    split at h
    · simp only [Option.map_eq_some_iff, Prod.mk.injEq] at h
      obtain ⟨_, _, _, rfl⟩ := h
      exact Varint.length_lt_of_read? hn
    · simp at h

theorem read?_append {bytes rest more : List UInt8} {k : Key}
    (h : read? bytes = some (k, rest)) : read? (bytes ++ more) = some (k, rest ++ more) := by
  simp only [read?] at h ⊢
  split at h
  · simp at h
  · rename_i n r hn
    rw [Varint.read?_append hn]
    split at h
    · rename_i hc
      simp only [Option.map_eq_some_iff, Prod.mk.injEq] at h
      obtain ⟨f, hf, rfl, rfl⟩ := h
      simp only [if_pos hc, hf, Option.map_some]
    · simp at h

/-- A key is read back from its bytes, with what follows left over. -/
theorem read?_encode {k : Key} (h0 : k.tag ≠ 0) (h : k.tag < tagLimit) (rest : List UInt8) :
    read? (k.encode ++ rest) = some (k, rest) := by
  have hc := k.form.code_lt
  have ht : k.tag < 536870912 := h
  have hn : (UInt64.ofNat (k.tag * 8 + k.form.code)).toNat = k.tag * 8 + k.form.code := by
    rw [UInt64.toNat_ofNat']; omega
  have hr := Varint.read?_encode (UInt64.ofNat (k.tag * 8 + k.form.code)) rest
  rw [hn] at hr
  have hdiv : (k.tag * 8 + k.form.code) / 8 = k.tag := by omega
  have hmod : (k.tag * 8 + k.form.code) % 8 = k.form.code := by omega
  simp only [read?, encode, hr, hn, hdiv, hmod, Form.ofCode?_code]
  rw [if_pos ⟨by unfold limit; omega, h0⟩]
  rfl

end Key

def split? (n : Nat) (bytes : List UInt8) : Option (List UInt8 × List UInt8) :=
  if n ≤ bytes.length then some (bytes.take n, bytes.drop n) else none

theorem length_le_of_split? {n : Nat} {bytes content rest : List UInt8}
    (h : split? n bytes = some (content, rest)) : rest.length ≤ bytes.length := by
  simp only [split?] at h
  split at h
  · simp only [Option.some.injEq, Prod.mk.injEq] at h; simp [← h.2]
  · simp at h

theorem split?_append {n : Nat} {bytes content rest more : List UInt8}
    (h : split? n bytes = some (content, rest)) :
    split? n (bytes ++ more) = some (content, rest ++ more) := by
  simp only [split?] at h ⊢
  split at h
  · rename_i hn
    simp only [Option.some.injEq, Prod.mk.injEq] at h
    rw [if_pos (by simp; omega), List.take_append_of_le_length hn,
      List.drop_append_of_le_length hn, h.1, h.2]
  · simp at h

@[simp] theorem split?_length (content rest : List UInt8) :
    split? content.length (content ++ rest) = some (content, rest) := by simp [split?]

/-- What a record holds. Nothing is kept of a group. -/
inductive Payload where
  | varint (value : UInt64)
  | fixed64 (content : List UInt8)
  | bytes (content : List UInt8)
  | group
  | fixed32 (content : List UInt8)
  deriving DecidableEq, Repr

def Payload.readPlain? (form : Form) (bytes : List UInt8) : Option (Payload × List UInt8) :=
  match form with
  | .varint => (Varint.read? bytes).map fun r => (.varint r.1, r.2)
  | .fixed64 => (split? 8 bytes).map fun r => (.fixed64 r.1, r.2)
  | .bytes =>
    match Varint.read? bytes with
    | none => none
    | some (n, rest) => (split? n.toNat rest).map fun r => (.bytes r.1, r.2)
  | .fixed32 => (split? 4 bytes).map fun r => (.fixed32 r.1, r.2)
  | .groupStart | .groupEnd => none

theorem Payload.length_le_of_readPlain? {form : Form} {bytes rest : List UInt8} {p : Payload}
    (h : readPlain? form bytes = some (p, rest)) : rest.length ≤ bytes.length := by
  cases form with
  | varint =>
    simp only [readPlain?, Option.map_eq_some_iff, Prod.mk.injEq] at h
    obtain ⟨r, hr, -, rfl⟩ := h
    exact Nat.le_of_lt (Varint.length_lt_of_read? hr)
  | fixed64 | fixed32 =>
    simp only [readPlain?, Option.map_eq_some_iff, Prod.mk.injEq] at h
    obtain ⟨r, hr, -, rfl⟩ := h
    exact length_le_of_split? hr
  | bytes =>
    simp only [readPlain?] at h
    split at h
    · simp at h
    · rename_i n r hn
      simp only [Option.map_eq_some_iff, Prod.mk.injEq] at h
      obtain ⟨s, hs, -, rfl⟩ := h
      have := length_le_of_split? hs
      have := Varint.length_lt_of_read? hn
      omega
  | groupStart | groupEnd => simp [readPlain?] at h

theorem Payload.readPlain?_append {form : Form} {bytes rest more : List UInt8} {p : Payload}
    (h : readPlain? form bytes = some (p, rest)) :
    readPlain? form (bytes ++ more) = some (p, rest ++ more) := by
  cases form with
  | varint =>
    simp only [readPlain?, Option.map_eq_some_iff, Prod.mk.injEq] at h
    obtain ⟨r, hr, rfl, rfl⟩ := h
    simp [readPlain?, Varint.read?_append hr]
  | fixed64 | fixed32 =>
    simp only [readPlain?, Option.map_eq_some_iff, Prod.mk.injEq] at h
    obtain ⟨r, hr, rfl, rfl⟩ := h
    simp [readPlain?, split?_append hr]
  | bytes =>
    simp only [readPlain?] at h ⊢
    split at h
    · simp at h
    · rename_i n r hn
      simp only [Option.map_eq_some_iff, Prod.mk.injEq] at h
      obtain ⟨s, hs, rfl, rfl⟩ := h
      simp [Varint.read?_append hn, split?_append hs]
  | groupStart | groupEnd => simp [readPlain?] at h

/-- What follows the groups that are open, the innermost first. A group ends at its own tag, and a
record may stand inside as many groups as the budget exceeds. -/
def skipGroups (budget : Nat) (opened : List Nat) (bytes : List UInt8) : Option (List UInt8) :=
  match opened with
  | [] => some bytes
  | tag :: outer =>
    match _ : Key.read? bytes with
    | none => none
    | some (key, rest) =>
      if key.form = .groupEnd then
        if key.tag = tag then skipGroups budget outer rest else none
      else if outer.length + 1 < budget then
        if key.form = .groupStart then skipGroups budget (key.tag :: tag :: outer) rest
        else
          match _ : Payload.readPlain? key.form rest with
          | none => none
          | some (_, rest) => skipGroups budget (tag :: outer) rest
      else none
termination_by bytes.length
decreasing_by
  · exact Key.length_lt_of_read? (by assumption)
  · exact Key.length_lt_of_read? (by assumption)
  · exact Nat.lt_of_le_of_lt (Payload.length_le_of_readPlain? (by assumption))
      (Key.length_lt_of_read? (by assumption))

/-- To skip groups never adds bytes. -/
theorem length_le_of_skipGroups {budget : Nat} {opened : List Nat} {bytes rest : List UInt8}
    (h : skipGroups budget opened bytes = some rest) : rest.length ≤ bytes.length := by
  fun_induction skipGroups budget opened bytes with
  | case1 => simp_all
  | case2 => simp at h
  | case3 bytes outer key rest' hk hf ih =>
    exact Nat.le_trans (ih h) (Nat.le_of_lt (Key.length_lt_of_read? hk))
  | case4 => simp at h
  | case5 bytes tag outer key rest' hk hf hb hs ih =>
    exact Nat.le_trans (ih h) (Nat.le_of_lt (Key.length_lt_of_read? hk))
  | case6 => simp at h
  | case7 bytes tag outer key rest' hk hf hb hs p rest'' hp ih =>
    have := Key.length_lt_of_read? hk
    have := Payload.length_le_of_readPlain? hp
    have := ih h
    omega
  | case8 => simp at h

theorem skipGroups_append {budget : Nat} {opened : List Nat} {bytes rest : List UInt8}
    (more : List UInt8) (h : skipGroups budget opened bytes = some rest) :
    skipGroups budget opened (bytes ++ more) = some (rest ++ more) := by
  fun_induction skipGroups budget opened bytes with
  | case1 bytes => rw [skipGroups]; simp_all
  | case2 => simp at h
  | case3 bytes outer key rest' hk hf ih =>
    rw [skipGroups]
    split
    · simp [Key.read?_append hk] at *
    · rename_i key' r hk'
      rw [Key.read?_append hk, Option.some.injEq, Prod.mk.injEq] at hk'
      obtain ⟨rfl, rfl⟩ := hk'
      simp [hf, ih h]
  | case4 => simp at h
  | case5 bytes tag outer key rest' hk hf hb hs ih =>
    rw [skipGroups]
    split
    · simp [Key.read?_append hk] at *
    · rename_i key' r hk'
      rw [Key.read?_append hk, Option.some.injEq, Prod.mk.injEq] at hk'
      obtain ⟨rfl, rfl⟩ := hk'
      simp [hb, hs, ih h]
  | case6 => simp at h
  | case7 bytes tag outer key rest' hk hf hb hs p rest'' hp ih =>
    rw [skipGroups]
    split
    · simp [Key.read?_append hk] at *
    · rename_i key' r hk'
      rw [Key.read?_append hk, Option.some.injEq, Prod.mk.injEq] at hk'
      obtain ⟨rfl, rfl⟩ := hk'
      rw [if_neg hf, if_pos hb, if_neg hs]
      split
      · simp [Payload.readPlain?_append hp] at *
      · rename_i q r hp'
        rw [Payload.readPlain?_append hp, Option.some.injEq, Prod.mk.injEq] at hp'
        obtain ⟨rfl, rfl⟩ := hp'
        exact ih h
  | case8 => simp at h

structure Record where
  tag : Nat
  payload : Payload
  deriving DecidableEq, Repr

namespace Record

/-- The bytes of a record; a group is written empty. -/
def encode (r : Record) : List UInt8 :=
  match r.payload with
  | .varint value => (Key.mk r.tag .varint).encode ++ Varint.encode value.toNat
  | .fixed64 content => (Key.mk r.tag .fixed64).encode ++ content
  | .bytes content =>
    (Key.mk r.tag .bytes).encode ++ (Varint.encode content.length ++ content)
  | .group => (Key.mk r.tag .groupStart).encode ++ (Key.mk r.tag .groupEnd).encode
  | .fixed32 content => (Key.mk r.tag .fixed32).encode ++ content

/-- Reads a record. The budget is how deep records may be nested. -/
def read? (budget : Nat) (bytes : List UInt8) : Option (Record × List UInt8) :=
  match Key.read? bytes with
  | none => none
  | some (key, rest) =>
    if key.form = .groupStart then
      if 0 < budget then
        (skipGroups budget [key.tag] rest).map fun rest => (⟨key.tag, .group⟩, rest)
      else none
    else (Payload.readPlain? key.form rest).map fun r => (⟨key.tag, r.1⟩, r.2)

theorem length_lt_of_read? {budget : Nat} {bytes rest : List UInt8} {r : Record}
    (h : read? budget bytes = some (r, rest)) : rest.length < bytes.length := by
  simp only [read?] at h
  split at h
  · simp at h
  · rename_i key rest' hk
    have hlt := Key.length_lt_of_read? hk
    split at h
    · split at h
      · simp only [Option.map_eq_some_iff, Prod.mk.injEq] at h
        obtain ⟨s, hs, -, rfl⟩ := h
        exact Nat.lt_of_le_of_lt (length_le_of_skipGroups hs) hlt
      · simp at h
    · simp only [Option.map_eq_some_iff, Prod.mk.injEq] at h
      obtain ⟨s, hs, -, rfl⟩ := h
      exact Nat.lt_of_le_of_lt (Payload.length_le_of_readPlain? hs) hlt

/-- What follows a record does not change how it is read. -/
theorem read?_append {budget : Nat} {bytes rest : List UInt8} {r : Record} (more : List UInt8)
    (h : read? budget bytes = some (r, rest)) :
    read? budget (bytes ++ more) = some (r, rest ++ more) := by
  simp only [read?] at h ⊢
  split at h
  · simp at h
  · rename_i key rest' hk
    rw [Key.read?_append hk]
    split at h
    · rename_i hf
      split at h
      · rename_i hb
        simp only [Option.map_eq_some_iff, Prod.mk.injEq] at h
        obtain ⟨s, hs, rfl, rfl⟩ := h
        simp [hf, hb, skipGroups_append more hs]
      · simp at h
    · rename_i hf
      simp only [Option.map_eq_some_iff, Prod.mk.injEq] at h
      obtain ⟨s, hs, rfl, rfl⟩ := h
      simp [hf, Payload.readPlain?_append hs]

def readAll? (budget : Nat) (bytes : List UInt8) : Option (List Record) :=
  match bytes with
  | [] => some []
  | b :: tail =>
    match _ : read? budget (b :: tail) with
    | none => none
    | some (r, rest) => (readAll? budget rest).map (r :: ·)
termination_by bytes.length
decreasing_by exact length_lt_of_read? (by assumption)

@[simp] theorem readAll?_nil (budget : Nat) : readAll? budget [] = some [] := by rw [readAll?]

theorem readAll?_of_read? {budget : Nat} {bytes rest : List UInt8} {r : Record}
    (h : read? budget bytes = some (r, rest)) :
    readAll? budget bytes = (readAll? budget rest).map (r :: ·) := by
  cases bytes with
  | nil => have := length_lt_of_read? h; simp at this
  | cons b tail =>
    rw [readAll?]
    split
    · rename_i hn; rw [h] at hn; cases hn
    · rename_i hs; rw [h] at hs; cases hs; rfl

/-- Records are read from two byte sequences put together as from the one and then from the other.
-/
theorem readAll?_append {budget : Nat} {a : List UInt8} {rs : List Record} (b : List UInt8)
    (h : readAll? budget a = some rs) :
    readAll? budget (a ++ b) = (readAll? budget b).map (rs ++ ·) := by
  fun_induction readAll? budget a generalizing rs with
  | case1 =>
    simp only [Option.some.injEq] at h
    subst h
    simp
  | case2 => simp at h
  | case3 x tail r rest hr ih =>
    simp only [Option.map_eq_some_iff] at h
    obtain ⟨rs', hrs, rfl⟩ := h
    rw [readAll?_of_read? (read?_append b hr), ih hrs]
    cases readAll? budget b <;> simp

/-- Whether a record can be read back: its tag is one that a key can hold, its content has the
length of its form, and it is no group. -/
def Writable (r : Record) : Prop :=
  r.tag ≠ 0 ∧ r.tag < Key.tagLimit ∧
    match r.payload with
    | .varint _ => True
    | .fixed64 content => content.length = 8
    | .bytes content => content.length < Varint.limit
    | .group => False
    | .fixed32 content => content.length = 4

/-- A record is read back from its bytes, whatever follows. -/
theorem read?_encode {r : Record} (h : r.Writable) (budget : Nat) (rest : List UInt8) :
    read? budget (r.encode ++ rest) = some (r, rest) := by
  obtain ⟨tag, payload⟩ := r
  obtain ⟨h0, ht, hp⟩ := h
  cases payload with
  | varint value =>
    simp [encode, read?, List.append_assoc,
      Key.read?_encode (k := ⟨tag, .varint⟩) h0 ht, Payload.readPlain?]
  | fixed64 content =>
    have hs := split?_length content rest
    rw [show content.length = 8 from hp] at hs
    simp [encode, read?, List.append_assoc,
      Key.read?_encode (k := ⟨tag, .fixed64⟩) h0 ht, Payload.readPlain?, hs]
  | bytes content =>
    have hn : (UInt64.ofNat content.length).toNat = content.length := by
      rw [UInt64.toNat_ofNat']; exact Nat.mod_eq_of_lt hp
    have hr := Varint.read?_encode (UInt64.ofNat content.length) (content ++ rest)
    rw [hn] at hr
    simp [-UInt64.toNat_ofNat', encode, read?, List.append_assoc,
      Key.read?_encode (k := ⟨tag, .bytes⟩) h0 ht, Payload.readPlain?, hr, hn]
  | group => exact absurd hp id
  | fixed32 content =>
    have hs := split?_length content rest
    rw [show content.length = 4 from hp] at hs
    simp [encode, read?, List.append_assoc,
      Key.read?_encode (k := ⟨tag, .fixed32⟩) h0 ht, Payload.readPlain?, hs]

end Record
end OffloadVolume.Wire
