import OffloadVolume.Plane.Call

/-!
# Messages that are read back

A message is written field by field, and a field is left out when its value is the one that stands for
no record. Main statements: `Codec.Lawful.readsBack`, a message of a lawful codec is read back from its
bytes, and `MessageType.roundTrip`, so are all messages of the control plane.
-/

namespace OffloadVolume.Wire

/-! ## Records -/

namespace Payload

def Simple : Payload → Prop
  | .varint _ | .bytes _ => True
  | .fixed64 _ | .group | .fixed32 _ => False

/-- The number of a payload's bytes fits 64 bits. -/
def Counted (p : Payload) : Prop := ∀ content, p = .bytes content → content.length < Varint.limit

end Payload

namespace Record

theorem counted_of_length {tag : Nat} {p : Payload}
    (h : (encode ⟨tag, p⟩).length < Varint.limit) : p.Counted := by
  rintro content rfl
  have hlen : (encode ⟨tag, .bytes content⟩).length =
      (Key.mk tag .bytes).encode.length + ((Varint.encode content.length).length + content.length) := by
    simp [encode]
  omega

theorem writable_of_simple {tag : Nat} {p : Payload} (h0 : tag ≠ 0) (ht : tag < Key.tagLimit)
    (hs : p.Simple) (hc : p.Counted) : Writable ⟨tag, p⟩ := by
  refine ⟨h0, ht, ?_⟩
  cases p with
  | varint value => trivial
  | bytes content => exact hc content rfl
  | fixed64 content => exact hs.elim
  | group => exact hs.elim
  | fixed32 content => exact hs.elim

/-- Records are read back from their bytes. -/
theorem readAll?_encode (budget : Nat) {rs : List Record} (h : ∀ r ∈ rs, r.Writable) :
    readAll? budget (rs.flatMap encode) = some rs := by
  induction rs with
  | nil => exact readAll?_nil budget
  | cons r rs ih =>
    obtain ⟨hr, hrs⟩ := List.forall_mem_cons.1 h
    rw [List.flatMap_cons, readAll?_of_read? (read?_encode hr budget _), ih hrs]
    rfl

theorem length_encode_le {rs : List Record} {r : Record} (hr : r ∈ rs) :
    r.encode.length ≤ (rs.flatMap encode).length := by
  induction rs with
  | nil => cases hr
  | cons s rs ih =>
    rw [List.flatMap_cons, List.length_append]
    cases hr with
    | head => omega
    | tail _ hr =>
      have := ih hr
      omega

end Record

/-! ## Kinds of values -/

/-- A message whose bytes can be counted is read back from them, with a budget for what is nested. -/
def Codec.ReadsBack {M : Type} (c : Codec M) (budget : Nat) : Prop :=
  ∀ m, (c.encode m).length < Varint.limit → c.merge? budget c.empty (c.encode m) = some m

namespace Kind

/-- A value is read back from what is written of it, with a budget for what is nested. -/
structure Lawful {α : Type} (kind : Kind α) (budget : Nat) : Prop where
  simple : ∀ {a p}, kind.write a = some p → p.Simple
  absent : ∀ {a}, kind.write a = none → a = kind.absent
  merge : ∀ {a p}, kind.write a = some p → p.Counted → kind.merge? budget p kind.absent = some a

theorem text_lawful (budget : Nat) : text.Lawful budget where
  simple {s p} h := by
    simp only [text] at h
    split at h
    · cases h
    · cases h
      trivial
  absent {s} h := by
    simp only [text] at h
    split at h
    · rename_i hs
      exact String.isEmpty_iff.1 hs
    · cases h
  merge {s p} h _ := by
    simp only [text] at h
    split at h
    · cases h
    · cases h
      exact Utf8.decode?_encode s

/-- A kind of numbers is lawful if each value is read back from its number, and only absent values
are left out. -/
theorem ofNumber_lawful {α : Type} {absent : α} {isAbsent : α → Bool} {toNumber : α → UInt64}
    {ofUInt64 : UInt64 → α} (ha : ∀ a, isAbsent a = true → a = absent)
    (hr : ∀ a, ofUInt64 (toNumber a) = a) (budget : Nat) :
    (ofNumber absent isAbsent toNumber ofUInt64).Lawful budget where
  simple {a p} h := by
    simp only [ofNumber] at h
    split at h
    · cases h
    · cases h
      trivial
  absent {a} h := by
    simp only [ofNumber] at h
    split at h
    · rename_i he
      exact ha a he
    · cases h
  merge {a p} h _ := by
    simp only [ofNumber] at h
    split at h
    · cases h
    · cases h
      exact congrArg some (hr a)

theorem flag_lawful (budget : Nat) : flag.Lawful budget := by
  apply ofNumber_lawful
  · decide
  · decide

/-- Of the 64 bits that a negative number is extended to, the low 32 are the number again. -/
theorem int32_lawful (budget : Nat) : int32.Lawful budget := by
  apply ofNumber_lawful
  · intro a ha
    exact beq_iff_eq.1 ha
  · intro a
    have hlow (x : Int64) : x.toUInt64.toUInt32.toInt32 = x.toInt32 := by
      apply Int32.toBitVec_inj.1
      simp [BitVec.signExtend_eq_setWidth_of_le]
    rw [hlow, Int32.toInt32_toInt64]

theorem int64_lawful (budget : Nat) : int64.Lawful budget := by
  apply ofNumber_lawful
  · intro a ha
    exact beq_iff_eq.1 ha
  · intro a
    exact Int64.toInt64_toUInt64 a

/-- A message inside another one takes one from the budget. -/
theorem message_lawful {N : Type} {c : Codec N} {budget : Nat} (hc : c.ReadsBack budget) :
    (message c).Lawful (budget + 1) where
  simple {o p} h := by
    cases o with
    | none => cases h
    | some n =>
      cases h
      trivial
  absent {o} h := by
    cases o with
    | none => rfl
    | some n => cases h
  merge {o p} h hp := by
    cases o with
    | none => cases h
    | some n =>
      cases h
      have hn := hc n (hp _ rfl)
      simp only [message, Option.getD_none, hn, Option.map_some]

end Kind

/-! ## Fields -/

section

variable {M : Type}

/-- To read what is written of a field of `m` takes `n` to `n'`. -/
def Field.Copies (f : Field M) (budget : Nat) (m n n' : M) : Prop :=
  match f.write m with
  | none => n' = n
  | some p => p.Simple ∧ (p.Counted → f.merge? budget p n = some n')

/-- Into a message whose field holds what stands for no record, the field of `m` is put. -/
theorem Field.copies_of {α : Type} {kind : Kind α} {budget : Nat} (hk : kind.Lawful budget)
    {tag : Nat} {get : M → α} {set : α → M → M} {m n : M} (hn : get n = kind.absent)
    (hset : set (get n) n = n) : (Field.of tag kind get set).Copies budget m n (set (get m) n) := by
  unfold Copies
  simp only [Field.of]
  cases hw : kind.write (get m) with
  | none =>
    simp only []
    rw [hk.absent hw, ← hn, hset]
  | some p =>
    refine ⟨hk.simple hw, fun hp => ?_⟩
    rw [hn, hk.merge hw hp]
    rfl

/-- To read what is written of some fields of `m`, one after another, takes `n` to `n'`. -/
inductive Copied (budget : Nat) (m : M) : List (Field M) → M → M → Prop where
  | nil (n : M) : Copied budget m [] n n
  | cons {f : Field M} {fs : List (Field M)} {n n' n'' : M} (hf : f.Copies budget m n n')
    (hfs : Copied budget m fs n' n'') : Copied budget m (f :: fs) n n''

namespace Codec

/-- A codec whose fields have tags of their own, and put together make the message again. -/
structure Lawful (c : Codec M) (budget : Nat) : Prop where
  tags : ∀ tag ∈ c.fields.map Field.tag, tag ≠ 0 ∧ tag < Key.tagLimit
  nodup : (c.fields.map Field.tag).Nodup
  copied : ∀ m, Copied budget m c.fields c.empty m

theorem find?_tag {fs : List (Field M)} (hn : (fs.map Field.tag).Nodup) {f : Field M}
    (hf : f ∈ fs) : fs.find? (·.tag == f.tag) = some f := by
  induction fs with
  | nil => cases hf
  | cons g fs ih =>
    rw [List.map_cons, List.nodup_cons] at hn
    cases hf with
    | head => exact List.find?_cons_of_pos (beq_self_eq_true _)
    | tail _ hf =>
      have hne : g.tag ≠ f.tag := fun he => hn.1 (he ▸ List.mem_map_of_mem hf)
      rw [List.find?_cons_of_neg (by simpa using hne)]
      exact ih hn.2 hf

def recordsOf (fs : List (Field M)) (m : M) : List Record :=
  fs.filterMap fun f => (f.write m).map (Record.mk f.tag)

/-- To merge the records of some fields takes a message to the one that has these fields. -/
theorem foldlM_of_copied {c : Codec M} (hn : (c.fields.map Field.tag).Nodup) {budget : Nat}
    {fs : List (Field M)} {m n n' : M} (h : Copied budget m fs n n') (hsub : ∀ f ∈ fs, f ∈ c.fields)
    (hc : ∀ r ∈ recordsOf fs m, r.payload.Counted) :
    (recordsOf fs m).foldlM (c.mergeRecord? budget) n = some n' := by
  induction h with
  | nil n => rfl
  | @cons f fs n n' n'' hf _ ih =>
    obtain ⟨hmem, hsub⟩ := List.forall_mem_cons.1 hsub
    cases hw : f.write m with
    | none =>
      have hskip : recordsOf (f :: fs) m = recordsOf fs m := by simp [recordsOf, hw]
      have hsame : n' = n := by simpa [Field.Copies, hw] using hf
      rw [hskip] at hc ⊢
      rw [← hsame]
      exact ih hsub hc
    | some p =>
      have hcons : recordsOf (f :: fs) m = ⟨f.tag, p⟩ :: recordsOf fs m := by simp [recordsOf, hw]
      rw [hcons] at hc ⊢
      obtain ⟨hp, hc⟩ := List.forall_mem_cons.1 hc
      have hmerge : f.merge? budget p n = some n' := by
        simp only [Field.Copies, hw] at hf
        exact hf.2 hp
      have hone : c.mergeRecord? budget n ⟨f.tag, p⟩ = some n' := by
        simp only [mergeRecord?, find?_tag hn hmem, hmerge]
      rw [List.foldlM_cons, hone]
      exact ih hsub hc

theorem simple_of_copied {budget : Nat} {fs : List (Field M)} {m n n' : M}
    (h : Copied budget m fs n n') : ∀ r ∈ recordsOf fs m, r.payload.Simple := by
  induction h with
  | nil n => simp [recordsOf]
  | @cons f fs n n' n'' hf _ ih =>
    cases hw : f.write m with
    | none =>
      rw [show recordsOf (f :: fs) m = recordsOf fs m by simp [recordsOf, hw]]
      exact ih
    | some p =>
      simp only [Field.Copies, hw] at hf
      rw [show recordsOf (f :: fs) m = ⟨f.tag, p⟩ :: recordsOf fs m by simp [recordsOf, hw]]
      exact List.forall_mem_cons.2 ⟨hf.1, ih⟩

/-- A message of a lawful codec is read back. -/
theorem Lawful.readsBack {c : Codec M} {budget : Nat} (hc : c.Lawful budget) :
    c.ReadsBack budget := by
  intro m hlen
  have hcopied := hc.copied m
  have hcounted : ∀ r ∈ c.records m, r.payload.Counted := by
    intro r hr
    have hle : r.encode.length ≤ (c.encode m).length := Record.length_encode_le hr
    have hlen' : (Record.encode ⟨r.tag, r.payload⟩).length < Varint.limit :=
      Nat.lt_of_le_of_lt hle hlen
    exact Record.counted_of_length hlen'
  have hwritable : ∀ r ∈ c.records m, r.Writable := by
    intro r hr
    have hsimple := simple_of_copied hcopied r hr
    obtain ⟨f, hf, hw⟩ := List.mem_filterMap.1 hr
    obtain ⟨p, -, rfl⟩ := Option.map_eq_some_iff.1 hw
    obtain ⟨h0, ht⟩ := hc.tags f.tag (List.mem_map_of_mem hf)
    exact Record.writable_of_simple h0 ht hsimple (hcounted _ hr)
  rw [merge?, encode, Record.readAll?_encode budget hwritable]
  exact foldlM_of_copied hc.nodup hcopied (fun f hf => hf) hcounted

end Codec
end

end OffloadVolume.Wire

namespace OffloadVolume

open Wire Kind

/-! ## Messages of the control plane -/

theorem ObjectKey.codec_lawful (budget : Nat) : ObjectKey.codec.Lawful budget where
  tags := by decide
  nodup := by decide
  copied m := .cons (Field.copies_of (text_lawful _) rfl rfl) (.nil m)

theorem PciEndpoint.codec_lawful (budget : Nat) : PciEndpoint.codec.Lawful budget where
  tags := by decide
  nodup := by decide
  copied m :=
    .cons (Field.copies_of (int32_lawful _) rfl rfl) <|
    .cons (Field.copies_of (int32_lawful _) rfl rfl) <|
    .cons (Field.copies_of (int32_lawful _) rfl rfl) (.nil m)

theorem RemoteController.codec_lawful (budget : Nat) : RemoteController.codec.Lawful budget where
  tags := by decide
  nodup := by decide
  copied m :=
    .cons (Field.copies_of (text_lawful _) rfl rfl) <|
    .cons (Field.copies_of (int32_lawful _) rfl rfl) <|
    .cons (Field.copies_of (int32_lawful _) rfl rfl) <|
    .cons (Field.copies_of (text_lawful _) rfl rfl) <|
    .cons (Field.copies_of (int64_lawful _) rfl rfl) <|
    .cons (Field.copies_of (text_lawful _) rfl rfl) <|
    .cons (Field.copies_of (text_lawful _) rfl rfl) (.nil m)

theorem SubsystemSpec.codec_lawful (budget : Nat) : SubsystemSpec.codec.Lawful budget where
  tags := by decide
  nodup := by decide
  copied m :=
    .cons (Field.copies_of (text_lawful _) rfl rfl) <|
    .cons (Field.copies_of (text_lawful _) rfl rfl) <|
    .cons (Field.copies_of (text_lawful _) rfl rfl) (.nil m)

theorem Subsystem.codec_lawful (budget : Nat) : Subsystem.codec.Lawful (budget + 1) where
  tags := by decide
  nodup := by decide
  copied m :=
    .cons (Field.copies_of (text_lawful _) rfl rfl) <|
    .cons (Field.copies_of (message_lawful (SubsystemSpec.codec_lawful budget).readsBack) rfl rfl)
      (.nil m)

theorem ControllerSpec.codec_lawful (budget : Nat) : ControllerSpec.codec.Lawful (budget + 1) where
  tags := by decide
  nodup := by decide
  copied m :=
    .cons (Field.copies_of (int32_lawful _) rfl rfl) <|
    .cons (Field.copies_of (message_lawful (ObjectKey.codec_lawful budget).readsBack) rfl rfl) <|
    .cons (Field.copies_of (message_lawful (PciEndpoint.codec_lawful budget).readsBack) rfl rfl)
      (.nil m)

theorem Controller.codec_lawful (budget : Nat) : Controller.codec.Lawful (budget + 2) where
  tags := by decide
  nodup := by decide
  copied m :=
    .cons (Field.copies_of (text_lawful _) rfl rfl) <|
    .cons (Field.copies_of (message_lawful (ControllerSpec.codec_lawful budget).readsBack) rfl rfl)
      (.nil m)

theorem NamespaceSpec.codec_lawful (budget : Nat) : NamespaceSpec.codec.Lawful (budget + 1) where
  tags := by decide
  nodup := by decide
  copied m :=
    .cons (Field.copies_of (message_lawful (ObjectKey.codec_lawful budget).readsBack) rfl rfl) <|
    .cons (Field.copies_of (int32_lawful _) rfl rfl) <|
    .cons (Field.copies_of (message_lawful (ObjectKey.codec_lawful budget).readsBack) rfl rfl)
      (.nil m)

theorem Namespace.codec_lawful (budget : Nat) : Namespace.codec.Lawful (budget + 2) where
  tags := by decide
  nodup := by decide
  copied m :=
    .cons (Field.copies_of (text_lawful _) rfl rfl) <|
    .cons (Field.copies_of (message_lawful (NamespaceSpec.codec_lawful budget).readsBack) rfl rfl)
      (.nil m)

theorem VirtioBlk.codec_lawful (budget : Nat) : VirtioBlk.codec.Lawful (budget + 1) where
  tags := by decide
  nodup := by decide
  copied m :=
    .cons (Field.copies_of (text_lawful _) rfl rfl) <|
    .cons (Field.copies_of (message_lawful (PciEndpoint.codec_lawful budget).readsBack) rfl rfl) <|
    .cons (Field.copies_of (message_lawful (ObjectKey.codec_lawful budget).readsBack) rfl rfl) <|
    .cons (Field.copies_of (int64_lawful _) rfl rfl) (.nil m)

/-- A request nests what it asks to create. -/
theorem CreateRequest.codec_lawful {R : Type} {c : Codec R} {budget : Nat} (hc : c.ReadsBack budget) :
    (CreateRequest.codec c).Lawful (budget + 1) where
  tags := by simp [CreateRequest.codec, Field.of, Key.tagLimit]
  nodup := by simp [CreateRequest.codec, Field.of]
  copied m :=
    .cons (Field.copies_of (message_lawful hc) rfl rfl) <|
    .cons (Field.copies_of (text_lawful _) rfl rfl) (.nil m)

theorem DeleteRequest.codec_lawful (budget : Nat) : DeleteRequest.codec.Lawful budget where
  tags := by decide
  nodup := by decide
  copied m :=
    .cons (Field.copies_of (text_lawful _) rfl rfl) <|
    .cons (Field.copies_of (flag_lawful _) rfl rfl) (.nil m)

theorem Acknowledgement.codec_lawful (budget : Nat) : Acknowledgement.codec.Lawful budget where
  tags := by decide
  nodup := by decide
  copied m := .nil m

/-- Resources nest two messages at most. -/
theorem Collection.codec_lawful (k : Collection) (budget : Nat) : k.codec.Lawful (budget + 2) := by
  cases k with
  | subsystem => exact Subsystem.codec_lawful (budget + 1)
  | controller => exact Controller.codec_lawful budget
  | remote => exact RemoteController.codec_lawful (budget + 2)
  | «namespace» => exact Namespace.codec_lawful budget
  | virtioBlk => exact VirtioBlk.codec_lawful (budget + 1)

inductive MessageType where
  | objectKey
  | pciEndpoint
  | subsystemSpec
  | controllerSpec
  | namespaceSpec
  | resource (k : Collection)
  | createRequest (k : Collection)
  | deleteRequest
  | acknowledgement
  deriving DecidableEq, Repr

namespace MessageType

abbrev Message : MessageType → Type
  | objectKey => ObjectKey
  | pciEndpoint => PciEndpoint
  | subsystemSpec => SubsystemSpec
  | controllerSpec => ControllerSpec
  | namespaceSpec => NamespaceSpec
  | resource k => k.Resource
  | createRequest k => CreateRequest k.Resource
  | deleteRequest => DeleteRequest
  | acknowledgement => Acknowledgement

def codec : (t : MessageType) → Codec t.Message
  | objectKey => ObjectKey.codec
  | pciEndpoint => PciEndpoint.codec
  | subsystemSpec => SubsystemSpec.codec
  | controllerSpec => ControllerSpec.codec
  | namespaceSpec => NamespaceSpec.codec
  | resource k => k.codec
  | createRequest k => CreateRequest.codec k.codec
  | deleteRequest => DeleteRequest.codec
  | acknowledgement => Acknowledgement.codec

/-- No type nests more than three messages. -/
theorem codec_lawful (t : MessageType) (budget : Nat) : t.codec.Lawful (budget + 3) := by
  cases t with
  | objectKey => exact ObjectKey.codec_lawful _
  | pciEndpoint => exact PciEndpoint.codec_lawful _
  | subsystemSpec => exact SubsystemSpec.codec_lawful _
  | controllerSpec => exact ControllerSpec.codec_lawful _
  | namespaceSpec => exact NamespaceSpec.codec_lawful _
  | resource k => exact k.codec_lawful _
  | createRequest k => exact CreateRequest.codec_lawful (k.codec_lawful budget).readsBack
  | deleteRequest => exact DeleteRequest.codec_lawful _
  | acknowledgement => exact Acknowledgement.codec_lawful _

/-- Each message is read back from its bytes. -/
theorem decode?_encode (t : MessageType) (m : t.Message)
    (hm : (t.codec.encode m).length < Varint.limit) : t.codec.decode? (t.codec.encode m) = some m :=
  (t.codec_lawful 97).readsBack m hm

/-- Every message whose bytes can be counted with 64 bits is read back from them. So no other message
of its type has the same bytes, and a message that was read from any bytes stays the same when it is
written and read again. -/
theorem roundTrip (t : MessageType) :
    (∀ m : t.Message, (t.codec.encode m).length < Varint.limit →
      t.codec.decode? (t.codec.encode m) = some m) ∧
    (∀ m n : t.Message, (t.codec.encode m).length < Varint.limit →
      (t.codec.encode n).length < Varint.limit → t.codec.encode m = t.codec.encode n → m = n) ∧
    ∀ bytes m, t.codec.decode? bytes = some m → (t.codec.encode m).length < Varint.limit →
      t.codec.decode? (t.codec.encode m) = t.codec.decode? bytes := by
  refine ⟨t.decode?_encode, ?_, ?_⟩
  · intro m n hm hn he
    have hread := t.decode?_encode m hm
    rw [he, t.decode?_encode n hn] at hread
    exact (Option.some.inj hread).symm
  · intro bytes m hread hm
    rw [hread, t.decode?_encode m hm]

/-- A request for a controller with a negative number, a text beyond ASCII, a reference without a
record and no endpoint. -/
def request : CreateRequest Controller where
  resource := some { name := "é", spec := some { controllerId := -1, subsystem := some {} } }

/-- The request is read back, one whose resource is there without a record is told from one without a
resource, and the number that was read from five bytes is written with ten. -/
theorem roundTrip_request :
    (codec (.createRequest .controller)).encode request =
      [10, 19, 10, 2, 195, 169, 18, 13, 16, 255, 255, 255, 255, 255, 255, 255, 255, 255, 1, 26, 0] ∧
    (codec (.createRequest .controller)).decode?
      ((codec (.createRequest .controller)).encode request) = some request ∧
    (codec (.createRequest .controller)).encode { resource := some {} } ≠
      (codec (.createRequest .controller)).encode {} ∧
    (codec .controllerSpec).decode? [16, 255, 255, 255, 255, 15] = some { controllerId := -1 } ∧
    (codec .controllerSpec).decode? ((codec .controllerSpec).encode { controllerId := -1 }) =
      some { controllerId := -1 } := by
  have hread : (codec .controllerSpec).decode? [16, 255, 255, 255, 255, 15] =
      some { controllerId := -1 } := by decide +kernel
  refine ⟨by decide +kernel, ?_, ?_, hread, ?_⟩
  · exact (roundTrip (.createRequest .controller)).1 request (by decide +kernel)
  · intro he
    have hsame := (roundTrip (.createRequest .controller)).2.1 { resource := some {} } {}
      (by decide +kernel) (by decide +kernel) he
    cases hsame
  · rw [← hread]
    exact (roundTrip .controllerSpec).2.2 _ _ hread (by decide +kernel)

end MessageType
end OffloadVolume
