import Mathlib.Logic.Relation
import OffloadVolume.Proofs.Framing
import OffloadVolume.Proofs.RoundTrip

/-!
# Bytes that are put together

To decode two byte sequences together is to merge the second into what the first decodes to, and
fields of which a message type knows nothing may stand wherever a field ends. Main statement:
`MessageType.decode_compatible`, both for all messages of the control plane.
-/

namespace OffloadVolume.Wire

/-! ## Records of one field -/

/-- A place of a message where one value is kept. -/
structure Place {M α : Type} (get : M → α) (set : α → M → M) : Prop where
  get_set : ∀ v m, get (set v m) = v
  set_set : ∀ v w m, set v (set w m) = set v m

/-- A record of this kind tells the value, whatever the value was before. -/
def Kind.Overwrites {α : Type} (kind : Kind α) : Prop :=
  ∀ budget p a b, kind.merge? budget p a = kind.merge? budget p b

theorem Kind.text_overwrites : text.Overwrites := fun _ _ _ _ => rfl

theorem Kind.ofNumber_overwrites {α : Type} (absent : α) (isAbsent : α → Bool)
    (toNumber : α → UInt64) (ofUInt64 : UInt64 → α) :
    (ofNumber absent isAbsent toNumber ofUInt64).Overwrites := fun _ _ _ _ => rfl

namespace Field

variable {M : Type}

def LastCounts (f : Field M) : Prop :=
  ∀ budget p q m m', f.merge? budget p m = some m' → f.merge? budget q m' = f.merge? budget q m

/-- Two records of the field count as one that holds the bytes of both. -/
def Accumulates (f : Field M) : Prop :=
  ∀ budget a b m m', f.merge? (budget + 1) (.bytes a) m = some m' →
    f.merge? (budget + 1) (.bytes b) m' = f.merge? (budget + 1) (.bytes (a ++ b)) m

def Apart (f g : Field M) : Prop :=
  (∀ budget p m m', f.merge? budget p m = some m' → g.write m' = g.write m) ∧
    ∀ budget p m m', g.merge? budget p m = some m' → f.write m' = f.write m

variable {α β : Type} {tag tag' : Nat} {get : M → α} {set : α → M → M}

theorem lastCounts_of {kind : Kind α} (hk : kind.Overwrites) (hplace : Place get set) :
    (Field.of tag kind get set).LastCounts := by
  intro budget p q m m' h
  obtain ⟨v, -, rfl⟩ := Option.map_eq_some_iff.1 h
  have hset : (fun w => set w (set v m)) = fun w => set w m :=
    funext fun w => hplace.set_set w v m
  simp only [Field.of, hk budget q (get (set v m)) (get m), hset]

theorem apart_of {kind : Kind α} {kind' : Kind β} {get' : M → β} {set' : β → M → M}
    (h : ∀ v m, get' (set v m) = get' m) (h' : ∀ v m, get (set' v m) = get m) :
    (Field.of tag kind get set).Apart (Field.of tag' kind' get' set') := by
  refine ⟨fun budget p m m' hm => ?_, fun budget p m m' hm => ?_⟩
  · obtain ⟨v, -, rfl⟩ := Option.map_eq_some_iff.1 hm
    exact congrArg kind'.write (h v m)
  · obtain ⟨v, -, rfl⟩ := Option.map_eq_some_iff.1 hm
    exact congrArg kind.write (h' v m)

end Field

namespace Codec

variable {M : Type} {c : Codec M} {budget : Nat}

/-- To merge in two steps, the first of which is possible, is to merge at once. -/
theorem merge?_append_of_merge? {m m' : M} {a : List UInt8} (h : c.merge? budget m a = some m')
    (b : List UInt8) : c.merge? budget m (a ++ b) = c.merge? budget m' b := by
  obtain ⟨rs, hrs, -⟩ := Option.bind_eq_some_iff.1 h
  rw [merge?_append hrs, h]
  rfl

/-- The records of a byte sequence are merged one by one. -/
theorem merge?_of_read? {bytes rest : List UInt8} {r : Record}
    (h : Record.read? budget bytes = some (r, rest)) (m : M) :
    c.merge? budget m bytes =
      (c.mergeRecord? budget m r).bind fun m => c.merge? budget m rest := by
  simp only [merge?, Record.readAll?_of_read? h]
  cases Record.readAll? budget rest with
  | none => simp
  | some rs => simp [List.foldlM_cons, bind, Option.bind]

/-- Records under tags that the type does not declare change nothing. -/
theorem foldlM_undeclared {rs : List Record} (h : ∀ r ∈ rs, r.tag ∉ c.fields.map Field.tag) (m : M) :
    rs.foldlM (c.mergeRecord? budget) m = some m := by
  induction rs with
  | nil => rfl
  | cons r rs ih =>
    obtain ⟨hr, hrs⟩ := List.forall_mem_cons.1 h
    have hnone : c.fields.find? (·.tag == r.tag) = none := by
      rw [List.find?_eq_none]
      intro f hf he
      exact hr (List.mem_map.2 ⟨f, hf, by simpa using he⟩)
    have hone : c.mergeRecord? budget m r = some m := by rw [mergeRecord?, hnone]
    rw [List.foldlM_cons, hone]
    exact ih hrs

/-- Records of other tags leave a message as it is. -/
theorem merge?_undeclared {tags : List Nat} {u : List UInt8} (hu : Fields budget 0 tags u)
    (htags : ∀ tag ∈ tags, tag ∉ c.fields.map Field.tag) (m : M) :
    c.merge? budget m u = some m := by
  obtain ⟨rs, hrs, rfl⟩ := hu.readAll?
  rw [merge?, hrs, Option.bind_some]
  exact foldlM_undeclared (fun r hr => htags r.tag (List.mem_map_of_mem hr)) m

end Codec

namespace Field

/-- The bytes of a record of the field are merged, field by field, into the message that is kept at a
place. -/
structure Embeds {M N : Type} (f : Field M) (c : Codec N) (get : M → Option N)
    (set : Option N → M → M) : Prop where
  place : Place get set
  merge : ∀ budget content m, f.merge? (budget + 1) (.bytes content) m =
    (c.merge? budget ((get m).getD c.empty) content).map fun n => set (some n) m

theorem embeds_of {M N : Type} {c : Codec N} {tag : Nat} {get : M → Option N}
    {set : Option N → M → M} (hplace : Place get set) :
    (Field.of tag (.message c) get set).Embeds c get set where
  place := hplace
  merge budget content m := by
    simp only [Field.of, Kind.message, Option.map_map]
    rfl

/-- Two records of a message inside another one are merged into it like one. -/
theorem Embeds.accumulates {M N : Type} {f : Field M} {c : Codec N} {get : M → Option N}
    {set : Option N → M → M} (hf : f.Embeds c get set) : f.Accumulates := by
  intro budget a b m m' h
  rw [hf.merge] at h
  obtain ⟨n, hn, rfl⟩ := Option.map_eq_some_iff.1 h
  have hset : (fun v => set (some v) (set (some n) m)) = fun v => set (some v) m :=
    funext fun v => hf.place.set_set (some v) (some n) m
  rw [hf.merge, hf.merge, hf.place.get_set, Option.getD_some, hset,
    Codec.merge?_append_of_merge? hn]

end Field
end OffloadVolume.Wire

namespace OffloadVolume

open Wire

namespace MessageType

def nested : MessageType → Nat → Option MessageType
  | controllerSpec, 3 => some objectKey
  | controllerSpec, 4 => some pciEndpoint
  | namespaceSpec, 2 => some objectKey
  | namespaceSpec, 4 => some objectKey
  | resource .subsystem, 2 => some subsystemSpec
  | resource .controller, 2 => some controllerSpec
  | resource .namespace, 2 => some namespaceSpec
  | resource .virtioBlk, 2 => some pciEndpoint
  | resource .virtioBlk, 3 => some objectKey
  | createRequest k, 1 => some (resource k)
  | _, _ => none

/-- How the records of a field are merged: of values the last one counts, and messages are merged. -/
def Merges (t : MessageType) (f : Wire.Field t.Message) : Prop :=
  match t.nested f.tag with
  | none => f.LastCounts
  | some s => (∃ get set, f.Embeds s.codec get set) ∧ f.Accumulates

theorem merges_text {t : MessageType} {tag : Nat} (hn : t.nested tag = none)
    {get : t.Message → String} {set : String → t.Message → t.Message} (hplace : Place get set) :
    t.Merges (Field.of tag .text get set) := by
  have htag : t.nested (Field.of tag .text get set).tag = none := hn
  rw [Merges, htag]
  exact Field.lastCounts_of Kind.text_overwrites hplace

theorem merges_number {t : MessageType} {α : Type} {absent : α} {isAbsent : α → Bool}
    {toNumber : α → UInt64} {ofUInt64 : UInt64 → α} {tag : Nat} (hn : t.nested tag = none)
    {get : t.Message → α} {set : α → t.Message → t.Message} (hplace : Place get set) :
    t.Merges (Field.of tag (.ofNumber absent isAbsent toNumber ofUInt64) get set) := by
  have htag : t.nested (Field.of tag (.ofNumber absent isAbsent toNumber ofUInt64) get set).tag =
      none := hn
  rw [Merges, htag]
  exact Field.lastCounts_of (Kind.ofNumber_overwrites _ _ _ _) hplace

theorem merges_message {t : MessageType} (s : MessageType) {tag : Nat}
    (hn : t.nested tag = some s) {get : t.Message → Option s.Message}
    {set : Option s.Message → t.Message → t.Message} (hplace : Place get set) :
    t.Merges (Field.of tag (.message s.codec) get set) := by
  have htag : t.nested (Field.of tag (.message s.codec) get set).tag = some s := hn
  have hembeds : (Field.of tag (.message s.codec) get set).Embeds s.codec get set :=
    Field.embeds_of hplace
  rw [Merges, htag]
  exact ⟨⟨get, set, hembeds⟩, hembeds.accumulates⟩

/-- Each field is a value or a message, at a place of its own. -/
theorem fields_merge (t : MessageType) : ∀ f ∈ t.codec.fields, t.Merges f := by
  intro f hf
  rcases t with _ | _ | _ | _ | _ | (_ | _ | _ | _ | _) | k | _ | _
  all_goals
    repeat'
      rcases hf with _ | ⟨_, hf⟩
    all_goals first
      | exact merges_text rfl ⟨fun _ _ => rfl, fun _ _ _ => rfl⟩
      | exact merges_number rfl ⟨fun _ _ => rfl, fun _ _ _ => rfl⟩
      | exact merges_message .objectKey rfl ⟨fun _ _ => rfl, fun _ _ _ => rfl⟩
      | exact merges_message .pciEndpoint rfl ⟨fun _ _ => rfl, fun _ _ _ => rfl⟩
      | exact merges_message .subsystemSpec rfl ⟨fun _ _ => rfl, fun _ _ _ => rfl⟩
      | exact merges_message .controllerSpec rfl ⟨fun _ _ => rfl, fun _ _ _ => rfl⟩
      | exact merges_message .namespaceSpec rfl ⟨fun _ _ => rfl, fun _ _ _ => rfl⟩
      | exact merges_message (.resource k) rfl ⟨fun _ _ => rfl, fun _ _ _ => rfl⟩

/-- There is a field for the messages of another type. -/
theorem exists_field_of_nested {t s : MessageType} {tag : Nat} (h : t.nested tag = some s) :
    ∃ get set, Field.of tag (.message s.codec) get set ∈ t.codec.fields := by
  unfold nested at h
  split at h <;> cases h
  all_goals first
    | exact ⟨_, _, List.mem_cons_self⟩
    | exact ⟨_, _, List.mem_cons_of_mem _ List.mem_cons_self⟩
    | exact ⟨_, _, List.mem_cons_of_mem _ (List.mem_cons_of_mem _ List.mem_cons_self)⟩

/-- No two fields of a message type share a place. -/
theorem fields_apart (t : MessageType) : t.codec.fields.Pairwise Field.Apart := by
  rcases t with _ | _ | _ | _ | _ | (_ | _ | _ | _ | _) | k | _ | _
  all_goals
    repeat' first
      | exact List.Pairwise.nil
      | refine List.Pairwise.cons ?_ ?_
      | exact List.forall_mem_nil _
      | refine List.forall_mem_cons.2 ⟨Field.apart_of (fun _ _ => rfl) (fun _ _ => rfl), ?_⟩

/-! ## Fields that a type does not declare -/

/-- Fields that a message type does not declare are put where a field ends: between the fields of a
message, or inside a message that one of its fields holds, whose length is told anew. -/
inductive Inserted : MessageType → (budget : Nat) → List UInt8 → List UInt8 → Prop where
  | here {t : MessageType} {budget : Nat} {before tags : List Nat} {x u y : List UInt8}
    (hx : Fields budget 0 before x) (hu : Fields budget 0 tags u)
    (htags : ∀ tag ∈ tags, tag ∉ t.codec.fields.map Field.tag) :
    Inserted t budget (x ++ y) (x ++ (u ++ y))
  | inside {t s : MessageType} {budget tag : Nat} {before : List Nat} {n n' : UInt64}
    {x key number number' content content' y : List UInt8} (hx : Fields (budget + 1) 0 before x)
    (hkey : Key.read? key = some (⟨tag, .bytes⟩, [])) (hs : t.nested tag = some s)
    (hnumber : Varint.read? number = some (n, [])) (hn : n.toNat = content.length)
    (hnumber' : Varint.read? number' = some (n', [])) (hn' : n'.toNat = content'.length)
    (hcontent : Inserted s budget content content') :
    Inserted t (budget + 1) (x ++ (key ++ (number ++ content ++ y)))
      (x ++ (key ++ (number' ++ content' ++ y)))

/-- What comes after the same fields may be exchanged for what is merged alike. -/
theorem merge?_after {t : MessageType} {budget : Nat} {before : List Nat} {x a b : List UInt8}
    (hx : Fields budget 0 before x)
    (h : ∀ m, t.codec.merge? budget m b = t.codec.merge? budget m a) (m : t.Message) :
    t.codec.merge? budget m (x ++ b) = t.codec.merge? budget m (x ++ a) := by
  obtain ⟨rs, hrs, -⟩ := hx.readAll?
  rw [Codec.merge?_append hrs, Codec.merge?_append hrs]
  exact congrArg _ (funext h)

theorem read?_message {budget tag : Nat} {n : UInt64} {key number content : List UInt8}
    (hkey : Key.read? key = some (⟨tag, .bytes⟩, []))
    (hnumber : Varint.read? number = some (n, [])) (hn : n.toNat = content.length)
    (y : List UInt8) :
    Record.read? budget (key ++ (number ++ content ++ y)) = some (⟨tag, .bytes content⟩, y) := by
  simp only [Record.read?, Key.read?_append hkey, List.nil_append, readPlain?_bytes hnumber hn y,
    reduceCtorEq, if_false, Option.map_some]

/-- What is inserted is left out when the bytes are merged into any message. -/
theorem Inserted.merge?_eq {t : MessageType} {budget : Nat} {a b : List UInt8}
    (h : Inserted t budget a b) (m : t.Message) :
    t.codec.merge? budget m b = t.codec.merge? budget m a := by
  induction h with
  | here hx hu htags =>
    apply merge?_after hx
    intro m
    exact Codec.merge?_append_of_merge? (Codec.merge?_undeclared hu htags m) _
  | @inside t s budget tag _ n n' _ key number number' content content' y hx hkey hs hnumber hn
      hnumber' hn' _ ih =>
    apply merge?_after hx
    intro m
    obtain ⟨get, set, hf⟩ := exists_field_of_nested hs
    have hrecord (c : List UInt8) : t.codec.mergeRecord? (budget + 1) m ⟨tag, .bytes c⟩ =
        ((s.codec.merge? budget ((get m).getD s.codec.empty) c).map some).map (set · m) := by
      have hfind : t.codec.fields.find? (·.tag == tag) = some _ :=
        Codec.find?_tag (t.codec_lawful 0).nodup hf
      simp only [Codec.mergeRecord?, hfind]
      rfl
    rw [Codec.merge?_of_read? (read?_message hkey hnumber' hn' y),
      Codec.merge?_of_read? (read?_message hkey hnumber hn y), hrecord, hrecord, ih]

/-- To decode two byte sequences together is to merge the second into what the first decodes to; of
the records of one field the last value counts, messages are merged, and other fields stay as they
are; and fields that a message type does not declare change nothing, wherever they stand. -/
theorem decode_compatible (t : MessageType) :
    (∀ a b m, t.codec.decode? a = some m →
      t.codec.decode? (a ++ b) = t.codec.merge? Codec.depthLimit m b) ∧
    (∀ f ∈ t.codec.fields, t.Merges f) ∧ t.codec.fields.Pairwise Field.Apart ∧
    ∀ a b, Relation.ReflTransGen (Inserted t Codec.depthLimit) a b →
      t.codec.decode? b = t.codec.decode? a := by
  refine ⟨?_, t.fields_merge, t.fields_apart, ?_⟩
  · intro a b m h
    exact Codec.merge?_append_of_merge? h b
  · intro a b h
    induction h with
    | refl => rfl
    | tail _ hstep ih => exact (hstep.merge?_eq t.codec.empty).trans ih

/-- A subsystem whose serial number comes in later bytes, and one in whose specification there is a
group that it does not declare. -/
theorem decode_compatible_subsystem :
    (codec (.resource .subsystem)).decode? [10, 1, 97, 18, 3, 18, 1, 98] =
      some { name := "a", spec := some { nqn := "b" } } ∧
    (codec (.resource .subsystem)).decode? ([10, 1, 97, 18, 3, 18, 1, 98] ++ [18, 3, 26, 1, 99]) =
      some { name := "a", spec := some { nqn := "b", serialNumber := "c" } } ∧
    Inserted (.resource .subsystem) Codec.depthLimit [10, 1, 97, 18, 3, 18, 1, 98]
      [10, 1, 97, 18, 7, 18, 1, 98, 75, 8, 5, 76] ∧
    (codec (.resource .subsystem)).decode? [10, 1, 97, 18, 7, 18, 1, 98, 75, 8, 5, 76] =
      some { name := "a", spec := some { nqn := "b" } } := by
  obtain ⟨happend, -, -, hinserted⟩ := decode_compatible (.resource .subsystem)
  have hfirst : (codec (.resource .subsystem)).decode? [10, 1, 97, 18, 3, 18, 1, 98] =
      some { name := "a", spec := some { nqn := "b" } } := by decide +kernel
  have hx : Fields Codec.depthLimit 0 [1] [10, 1, 97] :=
    (fields_iff (by decide)).2 ⟨[⟨1, .bytes [97]⟩], by decide +kernel, rfl⟩
  have hnqn : Fields 99 0 [2] [18, 1, 98] :=
    (fields_iff (by decide)).2 ⟨[⟨2, .bytes [98]⟩], by decide +kernel, rfl⟩
  have hgroup : Fields 99 0 [9] [75, 8, 5, 76] :=
    (fields_iff (by decide)).2 ⟨[⟨9, .group⟩], by decide +kernel, rfl⟩
  have hspec : Inserted .subsystemSpec 99 ([18, 1, 98] ++ [])
      ([18, 1, 98] ++ ([75, 8, 5, 76] ++ [])) := .here hnqn hgroup (by decide)
  have hkey : Key.read? [18] = some (⟨2, .bytes⟩, []) := by decide +kernel
  have hthree : Varint.read? [3] = some (3, []) := by decide +kernel
  have hseven : Varint.read? [7] = some (7, []) := by decide +kernel
  have hall : Inserted (.resource .subsystem) Codec.depthLimit
      ([10, 1, 97] ++ ([18] ++ ([3] ++ [18, 1, 98] ++ [])))
      ([10, 1, 97] ++ ([18] ++ ([7] ++ [18, 1, 98, 75, 8, 5, 76] ++ []))) :=
    .inside hx hkey rfl hthree rfl hseven rfl hspec
  refine ⟨hfirst, ?_, hall, (hinserted _ _ (.single hall)).trans hfirst⟩
  rw [happend _ _ _ hfirst]
  decide +kernel

end MessageType
end OffloadVolume
