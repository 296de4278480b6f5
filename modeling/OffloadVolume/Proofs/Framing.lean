import OffloadVolume.Wire.Record

/-!
# Well-formed fields

Which byte sequences are fields one after another, whatever their tags are: keys with their payloads,
and groups, which are balanced and nest no deeper than a budget allows. Main statements:
`Fields.readAll?`, such fields are read as records of their tags, and `fields_iff`, the reader accepts
nothing else.
-/

namespace OffloadVolume

/-- A number is read from the first bytes, and nothing else counts. -/
theorem Varint.exists_of_read? {bytes rest : List UInt8} {n : UInt64}
    (h : Varint.read? bytes = some (n, rest)) :
    ∃ number, bytes = number ++ rest ∧ Varint.read? number = some (n, []) := by
  have hbelow (bound m : Nat) (bytes rest : List UInt8)
      (h : Varint.readBelow bound bytes = some (m, rest)) :
      ∃ number, bytes = number ++ rest ∧ Varint.readBelow bound number = some (m, []) := by
    induction bytes generalizing bound m rest with
    | nil => cases h
    | cons b bytes ih =>
      simp only [Varint.readBelow] at h
      split at h
      · rename_i hb
        split at h
        · rename_i hn
          cases h
          exact ⟨[b], rfl, by simp only [Varint.readBelow, if_pos hb, if_pos hn]⟩
        · cases h
      · rename_i hb
        split at h
        · rename_i high rest' hr
          cases h
          obtain ⟨number, rfl, hnumber⟩ := ih _ _ _ hr
          exact ⟨b :: number, rfl, by simp only [Varint.readBelow, if_neg hb, hnumber]⟩
        · cases h
  obtain ⟨r, hr, he⟩ := Option.map_eq_some_iff.1 h
  cases he
  obtain ⟨number, hbytes, hnumber⟩ := hbelow _ _ _ _ hr
  exact ⟨number, hbytes, by rw [Varint.read?, hnumber]; rfl⟩

namespace Wire

/-! ## Payloads -/

theorem exists_of_split? {n : Nat} {bytes content rest : List UInt8}
    (h : split? n bytes = some (content, rest)) : bytes = content ++ rest ∧ content.length = n := by
  unfold split? at h
  split at h
  · rename_i hn
    cases h
    exact ⟨(List.take_append_drop n bytes).symm, List.length_take_of_le hn⟩
  · cases h

/-- The bytes hold a payload of a form that nests no records. -/
inductive Holds : Form → List UInt8 → Prop where
  | varint {number : List UInt8} {n : UInt64} (h : Varint.read? number = some (n, [])) :
    Holds .varint number
  | fixed64 {content : List UInt8} (h : content.length = 8) : Holds .fixed64 content
  | bytes {number content : List UInt8} {n : UInt64} (h : Varint.read? number = some (n, []))
    (hn : n.toNat = content.length) : Holds .bytes (number ++ content)
  | fixed32 {content : List UInt8} (h : content.length = 4) : Holds .fixed32 content

theorem readPlain?_bytes {number content : List UInt8} {n : UInt64}
    (h : Varint.read? number = some (n, [])) (hn : n.toNat = content.length) (rest : List UInt8) :
    Payload.readPlain? .bytes (number ++ content ++ rest) = some (.bytes content, rest) := by
  rw [List.append_assoc]
  simp only [Payload.readPlain?, Varint.read?_append h, List.nil_append, hn, split?_length,
    Option.map_some]

/-- A payload is read whatever follows it. -/
theorem Holds.readPlain? {form : Form} {payload : List UInt8} (h : Holds form payload)
    (rest : List UInt8) : ∃ p, Payload.readPlain? form (payload ++ rest) = some (p, rest) := by
  cases h with
  | varint h => exact ⟨_, by simp only [Payload.readPlain?, Varint.read?_append h]; rfl⟩
  | fixed64 h =>
    have hs := split?_length payload rest
    rw [h] at hs
    exact ⟨_, by simp only [Payload.readPlain?, hs]; rfl⟩
  | bytes h hn => exact ⟨_, readPlain?_bytes h hn rest⟩
  | fixed32 h =>
    have hs := split?_length payload rest
    rw [h] at hs
    exact ⟨_, by simp only [Payload.readPlain?, hs]; rfl⟩

/-- What is read as a payload is one. -/
theorem exists_of_readPlain? {form : Form} {bytes rest : List UInt8} {p : Payload}
    (h : Payload.readPlain? form bytes = some (p, rest)) :
    ∃ payload, bytes = payload ++ rest ∧ Holds form payload := by
  cases form with
  | varint =>
    obtain ⟨r, hr, he⟩ := Option.map_eq_some_iff.1 h
    cases he
    obtain ⟨number, hbytes, hnumber⟩ := Varint.exists_of_read? hr
    exact ⟨number, hbytes, .varint hnumber⟩
  | fixed64 =>
    obtain ⟨r, hr, he⟩ := Option.map_eq_some_iff.1 h
    cases he
    obtain ⟨hbytes, hlen⟩ := exists_of_split? hr
    exact ⟨_, hbytes, .fixed64 hlen⟩
  | bytes =>
    simp only [Payload.readPlain?] at h
    split at h
    · cases h
    · rename_i n more hn
      obtain ⟨r, hr, he⟩ := Option.map_eq_some_iff.1 h
      cases he
      obtain ⟨number, rfl, hnumber⟩ := Varint.exists_of_read? hn
      obtain ⟨rfl, hlen⟩ := exists_of_split? hr
      exact ⟨_, (List.append_assoc ..).symm, .bytes hnumber hlen.symm⟩
  | fixed32 =>
    obtain ⟨r, hr, he⟩ := Option.map_eq_some_iff.1 h
    cases he
    obtain ⟨hbytes, hlen⟩ := exists_of_split? hr
    exact ⟨_, hbytes, .fixed32 hlen⟩
  | groupStart => cases h
  | groupEnd => cases h

theorem Key.exists_of_read? {bytes rest : List UInt8} {k : Key}
    (h : Key.read? bytes = some (k, rest)) :
    ∃ key, bytes = key ++ rest ∧ Key.read? key = some (k, []) := by
  simp only [Key.read?] at h
  split at h
  · cases h
  · rename_i n more hn
    obtain ⟨number, rfl, hnumber⟩ := Varint.exists_of_read? hn
    split at h
    · rename_i hvalid
      obtain ⟨form, hform, he⟩ := Option.map_eq_some_iff.1 h
      cases he
      refine ⟨number, rfl, ?_⟩
      simp only [Key.read?, hnumber, if_pos hvalid, hform, Option.map_some]
    · cases h

/-! ## Fields -/

/-- Fields one after another, which stand inside `depth` groups, with their tags. Each field takes a
place from the budget, and so does each group around it. -/
inductive Fields (budget : Nat) : (depth : Nat) → List Nat → List UInt8 → Prop where
  | nil {depth : Nat} : Fields budget depth [] []
  | plain {depth tag : Nat} {form : Form} {tags : List Nat} {key payload rest : List UInt8}
    (hdepth : depth < budget) (hkey : Key.read? key = some (⟨tag, form⟩, []))
    (hpayload : Holds form payload) (hrest : Fields budget depth tags rest) :
    Fields budget depth (tag :: tags) (key ++ (payload ++ rest))
  | group {depth tag : Nat} {inner tags : List Nat} {start content stop rest : List UInt8}
    (hdepth : depth < budget) (hstart : Key.read? start = some (⟨tag, .groupStart⟩, []))
    (hcontent : Fields budget (depth + 1) inner content)
    (hstop : Key.read? stop = some (⟨tag, .groupEnd⟩, []))
    (hrest : Fields budget depth tags rest) :
    Fields budget depth (tag :: tags) (start ++ (content ++ (stop ++ rest)))

theorem Holds.isPlain {form : Form} {payload : List UInt8} (h : Holds form payload) :
    form ≠ .groupStart ∧ form ≠ .groupEnd := by
  cases h <;> decide

/-- To skip an open group, its fields are taken one by one up to its end. -/
theorem skipGroups_cons {budget tag : Nat} {outer : List Nat} {bytes rest : List UInt8} {k : Key}
    (h : Key.read? bytes = some (k, rest)) :
    skipGroups budget (tag :: outer) bytes =
      if k.form = .groupEnd then if k.tag = tag then skipGroups budget outer rest else none
      else if outer.length + 1 < budget then
        if k.form = .groupStart then skipGroups budget (k.tag :: tag :: outer) rest
        else (Payload.readPlain? k.form rest).bind fun r => skipGroups budget (tag :: outer) r.2
      else none := by
  rw [skipGroups]
  split
  · rename_i hn
    rw [h] at hn
    cases hn
  · rename_i hn
    rw [h] at hn
    cases hn
    split
    · rfl
    · split
      · split
        · rfl
        · split
          · rename_i hp
            rw [hp]
            rfl
          · rename_i hp
            rw [hp]
            rfl
      · rfl

/-- Inside groups, fields are left out. -/
theorem Fields.skipGroups {budget tag : Nat} {outer tags : List Nat} {bytes : List UInt8}
    (h : Fields budget (outer.length + 1) tags bytes) (rest : List UInt8) :
    Wire.skipGroups budget (tag :: outer) (bytes ++ rest) =
      Wire.skipGroups budget (tag :: outer) rest := by
  generalize hdepth : outer.length + 1 = depth at h
  induction h generalizing tag outer rest with
  | nil => rfl
  | @plain depth t form tags key payload more hd hkey hpayload _ ih =>
    subst hdepth
    obtain ⟨p, hp⟩ := hpayload.readPlain? (more ++ rest)
    have hk : Key.read? (key ++ (payload ++ (more ++ rest))) = some (⟨t, form⟩, _) :=
      Key.read?_append hkey
    rw [List.append_assoc, List.append_assoc, skipGroups_cons hk, if_neg hpayload.isPlain.2,
      if_pos hd, if_neg hpayload.isPlain.1, List.nil_append, hp]
    exact ih rest rfl
  | @group depth t inner tags start content stop more hd hstart _ hstop _ ihinner ihrest =>
    subst hdepth
    have hk : Key.read? (start ++ (content ++ (stop ++ (more ++ rest)))) =
        some (⟨t, .groupStart⟩, _) := Key.read?_append hstart
    have hk' : Key.read? (stop ++ (more ++ rest)) = some (⟨t, .groupEnd⟩, _) :=
      Key.read?_append hstop
    rw [List.append_assoc, List.append_assoc, List.append_assoc, skipGroups_cons hk,
      if_neg (by simp), if_pos hd, if_pos rfl, List.nil_append, ihinner _ rfl,
      skipGroups_cons hk', if_pos rfl, if_pos rfl]
    exact ihrest rest rfl

/-- Fields are read as records of their tags. -/
theorem Fields.readAll? {budget : Nat} {tags : List Nat} {bytes : List UInt8}
    (h : Fields budget 0 tags bytes) :
    ∃ rs, Record.readAll? budget bytes = some rs ∧ rs.map Record.tag = tags := by
  generalize hdepth : 0 = depth at h
  induction h with
  | nil => exact ⟨[], Record.readAll?_nil budget, rfl⟩
  | @plain depth t form tags key payload more _ hkey hpayload _ ih =>
    obtain ⟨rs, hrs, rfl⟩ := ih hdepth
    obtain ⟨p, hp⟩ := hpayload.readPlain? more
    have hread : Record.read? budget (key ++ (payload ++ more)) = some (⟨t, p⟩, more) := by
      simp only [Record.read?, Key.read?_append hkey, List.nil_append, hp, hpayload.isPlain.1,
        if_false, Option.map_some]
    exact ⟨⟨t, p⟩ :: rs, by rw [Record.readAll?_of_read? hread, hrs]; rfl, rfl⟩
  | @group depth t inner tags start content stop more hd hstart hcontent hstop _ _ ih =>
    obtain ⟨rs, hrs, rfl⟩ := ih hdepth
    subst hdepth
    have hskip : Wire.skipGroups budget [t] (content ++ (stop ++ more)) = some more := by
      rw [@Fields.skipGroups budget t [] inner content hcontent,
        skipGroups_cons (Key.read?_append hstop), if_pos rfl, if_pos rfl, Wire.skipGroups,
        List.nil_append]
    have hread : Record.read? budget (start ++ (content ++ (stop ++ more))) =
        some (⟨t, .group⟩, more) := by
      simp only [Record.read?, Key.read?_append hstart, List.nil_append, if_true, if_pos hd, hskip,
        Option.map_some]
    exact ⟨⟨t, .group⟩ :: rs, by rw [Record.readAll?_of_read? hread, hrs]; rfl, rfl⟩

/-- The fields up to the ends of some groups, which are open and of which the first is the innermost,
with what follows. -/
inductive Unwinds (budget : Nat) : List Nat → List UInt8 → List UInt8 → Prop where
  | done {rest : List UInt8} : Unwinds budget [] rest rest
  | close {tag : Nat} {outer tags : List Nat} {content stop more rest : List UInt8}
    (hcontent : Fields budget (outer.length + 1) tags content)
    (hstop : Key.read? stop = some (⟨tag, .groupEnd⟩, [])) (hmore : Unwinds budget outer more rest) :
    Unwinds budget (tag :: outer) (content ++ (stop ++ more)) rest

/-- The innermost group ends at its own tag, after the fields in it. -/
theorem Unwinds.cons_inv {budget tag : Nat} {outer : List Nat} {bytes rest : List UInt8}
    (h : Unwinds budget (tag :: outer) bytes rest) :
    ∃ tags content stop more, bytes = content ++ (stop ++ more) ∧
      Fields budget (outer.length + 1) tags content ∧
      Key.read? stop = some (⟨tag, .groupEnd⟩, []) ∧ Unwinds budget outer more rest := by
  cases h with
  | close hcontent hstop hmore => exact ⟨_, _, _, _, rfl, hcontent, hstop, hmore⟩

/-- Groups that are left out are fields up to their ends. -/
theorem unwinds_of_skipGroups {budget : Nat} {opened : List Nat} {bytes rest : List UInt8}
    (h : Wire.skipGroups budget opened bytes = some rest) : Unwinds budget opened bytes rest := by
  fun_induction Wire.skipGroups budget opened bytes with
  | case1 bytes =>
    cases h
    exact .done
  | case2 => cases h
  | case3 bytes outer key more hk hf ih =>
    obtain ⟨stop, rfl, hstop⟩ := Key.exists_of_read? hk
    obtain ⟨tag, form⟩ := key
    cases hf
    exact .close .nil hstop (ih h)
  | case4 => cases h
  | case5 bytes tag outer key more hk hf hb hs ih =>
    obtain ⟨start, rfl, hstart⟩ := Key.exists_of_read? hk
    obtain ⟨t, form⟩ := key
    cases hs
    obtain ⟨inner, content, stop, after, rfl, hcontent, hstop, hafter⟩ := (ih h).cons_inv
    obtain ⟨tags, content', stop', more, rfl, hcontent', hstop', hmore⟩ := hafter.cons_inv
    have hfields : Fields budget (outer.length + 1) (t :: tags)
        (start ++ (content ++ (stop ++ content'))) := .group hb hstart hcontent hstop hcontent'
    have hall := Unwinds.close hfields hstop' hmore
    simpa only [List.append_assoc] using hall
  | case6 => cases h
  | case7 bytes tag outer key more hk hf hb hs p more' hp ih =>
    obtain ⟨bytes', rfl, hkey⟩ := Key.exists_of_read? hk
    obtain ⟨payload, rfl, hpayload⟩ := exists_of_readPlain? hp
    obtain ⟨tags, content, stop, more, rfl, hcontent, hstop, hmore⟩ := (ih h).cons_inv
    have hfields : Fields budget (outer.length + 1) (key.tag :: tags)
        (bytes' ++ (payload ++ content)) := .plain hb hkey hpayload hcontent
    have hall := Unwinds.close hfields hstop hmore
    simpa only [List.append_assoc] using hall
  | case8 => cases h

/-- What is read as records is fields. -/
theorem exists_fields_of_readAll? {budget : Nat} (hb : 0 < budget) {bytes : List UInt8}
    {rs : List Record} (h : Record.readAll? budget bytes = some rs) :
    Fields budget 0 (rs.map Record.tag) bytes := by
  fun_induction Record.readAll? budget bytes generalizing rs with
  | case1 =>
    cases h
    exact .nil
  | case2 => cases h
  | case3 b tail r rest hr ih =>
    obtain ⟨rs, hrs, rfl⟩ := Option.map_eq_some_iff.1 h
    have hrest := ih hrs
    simp only [Record.read?] at hr
    split at hr
    · cases hr
    · rename_i key more hk
      obtain ⟨start, hbytes, hstart⟩ := Key.exists_of_read? hk
      obtain ⟨t, form⟩ := key
      split at hr
      · rename_i hf
        cases hf
        obtain ⟨after, hskip, he⟩ := Option.map_eq_some_iff.1 hr
        cases he
        obtain ⟨inner, content, stop, more, rfl, hcontent, hstop, hmore⟩ :=
          (unwinds_of_skipGroups hskip).cons_inv
        cases hmore
        rw [hbytes]
        exact .group hb hstart hcontent hstop hrest
      · obtain ⟨r', hp, he⟩ := Option.map_eq_some_iff.1 hr
        cases he
        obtain ⟨payload, rfl, hpayload⟩ := exists_of_readPlain? hp
        rw [hbytes]
        exact .plain hb hstart hpayload hrest

/-- The reader accepts fields, and nothing else. -/
theorem fields_iff {budget : Nat} (hb : 0 < budget) {tags : List Nat} {bytes : List UInt8} :
    Fields budget 0 tags bytes ↔
      ∃ rs, Record.readAll? budget bytes = some rs ∧ rs.map Record.tag = tags := by
  constructor
  · intro h
    exact h.readAll?
  · rintro ⟨rs, hrs, rfl⟩
    exact exists_fields_of_readAll? hb hrs

end Wire
end OffloadVolume
