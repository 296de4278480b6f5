import OffloadVolume.Target

/-!
# The spelling of target types

A text is a target type exactly if it is the text of one: there is one spelling for each. What is
wrong with another text is looked for from left to right. Main statement:
`TargetSpec.parse_eq_iff`, what a text is read as, and why it cannot be read.
-/

namespace OffloadVolume

/-! ## Parts between hyphens -/

/-- A text consists of parts with hyphens between them; there are no hyphens inside of them. -/
structure Hyphenated (s : String) (parts : List String) : Prop where
  joined : s = "-".intercalate parts
  nonempty : parts ≠ []
  unbroken : ∀ p ∈ parts, '-' ∉ p.toList

theorem not_mem_of_mem_splitOn {a : Char} {cs part : List Char} (h : part ∈ cs.splitOn a) :
    a ∉ part := by
  induction cs generalizing part with
  | nil => simp_all
  | cons c cs ih =>
    rw [List.splitOn_cons_eq_if_modifyHead] at h
    split at h
    · obtain rfl | hrest := List.mem_cons.1 h
      · simp
      · exact ih hrest
    · rename_i hc
      cases hsplit : cs.splitOn a with
      | nil => simp [hsplit] at h
      | cons first rest =>
        rw [hsplit] at h ih
        obtain rfl | hrest := List.mem_cons.1 h
        · have hne : a ≠ c := fun he => hc (by simp [he])
          simp [hne, ih List.mem_cons_self]
        · exact ih (List.mem_cons_of_mem _ hrest)

namespace TargetSpec

variable {s family transport : String}

/-- There is one way to take a text apart at its hyphens. -/
theorem parts_eq_iff {ps : List String} : parts s = ps ↔ Hyphenated s ps := by
  constructor
  · rintro rfl
    refine ⟨?_, by simp [parts], fun p hp => ?_⟩
    · rw [← String.toList_inj, String.toList_intercalate, parts, List.map_map]
      have hback : String.toList ∘ String.ofList = id := funext fun _ => String.toList_ofList
      rw [hback, List.map_id]
      exact (List.intercalate_splitOn '-').symm
    · obtain ⟨part, hpart, rfl⟩ := List.mem_map.1 hp
      rw [String.toList_ofList]
      exact not_mem_of_mem_splitOn hpart
  · rintro ⟨rfl, hne, hunbroken⟩
    have hsplit : ("-".intercalate ps).toList.splitOn '-' = ps.map String.toList := by
      rw [String.toList_intercalate]
      exact List.splitOn_intercalate '-' (by simpa using hunbroken) (by simpa using hne)
    have hback : String.ofList ∘ String.toList = id := funext fun _ => String.ofList_toList
    rw [parts, hsplit, List.map_map, hback, List.map_id]

/-! ## Names -/

theorem joined_text (t : TargetSpec) :
    t.text = "-".intercalate ["xpu", t.backend.text, t.transport.text] := by
  rw [← String.toList_inj, String.toList_intercalate]
  simp [text, List.intercalate]

/-- The text of a target type consists of the start and its two names. -/
theorem hyphenated_iff (t : TargetSpec) :
    Hyphenated s ["xpu", t.backend.text, t.transport.text] ↔ t.text = s := by
  constructor
  · intro h
    exact (joined_text t).trans h.joined.symm
  · rintro rfl
    have hfamily : '-' ∉ t.backend.text.toList := by cases t.backend <;> decide
    have htransport : '-' ∉ t.transport.text.toList := by cases t.transport <;> decide
    exact ⟨joined_text t, by simp, by simp [hfamily, htransport]⟩

/-- A text of three parts, the first of which is as it should be, is read part by part. -/
theorem parse_of_hyphenated (h : Hyphenated s ["xpu", family, transport]) :
    parse s = (BackendFamily.parse family).bind fun f =>
      (Transport.parse? transport).elim (.error (.unsupportedTransport f.text transport))
        fun t => .ok ⟨f, t⟩ := by
  simp only [parse, parts_eq_iff.2 h, if_true]
  cases BackendFamily.parse family with
  | error e => rfl
  | ok f => cases Transport.parse? transport <;> rfl

/-- Any other text is refused for its form. -/
theorem parse_of_unlike (h : ∀ family transport, ¬ Hyphenated s ["xpu", family, transport]) :
    parse s = .error (.invalidTarget s) := by
  unfold parse
  split
  · rename_i start family transport hparts
    have hstart : start ≠ "xpu" := fun he => h family transport (parts_eq_iff.1 (he ▸ hparts))
    rw [if_neg hstart]
  · rfl

theorem family_of_unknown (h : ∀ f : BackendFamily, f.text ≠ family) :
    BackendFamily.parse family = .error (.unknownBackend family) := by
  have hopi : family ≠ "opi" := (h .opi).symm
  have hsma : family ≠ "sma" := (h .sma).symm
  rw [BackendFamily.parse, if_neg hopi, if_neg hsma]

theorem transport_of_unknown (h : ∀ t : Transport, t.text ≠ transport) :
    Transport.parse? transport = none := by
  have hnvmfTcp : transport ≠ "nvmftcp" := (h .nvmfTcp).symm
  have hnvme : transport ≠ "nvme" := (h .nvme).symm
  have hvirtioBlk : transport ≠ "virtioblk" := (h .virtioBlk).symm
  rw [Transport.parse?, if_neg hnvmfTcp, if_neg hnvme, if_neg hvirtioBlk]

/-! ## Readings -/

/-- What a text is read as. If it is not the text of a target type, its form counts first, then the
name of the family, and then that of the transport. -/
inductive Reads (s : String) : Except AttachError TargetSpec → Prop where
  | spelled {t : TargetSpec} (same : t.text = s) : Reads s (.ok t)
  | unlike (form : ∀ family transport, ¬ Hyphenated s ["xpu", family, transport]) :
    Reads s (.error (.invalidTarget s))
  | unknown {family transport : String} (form : Hyphenated s ["xpu", family, transport])
    (other : ∀ f : BackendFamily, f.text ≠ family) : Reads s (.error (.unknownBackend family))
  | unsupported {f : BackendFamily} {transport : String}
    (form : Hyphenated s ["xpu", f.text, transport])
    (other : ∀ t : Transport, t.text ≠ transport) :
    Reads s (.error (.unsupportedTransport f.text transport))

/-- The text of a target type is read as that target type. -/
theorem parse_text (t : TargetSpec) : parse t.text = .ok t := by
  rw [parse_of_hyphenated ((hyphenated_iff t).2 rfl), BackendFamily.parse_text,
    Transport.parse?_text]
  rfl

/-- A text is read as one thing only. -/
theorem Reads.unique {r : Except AttachError TargetSpec} (h : Reads s r) : parse s = r := by
  cases h with
  | @spelled t same => rw [← same, parse_text]
  | unlike form => exact parse_of_unlike form
  | unknown form other =>
    rw [parse_of_hyphenated form, family_of_unknown other]
    rfl
  | unsupported form other =>
    rw [parse_of_hyphenated form, BackendFamily.parse_text, transport_of_unknown other]
    rfl

theorem exists_reads (s : String) : ∃ r, Reads s r := by
  by_cases hform : ∃ family transport, Hyphenated s ["xpu", family, transport]
  · obtain ⟨family, transport, hform⟩ := hform
    by_cases hfamily : ∃ f : BackendFamily, f.text = family
    · obtain ⟨f, rfl⟩ := hfamily
      by_cases htransport : ∃ t : Transport, t.text = transport
      · obtain ⟨t, rfl⟩ := htransport
        exact ⟨_, .spelled ((hyphenated_iff ⟨f, t⟩).1 hform)⟩
      · exact ⟨_, .unsupported hform (not_exists.1 htransport)⟩
    · exact ⟨_, .unknown hform (not_exists.1 hfamily)⟩
  · simp only [not_exists] at hform
    exact ⟨_, .unlike hform⟩

/-- Each text is read as it should. -/
theorem reads_parse (s : String) : Reads s (parse s) := by
  obtain ⟨r, hr⟩ := exists_reads s
  rwa [hr.unique]

/-- A text is read as a target type exactly if it is the text of one, and then as this one; so each
target type is read back from its text. A text of another form is refused as a whole, and a text of
this form for a name that is not known, the family's before the transport's. -/
theorem parse_eq_iff (s : String) :
    ((∃ t, parse s = .ok t) ↔ ∃ t : TargetSpec, t.text = s) ∧
    (∀ t, (parse s = .ok t ↔ t.text = s) ∧ parse t.text = .ok t) ∧
    (parse s = .error (.invalidTarget s) ↔
      ∀ family transport, ¬ Hyphenated s ["xpu", family, transport]) ∧
    ∀ r, parse s = r ↔ Reads s r := by
  have hreads : ∀ r, parse s = r ↔ Reads s r := fun r => ⟨fun h => h ▸ reads_parse s, Reads.unique⟩
  have hspelled : ∀ t, parse s = .ok t ↔ t.text = s := by
    intro t
    rw [hreads]
    refine ⟨fun h => ?_, .spelled⟩
    cases h with
    | spelled same => exact same
  refine ⟨exists_congr hspelled, fun t => ⟨hspelled t, parse_text t⟩, ?_, hreads⟩
  rw [hreads]
  refine ⟨fun h => ?_, .unlike⟩
  cases h with
  | unlike form => exact form

-- An unknown family counts before an unknown transport, and a doubled hyphen is a part more.
example : parse "xpu-foo-scsi" = .error (.unknownBackend "foo") := by rfl
example : parse "xpu-opi--nvme" = .error (.invalidTarget "xpu-opi--nvme") := by rfl

end TargetSpec
end OffloadVolume
