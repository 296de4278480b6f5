/-!
# White space

The characters with the Unicode property White_Space, and trimming by them. Main statement:
`trims_iff`, trimming leaves out the white space at the two ends and nothing else.
-/

namespace OffloadVolume.Text

/-- The ranges of the Unicode property White_Space, ends included. -/
def blankRanges : List (Nat × Nat) :=
  [(0x9, 0xD), (0x20, 0x20), (0x85, 0x85), (0xA0, 0xA0), (0x1680, 0x1680), (0x2000, 0x200A),
   (0x2028, 0x2029), (0x202F, 0x202F), (0x205F, 0x205F), (0x3000, 0x3000)]

def inRanges (ranges : List (Nat × Nat)) (n : Nat) : Bool :=
  ranges.any fun r => r.1 ≤ n && n ≤ r.2

def isBlank (c : Char) : Bool := inRanges blankRanges c.toNat

/-- The characters between the first and the last one that is not blank. -/
def trimChars (cs : List Char) : List Char :=
  ((cs.dropWhile isBlank).reverse.dropWhile isBlank).reverse

def trim (s : String) : String := String.ofList (trimChars s.toList)

@[simp] theorem trimChars_nil : trimChars [] = [] := rfl

/-- A text is what another one is without the white space at its two ends. -/
structure Trims (cs t : List Char) : Prop where
  parts : ∃ before after, cs = before ++ (t ++ after) ∧ (∀ c ∈ before, isBlank c = true) ∧
    ∀ c ∈ after, isBlank c = true
  first : ∀ c ∈ t.head?, isBlank c = false
  last : ∀ c ∈ t.getLast?, isBlank c = false

theorem isBlank_of_mem_takeWhile {cs : List Char} : ∀ c ∈ cs.takeWhile isBlank, isBlank c = true :=
  List.all_eq_true.1 List.all_takeWhile

/-- Blanks are dropped up to the first character that is none. -/
theorem dropWhile_append {before rest : List Char} (hb : ∀ c ∈ before, isBlank c = true)
    (hr : ∀ c ∈ rest.head?, isBlank c = false) : (before ++ rest).dropWhile isBlank = rest := by
  rw [List.dropWhile_append_of_pos hb]
  cases rest with
  | nil => rfl
  | cons c rest => exact List.dropWhile_cons_of_neg (by simp [hr c rfl])

theorem isBlank_head?_dropWhile (cs : List Char) :
    ∀ c ∈ (cs.dropWhile isBlank).head?, isBlank c = false := by
  intro c hc
  have hnot := List.head?_dropWhile_not isBlank cs
  rwa [Option.mem_def.1 hc] at hnot

theorem trims_trimChars (cs : List Char) : Trims cs (trimChars cs) := by
  have hfront : cs.takeWhile isBlank ++ cs.dropWhile isBlank = cs := List.takeWhile_append_dropWhile
  have hhead := isBlank_head?_dropWhile cs
  have hlast := isBlank_head?_dropWhile (cs.dropWhile isBlank).reverse
  have hback : trimChars cs ++ ((cs.dropWhile isBlank).reverse.takeWhile isBlank).reverse =
      cs.dropWhile isBlank := by
    rw [trimChars, ← List.reverse_append, List.takeWhile_append_dropWhile, List.reverse_reverse]
  refine ⟨⟨_, _, by rw [hback, hfront], isBlank_of_mem_takeWhile, fun c hc => ?_⟩, ?_, ?_⟩
  · exact isBlank_of_mem_takeWhile c (List.mem_reverse.1 hc)
  · intro c hc
    apply hhead
    rw [← hback, List.head?_append, Option.mem_def.1 hc]
    rfl
  · rwa [trimChars, List.getLast?_reverse]

theorem Trims.eq_trimChars {cs t : List Char} (h : Trims cs t) : t = trimChars cs := by
  obtain ⟨before, after, rfl, hbefore, hafter⟩ := h.parts
  have hrev : ∀ c ∈ after.reverse, isBlank c = true := fun c hc => hafter c (List.mem_reverse.1 hc)
  cases t with
  | nil =>
    have hall : ∀ c ∈ before ++ after, isBlank c = true :=
      List.forall_mem_append.2 ⟨hbefore, hafter⟩
    have hnil : (before ++ after ++ []).dropWhile isBlank = [] := dropWhile_append hall (by simp)
    rw [List.append_nil] at hnil
    rw [List.nil_append, trimChars, hnil]
    rfl
  | cons c t =>
    have hfirst : ∀ d ∈ (c :: t ++ after).head?, isBlank d = false := h.first
    have hlast : ∀ d ∈ (c :: t).reverse.head?, isBlank d = false := by
      rw [List.head?_reverse]
      exact h.last
    rw [trimChars, dropWhile_append hbefore hfirst, List.reverse_append, dropWhile_append hrev hlast,
      List.reverse_reverse]

/-- Trimming is the only way to leave out all white space at the two ends and nothing else. -/
theorem trims_iff {cs t : List Char} : Trims cs t ↔ t = trimChars cs :=
  ⟨Trims.eq_trimChars, fun h => h ▸ trims_trimChars cs⟩

/-- Nothing is left of a text exactly if it is white space. -/
theorem trims_nil_iff {cs : List Char} : Trims cs [] ↔ ∀ c ∈ cs, isBlank c = true := by
  constructor
  · intro h
    obtain ⟨before, after, rfl, hbefore, hafter⟩ := h.parts
    exact List.forall_mem_append.2 ⟨hbefore, List.forall_mem_append.2 ⟨by simp, hafter⟩⟩
  · intro h
    exact ⟨⟨cs, [], by simp, h, by simp⟩, by simp, by simp⟩

end OffloadVolume.Text
