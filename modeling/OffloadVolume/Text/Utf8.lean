/-!
# UTF-8

Text as bytes. Reading is strict or replaces what is malformed. Main statements: `decode?_encode`,
a text is read back from its bytes, and `eq_encode_of_decode?`, only its bytes read as it.
-/

namespace OffloadVolume.Utf8

def encode (s : String) : List UInt8 := s.toByteArray.data.toList

/-- The text with these bytes, if they are well formed. -/
def decode? (bytes : List UInt8) : Option String := String.fromUTF8? ⟨bytes.toArray⟩

@[simp] theorem decode?_encode (s : String) : decode? (encode s) = some s := by
  have h : (⟨s.toByteArray.data.toList.toArray⟩ : ByteArray) = s.toByteArray := by simp
  simp [decode?, encode, String.fromUTF8?, s.isValidUTF8, String.fromUTF8]

/-- Bytes are decoded only if they are the encoding of the text. -/
theorem eq_encode_of_decode? {bytes : List UInt8} {s : String} (h : decode? bytes = some s) :
    bytes = encode s := by
  unfold decode? String.fromUTF8? at h
  split at h
  · cases h; simp [encode, String.fromUTF8]
  · cases h

/-- The first byte's part in a character: the bits it gives, how many bytes follow, and the range
of the byte after it. -/
structure Lead where
  bits : Nat
  tails : Nat
  low : UInt8
  high : UInt8

/-- What a byte starts, if a character of several bytes may start with it. -/
def lead? (b : UInt8) : Option Lead :=
  if 0xC2 ≤ b ∧ b ≤ 0xDF then some ⟨b.toNat - 0xC0, 1, 0x80, 0xBF⟩
  else if b = 0xE0 then some ⟨0, 2, 0xA0, 0xBF⟩
  else if b = 0xED then some ⟨0xD, 2, 0x80, 0x9F⟩
  else if 0xE1 ≤ b ∧ b ≤ 0xEF then some ⟨b.toNat - 0xE0, 2, 0x80, 0xBF⟩
  else if b = 0xF0 then some ⟨0, 3, 0x90, 0xBF⟩
  else if 0xF1 ≤ b ∧ b ≤ 0xF3 then some ⟨b.toNat - 0xF0, 3, 0x80, 0xBF⟩
  else if b = 0xF4 then some ⟨4, 3, 0x80, 0x8F⟩
  else none

def replacement : Char := Char.ofNat 0xFFFD

/-- Reads `tails` more bytes of a character, the first of them between `low` and `high`; a byte
that does not fit is left for what follows. -/
def finish (value : Nat) (low high : UInt8) : Nat → List UInt8 → Char × List UInt8
  | 0, rest => (Char.ofNat value, rest)
  | _ + 1, [] => (replacement, [])
  | tails + 1, b :: rest =>
    if low ≤ b ∧ b ≤ high then finish (value * 64 + (b.toNat - 0x80)) 0x80 0xBF tails rest
    else (replacement, b :: rest)

theorem length_finish_le (value : Nat) (low high : UInt8) (tails : Nat) (rest : List UInt8) :
    (finish value low high tails rest).2.length ≤ rest.length := by
  induction tails generalizing value low high rest with
  | zero => simp [finish]
  | succ n ih =>
    cases rest with
    | nil => simp [finish]
    | cons b rest =>
      simp only [finish]
      split
      · exact Nat.le_succ_of_le (ih _ _ _ _)
      · simp

/-- The characters of a byte sequence; a longest part that starts a character but does not end it,
and a byte that starts none, are replaced. -/
def decodeReplacing : List UInt8 → List Char
  | [] => []
  | b :: rest =>
    if b < 0x80 then Char.ofNat b.toNat :: decodeReplacing rest
    else match lead? b with
      | none => replacement :: decodeReplacing rest
      | some l =>
        let next := finish l.bits l.low l.high l.tails rest
        next.1 :: decodeReplacing next.2
termination_by bytes => bytes.length
decreasing_by
  · simp
  · simp
  · exact Nat.lt_succ_of_le (length_finish_le _ _ _ _ _)

def decodeLossy (bytes : List UInt8) : String := String.ofList (decodeReplacing bytes)

end OffloadVolume.Utf8
