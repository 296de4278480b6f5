/-!
# Variable-length numbers

A number as bytes of seven bits each, the lowest first; every byte but the last has its high bit
set. A reader refuses what does not fit 64 bits. Main statements: `read?_encode`, a number is read
back from its bytes with what follows left over, and `length_lt_of_read?`, reading takes a byte.
-/

namespace OffloadVolume.Varint

def encode (n : Nat) : List UInt8 :=
  if n < 128 then [n.toUInt8] else (n % 128 + 128).toUInt8 :: encode (n / 128)
termination_by n
decreasing_by omega

/-- Reads a number below a bound. A byte that is not the last leaves seven bits less for the rest,
so a bound of `n` bits admits at most `n / 7` bytes, rounded up. -/
def readBelow (bound : Nat) : List UInt8 → Option (Nat × List UInt8)
  | [] => none
  | b :: rest =>
    if b.toNat < 128 then
      if b.toNat < bound then some (b.toNat, rest) else none
    else
      match readBelow (bound / 128) rest with
      | some (high, rest) => some (b.toNat - 128 + 128 * high, rest)
      | none => none

def limit : Nat := 18446744073709551616

def read? (bytes : List UInt8) : Option (UInt64 × List UInt8) :=
  (readBelow limit bytes).map fun r => (UInt64.ofNat r.1, r.2)

theorem length_lt_of_readBelow {bound n : Nat} {bytes rest : List UInt8}
    (h : readBelow bound bytes = some (n, rest)) : rest.length < bytes.length := by
  induction bytes generalizing bound n rest with
  | nil => simp [readBelow] at h
  | cons b bytes ih =>
    simp only [readBelow] at h
    split at h
    · split at h
      · simp only [Option.some.injEq, Prod.mk.injEq] at h; simp [h.2]
      · simp at h
    · split at h
      · rename_i high rest' hr
        simp only [Option.some.injEq, Prod.mk.injEq] at h
        have := ih hr
        rw [← h.2, List.length_cons]
        omega
      · simp at h

theorem length_lt_of_read? {bytes rest : List UInt8} {n : UInt64}
    (h : read? bytes = some (n, rest)) : rest.length < bytes.length := by
  simp only [read?, Option.map_eq_some_iff, Prod.mk.injEq] at h
  obtain ⟨r, hr, -, rfl⟩ := h
  exact length_lt_of_readBelow hr

/-- What follows the bytes of a number does not change how it is read. -/
theorem readBelow_append {bound n : Nat} {bytes rest more : List UInt8}
    (h : readBelow bound bytes = some (n, rest)) :
    readBelow bound (bytes ++ more) = some (n, rest ++ more) := by
  induction bytes generalizing bound n rest with
  | nil => simp [readBelow] at h
  | cons b bytes ih =>
    simp only [readBelow, List.cons_append] at h ⊢
    split at h
    · rename_i hb
      rw [if_pos hb]
      split at h
      · rename_i hn
        rw [if_pos hn]
        simp only [Option.some.injEq, Prod.mk.injEq] at h
        simp [h]
      · simp at h
    · rename_i hb
      rw [if_neg hb]
      split at h
      · rename_i high rest' hr
        rw [ih hr]
        simp only [Option.some.injEq, Prod.mk.injEq] at h
        simp [h]
      · simp at h

theorem read?_append {bytes rest more : List UInt8} {n : UInt64}
    (h : read? bytes = some (n, rest)) : read? (bytes ++ more) = some (n, rest ++ more) := by
  simp only [read?, Option.map_eq_some_iff, Prod.mk.injEq] at h
  obtain ⟨⟨m, r⟩, hr, rfl, rfl⟩ := h
  simp only [read?, readBelow_append hr, Option.map_some]

/-- The bound of numbers of so many groups of seven bits and one bit more. -/
def groupBound : Nat → Nat
  | 0 => 2
  | k + 1 => 128 * groupBound k

theorem groupBound_nine : groupBound 9 = limit := rfl

/-- A number of so many groups of seven bits is read back from its bytes. -/
theorem readBelow_encode (k n : Nat) (h : n < groupBound k) (rest : List UInt8) :
    readBelow (groupBound k) (encode n ++ rest) = some (n, rest) := by
  induction k generalizing n with
  | zero =>
    have h2 : n < 2 := h
    rw [encode, if_pos (by omega)]
    simp [readBelow, groupBound, Nat.mod_eq_of_lt (show n < 256 by omega),
      show n < 128 by omega, h2]
  | succ k ih =>
    rw [groupBound] at h ⊢
    rw [encode]
    split
    · rename_i hn
      simp [readBelow, Nat.mod_eq_of_lt (show n < 256 by omega), hn, h]
    · rename_i hn
      have hb : (n % 128 + 128).toUInt8.toNat = n % 128 + 128 := by
        simp [Nat.mod_eq_of_lt (show n % 128 + 128 < 256 by omega)]
      rw [List.cons_append, readBelow, hb, if_neg (by omega),
        Nat.mul_div_cancel_left _ (by omega), ih (n / 128) (by omega)]
      simp only [Option.some.injEq, Prod.mk.injEq, and_true]
      omega

@[simp] theorem read?_encode (n : UInt64) (rest : List UInt8) :
    read? (encode n.toNat ++ rest) = some (n, rest) := by
  have h : n.toNat < groupBound 9 := n.toNat_lt
  simp only [read?, ← groupBound_nine, readBelow_encode 9 n.toNat h rest, Option.map_some,
    UInt64.ofNat_toNat]

end OffloadVolume.Varint
