/-!
# Numerals

Numbers written in a radix from 2 to 16, and numbers read from text within bounds. Main
statements: `value?_append_singleton`, what one more digit does to a value, `value?_padded`, a padded
numeral is worth its number, and `length_padded`, its width.
-/

namespace OffloadVolume.Numeral

def digit? (c : Char) : Option Nat :=
  if '0' ≤ c ∧ c ≤ '9' then some (c.toNat - 48)
  else if 'a' ≤ c ∧ c ≤ 'f' then some (c.toNat - 87)
  else if 'A' ≤ c ∧ c ≤ 'F' then some (c.toNat - 55)
  else none

/-- One more digit of a numeral whose digits so far are worth `acc`. -/
def push? (radix : Nat) (acc : Option Nat) (c : Char) : Option Nat :=
  match acc, digit? c with
  | some n, some d => if d < radix then some (n * radix + d) else none
  | _, _ => none

def value? (radix : Nat) (cs : List Char) : Option Nat := cs.foldl (push? radix) (some 0)

def ofDigits? (radix : Nat) (cs : List Char) : Option Nat :=
  if cs.isEmpty then none else value? radix cs

/-- An unsigned numeral, a plus sign allowed before it, no greater than the bound. -/
def unsigned? (radix bound : Nat) (cs : List Char) : Option Nat :=
  let digits := match cs with
    | '+' :: rest => rest
    | _ => cs
  (ofDigits? radix digits).filter (· ≤ bound)

/-- A signed decimal numeral of the range from `-bound - 1` to `bound`. -/
def signed? (bound : Nat) : List Char → Option Int
  | '-' :: rest => ((ofDigits? 10 rest).filter (· ≤ bound + 1)).map fun n => -(n : Int)
  | cs => (unsigned? 10 bound cs).map fun n => (n : Int)

/-- The digits of a number in lower case, without leading zeros. -/
def digits (radix n : Nat) : List Char := Nat.toDigits radix n

def decimal (n : Nat) : String := String.ofList (digits 10 n)

def signedDecimal (n : Int) : String :=
  if n < 0 then "-" ++ decimal n.natAbs else decimal n.natAbs

def padded (radix width n : Nat) : List Char :=
  List.replicate (width - (digits radix n).length) '0' ++ digits radix n

/-- The greatest number of 16, 32 and 64 bits. -/
def max16 : Nat := 65535

@[inherit_doc max16]
def max32 : Nat := 4294967295

@[inherit_doc max16]
def max64 : Nat := 18446744073709551615

def maxSigned32 : Nat := 2147483647

def maxSigned64 : Nat := 9223372036854775807

@[simp] theorem value?_nil (radix : Nat) : value? radix [] = some 0 := rfl

theorem value?_append_singleton (radix : Nat) (cs : List Char) (c : Char) :
    value? radix (cs ++ [c]) = push? radix (value? radix cs) c := by
  simp [value?]

theorem digit?_digitChar {d : Nat} (hd : d < 16) : digit? (Nat.digitChar d) = some d := by
  have hall : ∀ d < 16, digit? (Nat.digitChar d) = some d := by decide
  exact hall d hd

theorem push?_digitChar {radix d : Nat} (hr : radix ≤ 16) (hd : d < radix) (n : Nat) :
    push? radix (some n) (Nat.digitChar d) = some (n * radix + d) := by
  simp [push?, digit?_digitChar (Nat.lt_of_lt_of_le hd hr), hd]

/-- A number is read back from its digits. -/
theorem value?_digits {radix : Nat} (h₁ : 1 < radix) (h₂ : radix ≤ 16) (n : Nat) :
    value? radix (digits radix n) = some n := by
  induction n using Nat.strongRecOn with
  | ind n ih =>
    have hpos : 0 < radix := Nat.lt_of_succ_lt h₁
    rw [digits, Nat.toDigits_eq_if h₁]
    split
    · rename_i hn
      rw [value?, List.foldl_cons, List.foldl_nil, push?_digitChar h₂ hn, Nat.zero_mul, Nat.zero_add]
    · have hdiv : n / radix < n := Nat.div_lt_self (by omega) h₁
      have hrest := ih _ hdiv
      rw [digits] at hrest
      rw [value?_append_singleton, hrest, push?_digitChar h₂ (Nat.mod_lt n hpos),
        Nat.mul_comm, Nat.div_add_mod]

/-- Leading zeros do not count. -/
theorem value?_zeros (radix k : Nat) (hr : 0 < radix) (cs : List Char) :
    value? radix (List.replicate k '0' ++ cs) = value? radix cs := by
  have hzero : push? radix (some 0) '0' = some 0 := by
    have hdigit : digit? '0' = some 0 := by decide
    simp [push?, hdigit, hr]
  induction k with
  | zero => rfl
  | succ k ih =>
    rw [value?] at ih ⊢
    rw [List.replicate_succ, List.cons_append, List.foldl_cons, hzero]
    exact ih

theorem value?_padded {radix : Nat} (h₁ : 1 < radix) (h₂ : radix ≤ 16) (width n : Nat) :
    value? radix (padded radix width n) = some n := by
  rw [padded, value?_zeros _ _ (Nat.lt_of_succ_lt h₁), value?_digits h₁ h₂]

theorem length_padded (radix width n : Nat) :
    (padded radix width n).length = max width (digits radix n).length := by
  simp [padded]
  omega

end OffloadVolume.Numeral
