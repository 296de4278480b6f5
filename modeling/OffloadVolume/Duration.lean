import OffloadVolume.Text.Numeral

/-!
# Durations

A span of time in whole nanoseconds and its text: the largest unit whose whole part is not zero,
then the exact fraction without trailing zeros.
-/

namespace OffloadVolume

/-- A span of time in nanoseconds. -/
structure Duration where
  nanos : Nat
  deriving DecidableEq, Repr

namespace Duration

def ofSecs (n : Nat) : Duration := ⟨n * 1000000000⟩

def ofMillis (n : Nat) : Duration := ⟨n * 1000000⟩

def secs (d : Duration) : Nat := d.nanos / 1000000000

/-- The milliseconds of a span, a started one counted in full. -/
def millis (d : Duration) : Nat := (d.nanos + 999999) / 1000000

@[simp] theorem secs_ofSecs (n : Nat) : (ofSecs n).secs = n := by simp [secs, ofSecs]

@[simp] theorem millis_ofMillis (n : Nat) : (ofMillis n).millis = n := by
  simp only [millis, ofMillis]; omega

/-- A unit of time: its nanoseconds, how many decimal places they are, and its symbol. -/
structure Scale where
  nanos : Nat
  places : Nat
  symbol : String

/-- The largest unit whose whole part is not zero. -/
def scale (d : Duration) : Scale :=
  if 1000000000 ≤ d.nanos then ⟨1000000000, 9, "s"⟩
  else if 1000000 ≤ d.nanos then ⟨1000000, 6, "ms"⟩
  else if 1000 ≤ d.nanos then ⟨1000, 3, "µs"⟩
  else ⟨1, 0, "ns"⟩

/-- The digits after the point, the trailing zeros left out. -/
def fraction (places n : Nat) : List Char :=
  let digits := Numeral.padded 10 places n
  (digits.reverse.dropWhile (· == '0')).reverse

def text (d : Duration) : String :=
  let unit := d.scale
  let whole := Numeral.decimal (d.nanos / unit.nanos)
  let part := fraction unit.places (d.nanos % unit.nanos)
  whole ++ (if part.isEmpty then "" else "." ++ String.ofList part) ++ unit.symbol

end Duration
end OffloadVolume
