import OffloadVolume.Error

/-!
# PCI functions

A function is a bridge and a place on it. The control plane knows it by one number, the host by a
bus, device and function address. Main statement: `function_inj`, functions with places below 32
have distinct numbers.
-/

namespace OffloadVolume

def functionsPerBridge : Nat := 32

/-- A bridge and a place on it. -/
structure PciSlot where
  pf : Nat
  vf : Nat
  deriving DecidableEq, Repr

namespace PciSlot

/-- The control plane's number of a function. -/
def function (s : PciSlot) : Nat := s.pf * functionsPerBridge + s.vf

def ofFunction (n : Nat) : PciSlot := ⟨n / functionsPerBridge, n % functionsPerBridge⟩

/-- The host's address of a function: the buses start at 1. -/
def bdf (s : PciSlot) : String :=
  "0000:" ++ String.ofList (Numeral.padded 16 2 (s.pf + 1)) ++ ":" ++
    String.ofList (Numeral.padded 16 2 s.vf) ++ ".0"

def text (s : PciSlot) : String := "pf" ++ Numeral.decimal s.pf ++ "/vf" ++ Numeral.decimal s.vf

/-- Different functions have different numbers. -/
theorem function_inj {s t : PciSlot} (hs : s.vf < functionsPerBridge)
    (ht : t.vf < functionsPerBridge) : s.function = t.function ↔ s = t := by
  constructor
  · intro h
    cases s; cases t
    simp only [function, functionsPerBridge, mk.injEq] at *
    omega
  · rintro rfl; rfl

@[simp] theorem function_ofFunction (n : Nat) : (ofFunction n).function = n := by
  simp only [function, ofFunction, functionsPerBridge]; omega

/-- A function is told by its number. -/
theorem ofFunction_function {s : PciSlot} (h : s.vf < functionsPerBridge) :
    ofFunction s.function = s := by
  cases s
  simp only [function, ofFunction, functionsPerBridge, mk.injEq] at *
  omega

end PciSlot

inductive ConnectParams where
  | tcpPort (port : Nat)
  | pciFunction (function : Nat)
  deriving DecidableEq, Repr

namespace ConnectParams

def requireFunction : ConnectParams → Except AttachError Nat
  | pciFunction function => .ok function
  | tcpPort _ => .error (.invalidArgument .functionExpected)

end ConnectParams
end OffloadVolume
