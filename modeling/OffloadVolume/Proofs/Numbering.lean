import Mathlib.Data.List.Induction
import OffloadVolume.Proofs.Separation

/-!
# Two names of a function

The control plane knows a function by its number, the host by its address. The fields of the address
can be read back from its text, whatever the width of the bus. Main statement:
`PciSlot.names_agree`, the bus and the device in the address are the quotient and the remainder of
the number, so that two functions share both names or none.
-/

namespace OffloadVolume

/-! ## Numerals between separators -/

namespace Numeral

theorem exists_digit_of_mem {radix n : Nat} {cs : List Char} (hn : value? radix cs = some n) :
    ∀ c ∈ cs, ∃ d, digit? c = some d := by
  induction cs using List.reverseRecOn generalizing n with
  | nil => simp
  | append_singleton cs c ih =>
    rw [value?_append_singleton] at hn
    unfold push? at hn
    split at hn
    · rename_i m d hm hd
      exact List.forall_mem_append.2 ⟨ih hm, List.forall_mem_singleton.2 ⟨d, hd⟩⟩
    · cases hn

/-- A numeral holds nothing but digits. -/
theorem not_mem_padded (width n : Nat) {c : Char} (hc : digit? c = none) :
    c ∉ padded 16 width n := by
  intro hmem
  obtain ⟨d, hd⟩ := exists_digit_of_mem (value?_padded (by decide) (by decide) width n) c hmem
  cases hc.symm.trans hd

/-- Zeros before a number do not change how it is read. -/
theorem ofDigits?_padded {width : Nat} (hwidth : 0 < width) (n : Nat) :
    ofDigits? 16 (padded 16 width n) = some n := by
  have hlength : 0 < (padded 16 width n).length := by
    rw [length_padded]
    exact Nat.lt_of_lt_of_le hwidth (Nat.le_max_left _ _)
  have hne : (padded 16 width n).isEmpty = false := by
    rw [List.isEmpty_eq_false_iff]
    exact List.ne_nil_of_length_pos hlength
  rw [ofDigits?, hne]
  exact value?_padded (by decide) (by decide) width n

end Numeral

/-! ## Addresses -/

/-- What an address names, field by field. -/
structure HostAddress where
  domain : Nat
  bus : Nat
  device : Nat
  function : Nat
  deriving DecidableEq, Repr

namespace HostAddress

/-- Reads an address: the domain, the bus and the device between colons, and the function after a
dot, each in hexadecimal digits, however many. -/
def read? (text : String) : Option HostAddress :=
  match text.toList.splitOn ':' with
  | [domain, bus, last] =>
    match last.splitOn '.' with
    | [device, function] => do
      return { domain := ← Numeral.ofDigits? 16 domain
               bus := ← Numeral.ofDigits? 16 bus
               device := ← Numeral.ofDigits? 16 device
               function := ← Numeral.ofDigits? 16 function }
    | _ => none
  | _ => none

/-- The fields of a function's address are read back. -/
theorem read?_bdf (s : PciSlot) :
    read? s.bdf = some ⟨0, s.pf + 1, s.vf, 0⟩ := by
  have htext : s.bdf.toList = ['0', '0', '0', '0'] ++ ':' :: (Numeral.padded 16 2 (s.pf + 1) ++
      ':' :: (Numeral.padded 16 2 s.vf ++ '.' :: ['0'])) := by
    simp [PciSlot.bdf]
  have hlast : ':' ∉ Numeral.padded 16 2 s.vf ++ '.' :: ['0'] := by
    rw [List.mem_append, not_or]
    exact ⟨Numeral.not_mem_padded 2 s.vf (by decide), by decide⟩
  have hcolons : s.bdf.toList.splitOn ':' = [['0', '0', '0', '0'], Numeral.padded 16 2 (s.pf + 1),
      Numeral.padded 16 2 s.vf ++ '.' :: ['0']] := by
    rw [htext, List.splitOn_append_cons_self_of_not_mem (by decide),
      List.splitOn_append_cons_self_of_not_mem (Numeral.not_mem_padded 2 (s.pf + 1) (by decide)),
      List.splitOn_eq_singleton hlast]
  have hdot : (Numeral.padded 16 2 s.vf ++ '.' :: ['0']).splitOn '.' =
      [Numeral.padded 16 2 s.vf, ['0']] := by
    rw [List.splitOn_append_cons_self_of_not_mem (Numeral.not_mem_padded 2 s.vf (by decide))]
    rfl
  have hzeros : Numeral.ofDigits? 16 ['0', '0', '0', '0'] = some 0 := by decide
  have hzero : Numeral.ofDigits? 16 ['0'] = some 0 := by decide
  simp only [read?, hcolons, hdot, hzeros, hzero,
    Numeral.ofDigits?_padded (show 0 < 2 by decide), Option.bind_eq_bind, Option.bind_some,
    Option.pure_def]

end HostAddress

namespace PciSlot

/-- Different functions have different addresses. -/
theorem bdf_injective : Function.Injective bdf := by
  intro s t hbdf
  have hread := congrArg HostAddress.read? hbdf
  simp only [HostAddress.read?_bdf, Option.some.injEq, HostAddress.mk.injEq] at hread
  obtain ⟨-, hbus, hdevice, -⟩ := hread
  cases s
  cases t
  simp only [mk.injEq]
  exact ⟨Nat.succ.inj hbus, hdevice⟩

/-- The address of a function names the quotient of its number by the functions of a bridge, the
buses counted from 1, and the remainder. So different functions have different numbers, different
addresses and, under all prefixes, different identifiers of controllers and of virtio-blk devices:
they are told apart on the control plane exactly if they are on the host. -/
theorem names_agree {s t : PciSlot} (hs : s.vf < functionsPerBridge)
    (ht : t.vf < functionsPerBridge) :
    HostAddress.read? s.bdf =
      some ⟨0, s.function / functionsPerBridge + 1, s.function % functionsPerBridge, 0⟩ ∧
    (s.function = t.function ↔ s.bdf = t.bdf) ∧
    (s ≠ t → s.function ≠ t.function ∧ s.bdf ≠ t.bdf ∧
      ∀ n : Naming, n.controllerId s.function ≠ n.controllerId t.function ∧
        n.virtioBlkId s.function ≠ n.virtioBlkId t.function) := by
  have hnumber : s.function = t.function ↔ s = t := function_inj hs ht
  have hbdf : s.bdf = t.bdf ↔ s = t := bdf_injective.eq_iff
  refine ⟨?_, hnumber.trans hbdf.symm, fun hne => ⟨mt hnumber.1 hne, mt hbdf.1 hne, fun n => ?_⟩⟩
  · have hplace : ofFunction s.function = s := ofFunction_function hs
    have hbus : s.function / functionsPerBridge = s.pf := congrArg pf hplace
    have hdevice : s.function % functionsPerBridge = s.vf := congrArg vf hplace
    rw [HostAddress.read?_bdf, hbus, hdevice]
  · have hdecimal : ∀ before : String,
        before ++ Numeral.decimal s.function ≠ before ++ Numeral.decimal t.function :=
      fun before he => mt hnumber.1 hne
        (Numeral.decimal_injective ((String.append_right_inj before).1 he))
    exact ⟨hdecimal n.controllerPrefix, hdecimal n.virtioBlkPrefix⟩

/-- The last function of one bridge and the first one of the next, on buses of two and of three
digits. -/
theorem names_agree_next_bridge :
    (⟨254, 31⟩ : PciSlot).vf < functionsPerBridge ∧ (⟨255, 0⟩ : PciSlot).vf < functionsPerBridge ∧
    (⟨254, 31⟩ : PciSlot).function + 1 = (⟨255, 0⟩ : PciSlot).function ∧
    HostAddress.read? "0000:ff:1f.0" = some ⟨0, 8159 / 32 + 1, 8159 % 32, 0⟩ ∧
    (⟨254, 31⟩ : PciSlot).bdf ≠ (⟨255, 0⟩ : PciSlot).bdf := by
  have hlast : (⟨254, 31⟩ : PciSlot).vf < functionsPerBridge := by decide
  have hfirst : (⟨255, 0⟩ : PciSlot).vf < functionsPerBridge := by decide
  obtain ⟨hread, -, hne⟩ := names_agree hlast hfirst
  have htext : (⟨254, 31⟩ : PciSlot).bdf = "0000:ff:1f.0" := by decide +kernel
  rw [htext] at hread
  exact ⟨hlast, hfirst, by decide, hread, (hne (by decide)).2.1⟩

end PciSlot
end OffloadVolume
