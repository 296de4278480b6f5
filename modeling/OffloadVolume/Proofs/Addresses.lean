import OffloadVolume.Proofs.Exhaustion

/-!
# Addresses of functions

A bus has two hexadecimal digits in the address of a function, and buses start at 1. Main statement:
`Config.wellFormed_iff_bridges`, the addresses of all functions that are handed out are well formed
exactly if there are fewer bridges than a configuration may have.
-/

namespace OffloadVolume

/-- A text is the address of the first function of a device on a bus, both in two hexadecimal
digits. -/
def Addresses (text : String) (bus device : Nat) : Prop :=
  ∃ b d : List Char, text = "0000:" ++ String.ofList b ++ ":" ++ String.ofList d ++ ".0" ∧
    b.length = 2 ∧ Numeral.value? 16 b = some bus ∧ d.length = 2 ∧ Numeral.value? 16 d = some device

def IsAddress (text : String) : Prop :=
  ∃ bus device, Addresses text bus device ∧ bus ≤ 0xff ∧ device ≤ 0x1f

namespace PciSlot

variable {s : PciSlot}

/-- Two digits hold the numbers below 256. -/
theorem length_padded_byte {n : Nat} : (Numeral.padded 16 2 n).length = 2 ↔ n < 256 := by
  have hdigits : (Numeral.digits 16 n).length ≤ 2 ↔ n < 256 :=
    Nat.length_toDigits_le_iff (by decide) (by decide)
  rw [Numeral.length_padded, ← hdigits]
  omega

/-- A function up to bus 255 is addressed by its bus and its place. -/
theorem addresses_bdf (hp : s.pf < 255) (hv : s.vf < functionsPerBridge) :
    Addresses s.bdf (s.pf + 1) s.vf := by
  have hvf : s.vf < 256 := Nat.lt_trans hv (by decide)
  refine ⟨Numeral.padded 16 2 (s.pf + 1), Numeral.padded 16 2 s.vf, rfl, ?_, ?_, ?_, ?_⟩
  · exact length_padded_byte.2 (Nat.succ_lt_succ hp)
  · exact Numeral.value?_padded (by decide) (by decide) 2 (s.pf + 1)
  · exact length_padded_byte.2 hvf
  · exact Numeral.value?_padded (by decide) (by decide) 2 s.vf

/-- An address is as long as its two numbers let it be. -/
theorem pf_lt_of_addresses {bus device : Nat} (h : Addresses s.bdf bus device) : s.pf < 255 := by
  obtain ⟨b, d, htext, hb, -, hd, -⟩ := h
  have hlength := congrArg String.length htext
  simp only [bdf, String.length_append, String.length_ofList, hb, hd] at hlength
  have hbus : (Numeral.padded 16 2 (s.pf + 1)).length = 2 := by
    have hle := Numeral.length_padded 16 2 (s.pf + 1)
    have hle' := Numeral.length_padded 16 2 s.vf
    omega
  exact Nat.lt_of_succ_lt_succ (length_padded_byte.1 hbus)

/-- The address of a function is well formed exactly if its bus has a number below 256. -/
theorem isAddress_bdf_iff (hv : s.vf < functionsPerBridge) : IsAddress s.bdf ↔ s.pf < 255 := by
  constructor
  · rintro ⟨bus, device, h, -⟩
    exact pf_lt_of_addresses h
  · intro hp
    have hbus : s.pf + 1 ≤ 0xff := by omega
    exact ⟨s.pf + 1, s.vf, addresses_bdf hp hv, hbus, Nat.le_of_lt_succ hv⟩

end PciSlot

namespace Tenancy

/-- Devices are on all functions of some bridges. -/
def full (bridges : Nat) : Tenancy := start fun s => decide (s.pf < bridges)

/-- When some bridges are full, just the functions on later ones can be handed out. -/
theorem available_full {bridges : Nat} {s : PciSlot} :
    (full bridges).Available s ↔ bridges ≤ s.pf := by
  simp [full, Available, Claims.Available, start, Claims.Fresh]

/-- With devices on all functions of the bridges before, the first function of a bridge is handed
out. -/
theorem answer_full (bridges : Nat) : (full bridges).answer (bridges + 1) = .ok ⟨bridges, 0⟩ := by
  have hfirst : PciSlot.Within (bridges + 1) ⟨bridges, 0⟩ :=
    ⟨Nat.lt_succ_self bridges, Nat.succ_pos 31⟩
  have hfree : (full bridges).Available ⟨bridges, 0⟩ := available_full.2 (Nat.le_refl _)
  obtain ⟨s, hs, hw, ha, hleast⟩ | ⟨-, hnone⟩ := (full bridges).answer_cases (bridges + 1)
  · have hpf : s.pf = bridges := Nat.le_antisymm (Nat.le_of_lt_succ hw.1) (available_full.1 ha)
    have hle : ¬(⟨bridges, 0⟩ : PciSlot).function < s.function := fun hlt =>
      hleast _ hfirst hlt hfree
    have hvf : s.vf = 0 := by
      simp only [PciSlot.function, hpf] at hle
      omega
    rw [hs, ← hpf, ← hvf]
  · exact absurd hfree (hnone _ hfirst)

end Tenancy

namespace Config

variable {τ : Type}

/-- Under a configuration that is accepted, the address of a function that is handed out is well
formed exactly if the function is not on the last bridge that a configuration may have; so all
addresses are, whatever devices come and go and whatever is claimed, exactly if there are fewer
bridges. -/
theorem wellFormed_iff_bridges (c : Config) (hc : c.validate = .ok ()) :
    (∀ (tree : Sysfs) (m : Machine τ) s, (tree.allocator.allocate c.bridges m).1 = .ok s →
      (IsAddress s.bdf ↔ s.pf + 1 < maxBridges) ∧
      (s.pf + 1 < maxBridges → Addresses s.bdf (s.pf + 1) s.vf)) ∧
    ((∀ p es s, ((Tenancy.start p).run es).answer c.bridges = .ok s → IsAddress s.bdf) ↔
      c.bridges < maxBridges) := by
  have hbridges : c.bridges ≤ maxBridges := c.validate_eq_ok_iff.1 hc
  refine ⟨fun tree m s hs => ?_, ?_, fun hlt p es s hs => ?_⟩
  · have hv : s.vf < functionsPerBridge := (Claims.available_of_allocate hs).1.2
    rw [PciSlot.isAddress_bdf_iff hv, ← Nat.lt_sub_iff_add_lt]
    exact ⟨Iff.rfl, fun hp => PciSlot.addresses_bdf hp hv⟩
  · intro hall
    by_contra hnot
    have hmax : c.bridges = 255 + 1 := Nat.le_antisymm hbridges (Nat.le_of_not_lt hnot)
    have haddress : IsAddress (⟨255, 0⟩ : PciSlot).bdf :=
      hall _ [] _ (hmax ▸ Tenancy.answer_full 255)
    exact absurd ((PciSlot.isAddress_bdf_iff (by decide)).1 haddress) (by decide)
  · obtain ⟨hw, -⟩ := Tenancy.available_of_answer hs
    have hpf : s.pf < 255 := Nat.lt_of_lt_of_le hw.1 (Nat.le_of_lt_succ hlt)
    exact (PciSlot.isAddress_bdf_iff hw.2).2 hpf

/-- With 255 bridges all addresses are well formed. -/
theorem wellFormed_iff_bridges_255 : validate { bridges := 255 } = .ok () ∧
    ∀ p es s, ((Tenancy.start p).run es).answer 255 = .ok s → IsAddress s.bdf := by
  have hvalid : validate { bridges := 255 } = .ok () := by rw [validate_eq_ok_iff]; decide
  exact ⟨hvalid, (wellFormed_iff_bridges (τ := Unit) { bridges := 255 } hvalid).2.2 (by decide)⟩

/-- With 256 bridges, when only the last one is without devices, a function is handed out whose bus
has three digits. -/
theorem not_wellFormed_last_bridge : validate { bridges := 256 } = .ok () ∧
    (Tenancy.full 255).answer 256 = .ok ⟨255, 0⟩ ∧
    (⟨255, 0⟩ : PciSlot).bdf = "0000:100:00.0" ∧ ¬IsAddress (⟨255, 0⟩ : PciSlot).bdf := by
  refine ⟨?_, Tenancy.answer_full 255, by decide +kernel, ?_⟩
  · rw [validate_eq_ok_iff]
    decide
  · rw [PciSlot.isAddress_bdf_iff (by decide)]
    decide

end Config
end OffloadVolume
