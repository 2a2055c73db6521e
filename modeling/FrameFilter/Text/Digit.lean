import FrameFilter.Text.Basic

namespace FrameFilter.Text

-- The code points of the digits zero of all scripts (Unicode 14). The digits one to nine of a
-- script follow its zero.
def zeros : List Nat := [
    0x30, 0x660, 0x6f0, 0x7c0, 0x966, 0x9e6, 0xa66, 0xae6, 0xb66, 0xbe6, 0xc66, 0xce6, 0xd66, 0xde6,
    0xe50, 0xed0, 0xf20, 0x1040, 0x1090, 0x17e0, 0x1810, 0x1946, 0x19d0, 0x1a80, 0x1a90, 0x1b50,
    0x1bb0, 0x1c40, 0x1c50, 0xa620, 0xa8d0, 0xa900, 0xa9d0, 0xa9f0, 0xaa50, 0xabf0, 0xff10, 0x104a0,
    0x10d30, 0x11066, 0x110f0, 0x11136, 0x111d0, 0x112f0, 0x11450, 0x114d0, 0x11650, 0x116c0,
    0x11730, 0x118e0, 0x11950, 0x11c50, 0x11d50, 0x11da0, 0x16a60, 0x16ac0, 0x16b50, 0x1d7ce,
    0x1d7d8, 0x1d7e2, 0x1d7ec, 0x1d7f6, 0x1e140, 0x1e2f0, 0x1e950, 0x1fbf0]

-- A character is a digit if it comes less than ten places after a zero, and the distance is what it
-- is worth.
structure IsDigit (c : Char) (d : Nat) : Prop where
  zero   : ∃ z ∈ zeros, c.toNat = z + d
  lt_ten : d < 10

-- The value of a decimal digit of any script.
def digit? (c : Char) : Option Nat :=
  (zeros.find? fun z => z ≤ c.toNat && c.toNat ≤ z + 9).map (c.toNat - ·)

-- The digits of two scripts do not overlap.
theorem eq_of_mem_zeros (h : z ∈ zeros) (h' : z' ∈ zeros) (hl : z < z' + 10) (hl' : z' < z + 10) :
    z = z' := by
  have hz : ∀ z ∈ zeros, ∀ z' ∈ zeros, z < z' + 10 → z' < z + 10 → z = z' := by decide +kernel
  exact hz z h z' h' hl hl'

theorem digit?_eq_some_iff : digit? c = some d ↔ IsDigit c d := by
  rw [digit?, Option.map_eq_some_iff]
  constructor
  case mp =>
    intro ⟨z, hz, hd⟩
    have hc := List.find?_some hz
    simp only [Bool.and_eq_true, decide_eq_true_eq] at hc
    exact ⟨⟨z, List.mem_of_find?_eq_some hz, by omega⟩, by omega⟩
  case mpr =>
    intro ⟨⟨z, hz, hc⟩, hd⟩
    cases hf : zeros.find? fun z => z ≤ c.toNat && c.toNat ≤ z + 9
    case none =>
      have hn := List.find?_eq_none.mp hf z hz
      simp only [Bool.and_eq_true, decide_eq_true_eq] at hn
      omega
    case some z' =>
      have hc' := List.find?_some hf
      simp only [Bool.and_eq_true, decide_eq_true_eq] at hc'
      have he := eq_of_mem_zeros hz (List.mem_of_find?_eq_some hf) (by omega) (by omega)
      exact ⟨z', rfl, by omega⟩

end FrameFilter.Text
