import FrameFilter.Proofs.Hex.Line

namespace FrameFilter.Hex

-- What strict reading has against a line. That a character is wrong only matters if the length is
-- not, and the first such character is the one to blame.
inductive Refusal (t : Text) : Fault → Prop
  | oddLength (hl : t.length % 2 = 1) : Refusal t (.oddLength t.length)
  | badDigit (hl : t.length % 2 = 0) (ht : t = before ++ c :: after)
      (hb : ∀ d ∈ before, d ∈ digits) (hc : c ∉ digits) : Refusal t (.badDigit c)

variable {t : Text}

theorem read_strict_of_odd (h : t.length % 2 = 1) :
    read .strict t = .error (.oddLength t.length) := by
  simp [read, h]

theorem read_strict_of_even (h : t.length % 2 = 0) (hf : t.find? (!isDigit ·) = some c) :
    read .strict t = .error (.badDigit c) := by
  simp [read, evenPart_of_even h, hf, h]

theorem find?_not_isDigit_eq_some_iff : t.find? (!isDigit ·) = some c ↔
    c ∉ digits ∧ ∃ before after, t = before ++ c :: after ∧ ∀ d ∈ before, d ∈ digits := by
  simp [List.find?_eq_some_iff_append, ← isDigit_iff_mem_digits]

theorem read_strict_eq_error_iff : read .strict t = .error fault ↔ Refusal t fault := by
  constructor
  case mp =>
    intro h
    by_cases hl : t.length % 2 = 1
    case pos =>
      cases (read_strict_of_odd hl).symm.trans h
      exact .oddLength hl
    case neg =>
      have he : t.length % 2 = 0 := by omega
      cases hf : t.find? (!isDigit ·)
      case none   => cases (read_of_isDigit .strict he (by simpa using hf)).symm.trans h
      case some c =>
        cases (read_strict_of_even he hf).symm.trans h
        have ⟨hc, _, _, ht, hb⟩ := find?_not_isDigit_eq_some_iff.mp hf
        exact .badDigit he ht hb hc
  case mpr =>
    intro h
    cases h
    case oddLength hl         => exact read_strict_of_odd hl
    case badDigit hl ht hb hc =>
      exact read_strict_of_even hl <| find?_not_isDigit_eq_some_iff.mpr ⟨hc, _, _, ht, hb⟩

theorem exists_read_strict_eq_ok_iff : (∃ bs, read .strict t = .ok bs) ↔ IsClean t where
  mp  := fun ⟨_, h⟩ => isClean_of_read_strict h
  mpr := fun h => ⟨_, read_of_isClean .strict h⟩

-- What strict reading accepts, lenient reading reads the same.
theorem read_lenient_of_read_strict (h : read .strict t = .ok bs) : read .lenient t = .ok bs := by
  have hc := isClean_of_read_strict h
  exact (read_of_isClean .lenient hc).trans <| (read_of_isClean .strict hc).symm.trans h

theorem Refusal.isPrefixOf_message (h : Refusal t fault) :
    "odd-length".toList <+: fault.message ↔ t.length % 2 = 1 := by
  cases h
  case oddLength hl => exact iff_of_true ⟨_, rfl⟩ hl
  case badDigit hl _ _ _ =>
    refine iff_of_false ?_ (by omega)
    rintro ⟨_, h⟩
    cases h

theorem drops_of_isClean (m : Mode) (h : IsClean t) : drops m t = false := by
  simp [drops, h.left]

end FrameFilter.Hex
