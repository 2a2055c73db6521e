import FrameFilter.Hex.Line
import FrameFilter.Proofs.Text.Newline

namespace FrameFilter.Hex

theorem digit?_digitChar (h : n < 16) : digit? (Nat.digitChar n) = some n := by
  have hd : ∀ n < 16, digit? (Nat.digitChar n) = some n := by decide
  exact hd n h

theorem write_cons :
    write (b :: bs) = Nat.digitChar (b.toNat / 16) :: Nat.digitChar (b.toNat % 16) :: write bs :=
  rfl

theorem isDigit_digitChar (h : n < 16) : isDigit (Nat.digitChar n) := by
  simp [isDigit, digit?_digitChar h]

theorem isDigit_of_mem_write (h : c ∈ write bs) : isDigit c := by
  simp only [write, List.mem_flatMap, List.mem_cons, List.not_mem_nil, or_false] at h
  obtain ⟨b, _, hc⟩ := h
  have hb := b.toNat_lt
  cases hc
  case inl hc => exact hc ▸ isDigit_digitChar (by omega)
  case inr hc => exact hc ▸ isDigit_digitChar (by omega)

theorem clean_write (bs : Octets) : clean (write bs) = bs := by
  induction bs
  case nil          => rfl
  case cons b bs hi =>
    have hb := b.toNat_lt
    have h₁ := digit?_digitChar (show b.toNat / 16 < 16 by omega)
    have h₂ := digit?_digitChar (show b.toNat % 16 < 16 by omega)
    have hv : value [b.toNat / 16, b.toNat % 16] = b.toNat := by simp [value]; omega
    simp [write_cons, clean, h₁, h₂, hv, hi]

theorem evenPart_of_even (h : t.length % 2 = 0) : evenPart t = t := by
  simp [evenPart, h]

-- Both modes agree on a line of complete pairs of digits.
theorem read_of_isDigit (m : Mode) (h : t.length % 2 = 0) (hd : ∀ c ∈ t, isDigit c) :
    read m t = .ok (clean t) := by
  have hf : t.find? (!isDigit ·) = none := by simpa using hd
  simp only [read, evenPart_of_even h, hf, h]
  simp

-- The ASCII digits of both cases.
def digits : Text :=
  "0123456789abcdefABCDEF".toList

-- Complete pairs of digits, and nothing else.
def IsClean (t : Text) : Prop :=
  t.length % 2 = 0 ∧ ∀ c ∈ t, c ∈ digits

instance : Decidable (IsClean t) :=
  decidable_of_iff (t.length % 2 = 0 ∧ t.all digits.contains) <| by simp [IsClean]

theorem isDigit_of_mem_digits (h : c ∈ digits) : isDigit c := by
  have hd : digits.all isDigit := by decide
  exact List.all_eq_true.mp hd c h

theorem toNat_lt_of_isDigit (h : isDigit c) : c.toNat < 0x80 := by
  have hc : c ≤ '9' ∨ c ≤ 'f' ∨ c ≤ 'F' := by
    simp only [isDigit, digit?] at h
    grind
  have hn : c.toNat ≤ 0x39 ∨ c.toNat ≤ 0x66 ∨ c.toNat ≤ 0x46 := hc
  omega

theorem isDigit_iff_mem_digits : isDigit c ↔ c ∈ digits := by
  constructor
  case mp =>
    intro h
    have hd : ∀ n < 0x80, isDigit (Char.ofNat n) → Char.ofNat n ∈ digits := by decide
    have hc := hd c.toNat <| toNat_lt_of_isDigit h
    rw [Char.ofNat_toNat] at hc
    exact hc h
  case mpr => exact isDigit_of_mem_digits

theorem read_of_isClean (m : Mode) (h : IsClean t) : read m t = .ok (clean t) :=
  read_of_isDigit m h.left fun c hc => isDigit_of_mem_digits <| h.right c hc

-- Lenient reading refuses nothing.
theorem exists_read_eq_ok (t : Text) : ∃ bs, read .lenient t = .ok bs := by
  cases h : (evenPart t).find? (!isDigit ·)
  case none   => exact ⟨clean (evenPart t), by simp [read, h]⟩
  case some c => exact ⟨pairwise (evenPart t), by simp [read, h]⟩

-- Strict reading is for complete pairs of digits only.
theorem exists_read_eq_error (h : ¬IsClean t) : ∃ fault, read .strict t = .error fault := by
  by_cases hl : t.length % 2 = 1
  case pos => exact ⟨.oddLength t.length, by simp [read, hl]⟩
  case neg =>
    have he : t.length % 2 = 0 := by omega
    have hd : ¬∀ c ∈ t, isDigit c := fun hd =>
      h ⟨he, fun c hc => isDigit_iff_mem_digits.mp <| hd c hc⟩
    cases hf : t.find? (!isDigit ·)
    case none   => exact absurd (by simpa using hf) hd
    case some c => exact ⟨.badDigit c, by simp [read, evenPart_of_even he, hf, he]⟩

theorem isClean_of_read_strict (h : read .strict t = .ok bs) : IsClean t := by
  by_cases hc : IsClean t
  case pos => exact hc
  case neg =>
    have ⟨fault, he⟩ := exists_read_eq_error hc
    cases h.symm.trans he

-- Where both modes read a line, they read the same.
theorem read_congr (h : read m t = .ok bs) (h' : read m' t = .ok bs') : bs = bs' := by
  have hc : m = m' ∨ IsClean t := by
    cases m <;> cases m'
    case lenient.lenient => exact .inl rfl
    case strict.strict   => exact .inl rfl
    case lenient.strict  => exact .inr <| isClean_of_read_strict h'
    case strict.lenient  => exact .inr <| isClean_of_read_strict h
  cases hc
  case inl hm => exact Except.ok.inj <| h.symm.trans <| hm ▸ h'
  case inr hc =>
    rw [read_of_isClean _ hc] at h h'
    exact Except.ok.inj <| h.symm.trans h'

theorem read_write (m : Mode) (bs : Octets) : read m (write bs) = .ok bs := by
  rw [read_of_isDigit m (by simp [length_write]) fun _ => isDigit_of_mem_write, clean_write]

theorem drops_write (m : Mode) (bs : Octets) : drops m (write bs) = false := by
  simp [drops, length_write]

theorem chomp_write (bs : Octets) (e : Text.Terminator) :
    Text.chomp (write bs ++ e.text) = write bs := by
  apply Text.chomp_append_terminator
  all_goals
    intro h
    have hd := isDigit_of_mem_write <| List.mem_of_getLast? h
    revert hd
    decide

end FrameFilter.Hex
