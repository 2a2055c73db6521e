import FrameFilter.Proofs.Hex.Line
import FrameFilter.Proofs.Utf8.WellFormed

namespace FrameFilter.Hex

theorem digitChar_of_mem_digits (h : c ∈ digits) :
    ∃ n, digit? c = some n ∧ n < 16 ∧ Nat.digitChar n = c.toLower := by
  have hd : digits.all fun c =>
      (digit? c).any fun n => n < 16 && Nat.digitChar n = c.toLower := by decide
  simpa [Option.any_eq_true] using List.all_eq_true.mp hd c h

theorem digitChars_pair (hc : c ∈ digits) (hd : d ∈ digits) :
    ∃ b : UInt8, UInt8.ofNat (value ([c, d].filterMap digit?)) = b ∧
      Nat.digitChar (b.toNat / 16) = c.toLower ∧ Nat.digitChar (b.toNat % 16) = d.toLower := by
  have ⟨m, hvc, hm, hlc⟩ := digitChar_of_mem_digits hc
  have ⟨n, hvd, hn, hld⟩ := digitChar_of_mem_digits hd
  have hv : value ([c, d].filterMap digit?) = 16 * m + n := by simp [hvc, hvd, value]
  have hb : (UInt8.ofNat (16 * m + n)).toNat = 16 * m + n := by simp; omega
  have hq : (16 * m + n) / 16 = m := by omega
  have hr : (16 * m + n) % 16 = n := by omega
  refine ⟨_, rfl, ?_, ?_⟩
  case refine_1 => rw [hv, hb, hq, hlc]
  case refine_2 => rw [hv, hb, hr, hld]

-- The case of the digits is all that is lost when they are read.
theorem write_clean (h : IsClean t) : write (clean t) = t.map Char.toLower := by
  fun_induction clean t
  case case1 c d t hi =>
    have ⟨hl, hd⟩ := h
    simp only [List.forall_mem_cons, List.length_cons] at hl hd
    have ⟨b, hb, hc, hd'⟩ := digitChars_pair hd.1 hd.2.1
    rw [write_cons, hb, hc, hd', hi ⟨by omega, hd.2.2⟩]
    rfl
  case case2 t hn =>
    cases t
    case nil => rfl
    case cons c t =>
      cases t
      case nil  => cases h.left
      case cons => exact absurd rfl (hn _ _ _)

theorem write_inj : write as = write bs ↔ as = bs where
  mp h  := by rw [← clean_write as, h, clean_write]
  mpr h := h ▸ rfl

theorem readText_eq (h : read m t = .ok bs) : readText m t = .ok (Utf8.decode bs) := by
  simp [readText, h, bind, Except.bind, pure, Except.pure]

theorem readText_writeText (m : Mode) (t : Text) : readText m (writeText t) = .ok t := by
  have h := readText_eq (read_write m (Utf8.encode t))
  rwa [Utf8.decode_encode] at h

-- Writing and reading text are inverse to each other, except that octets that no text is written as
-- do not survive.
theorem text_round_trip :
    (∀ m t, readText m (writeText t) = .ok t) ∧
      ∀ m line, IsClean line →
        ∃ bs t, read m line = .ok bs ∧ readText m line = .ok t ∧
          (writeText t = line.map Char.toLower ↔ Utf8.WellFormed bs) ∧
          (Utf8.WellFormed bs ↔ ∃ u, Utf8.encode u = bs) := by
  refine ⟨readText_writeText, fun m line h => ?_⟩
  have hr := read_of_isClean m h
  refine ⟨clean line, _, hr, readText_eq hr, ?_, Utf8.wellFormed_iff_exists_encode⟩
  rw [← write_clean h, writeText, write_inj]
  exact Utf8.encode_decode_iff

-- A character of three octets, and an overlong form.
theorem text_round_trip_mixed_case :
    (∃ t, readText .strict "E282aC".toList = .ok t ∧ writeText t = "e282ac".toList) ∧
      ∃ t, readText .lenient "C0aF".toList = .ok t ∧ writeText t ≠ "c0af".toList ∧
        ¬∃ u, Utf8.encode u = [0xc0, 0xaf] := by
  constructor
  case left =>
    have ⟨bs, t, hr, ht, hw, hu⟩ := text_round_trip.right .strict "E282aC".toList (by decide)
    have hb : bs = Utf8.encode ['€'] := Except.ok.inj <| hr.symm.trans (by decide)
    exact ⟨t, ht, hw.mpr <| hu.mpr ⟨['€'], hb.symm⟩⟩
  case right =>
    have ⟨bs, t, hr, ht, hw, hu⟩ := text_round_trip.right .lenient "C0aF".toList (by decide)
    have hb : bs = [0xc0, 0xaf] := Except.ok.inj <| hr.symm.trans (by decide)
    subst hb
    have hd : Utf8.decode [0xc0, 0xaf] = [Utf8.replacement, Utf8.replacement] := by
      rw [Utf8.decode_cons_of_none rfl, Utf8.decode_cons_of_none rfl, Utf8.decode_nil]
    have he : t = [Utf8.replacement, Utf8.replacement] :=
      hd ▸ Except.ok.inj (ht.symm.trans <| readText_eq hr)
    have hn : writeText t ≠ "c0af".toList := by rw [he]; decide
    exact ⟨t, ht, hn, mt hu.mpr <| mt hw.mpr hn⟩

end FrameFilter.Hex
