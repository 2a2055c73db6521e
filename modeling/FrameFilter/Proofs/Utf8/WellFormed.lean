import FrameFilter.Proofs.Utf8.Decoder

namespace FrameFilter.Utf8

-- The encodings of characters one after the other, and nothing else.
inductive WellFormed : Octets → Prop
  | nil : WellFormed []
  | cons (hc : IsCharacter b fs) (h : WellFormed bs) : WellFormed (b :: (fs ++ bs))

theorem val_charOf (b : UInt8) (fs : Octets)
    (h : fs.foldl (fun n f => 0x40 * n + f.toNat % 0x40) (leadBits b) = n) (hv : n.isValidChar) :
    (charOf b fs).val.toNat = n := by
  rw [charOf, h, Char.ofNat, dif_pos hv]
  rfl

-- The octets of a character are the ones that it is written as. Here the bounds of `followers` are
-- needed in full: with a longer form or with the form of a surrogate this would be wrong.
theorem encodeChar_charOf_one (h : b.toNat < 0x80) : String.utf8EncodeChar (charOf b []) = [b] := by
  have hb : b.toNat = leadBits b := by simp [leadBits, UInt8.lt_iff_toNat_lt, h]
  have hv : (charOf b []).val.toNat = leadBits b := val_charOf b [] rfl (.inl (by omega))
  fun_cases String.utf8EncodeChar (charOf b [])
  case case1 =>
    simp [← UInt8.toNat_inj]
    omega
  all_goals omega

theorem encodeChar_charOf_two (h : 0xc2 ≤ b.toNat ∧ b.toNat < 0xe0) (hf : Band.tail.contains f) :
    String.utf8EncodeChar (charOf b [f]) = [b, f] := by
  rw [Band.tail_contains_iff] at hf
  have hb : b.toNat = 0xc0 + leadBits b := by
    simp only [leadBits, UInt8.lt_iff_toNat_lt, UInt8.reduceToNat]
    split_ifs <;> omega
  have hv : (charOf b [f]).val.toNat = 0x40 * leadBits b + f.toNat % 0x40 :=
    val_charOf b [f] rfl (.inl (by omega))
  fun_cases String.utf8EncodeChar (charOf b [f])
  case case2 =>
    simp [← UInt8.toNat_inj]
    omega
  all_goals omega

theorem encodeChar_charOf_three (h : 0xe0 ≤ b.toNat ∧ b.toNat < 0xf0) (hf : Band.tail.contains f)
    (hg : Band.tail.contains g) (hl : b.toNat = 0xe0 → 0xa0 ≤ f.toNat)
    (hs : b.toNat = 0xed → f.toNat < 0xa0) :
    String.utf8EncodeChar (charOf b [f, g]) = [b, f, g] := by
  rw [Band.tail_contains_iff] at hf hg
  have hb : b.toNat = 0xe0 + leadBits b := by
    simp only [leadBits, UInt8.lt_iff_toNat_lt, UInt8.reduceToNat]
    split_ifs <;> omega
  have hv : (charOf b [f, g]).val.toNat =
      0x40 * (0x40 * leadBits b + f.toNat % 0x40) + g.toNat % 0x40 :=
    val_charOf b [f, g] rfl (by omega)
  fun_cases String.utf8EncodeChar (charOf b [f, g])
  case case3 =>
    simp [← UInt8.toNat_inj]
    omega
  all_goals omega

theorem encodeChar_charOf_four (h : 0xf0 ≤ b.toNat ∧ b.toNat < 0xf5) (hf : Band.tail.contains f)
    (hg : Band.tail.contains g) (hk : Band.tail.contains k) (hl : b.toNat = 0xf0 → 0x90 ≤ f.toNat)
    (hs : b.toNat = 0xf4 → f.toNat < 0x90) :
    String.utf8EncodeChar (charOf b [f, g, k]) = [b, f, g, k] := by
  rw [Band.tail_contains_iff] at hf hg hk
  have hb : b.toNat = 0xf0 + leadBits b := by
    simp only [leadBits, UInt8.lt_iff_toNat_lt, UInt8.reduceToNat]
    split_ifs <;> omega
  have hv : (charOf b [f, g, k]).val.toNat =
      0x40 * (0x40 * (0x40 * leadBits b + f.toNat % 0x40) + g.toNat % 0x40) + k.toNat % 0x40 :=
    val_charOf b [f, g, k] rfl (by omega)
  fun_cases String.utf8EncodeChar (charOf b [f, g, k])
  case case4 =>
    simp [← UInt8.toNat_inj]
    omega
  all_goals omega

theorem encodeChar_charOf (h : IsCharacter b fs) :
    String.utf8EncodeChar (charOf b fs) = b :: fs := by
  have ⟨rs, hf, h⟩ := h
  revert hf
  fun_cases followers b <;> intro hf <;> cases hf
  all_goals
    simp only [Fits, List.forall₂_cons_left_iff, List.forall₂_nil_left_iff, Band.contains_iff,
      UInt8.lt_iff_toNat_lt, ← UInt8.toNat_inj, UInt8.reduceToNat] at *
  case case1 => exact h ▸ encodeChar_charOf_one (by omega)
  case case3 =>
    obtain ⟨f, _, hf, rfl, rfl⟩ := h
    exact encodeChar_charOf_two (by omega) (Band.contains_iff.mpr hf)
  case case4 | case5 | case6 =>
    obtain ⟨f, _, hf, ⟨g, _, hg, rfl, rfl⟩, rfl⟩ := h
    apply encodeChar_charOf_three <;> simp [Band.contains_iff, Band.tail] at * <;> omega
  case case7 | case8 | case9 =>
    obtain ⟨f, _, hf, ⟨g, _, hg, ⟨k, _, hk, rfl, rfl⟩, rfl⟩, rfl⟩ := h
    apply encodeChar_charOf_four <;> simp [Band.contains_iff, Band.tail] at * <;> omega

theorem wellFormed_encode (t : Text) : WellFormed (encode t) := by
  induction t
  case nil         => exact .nil
  case cons c t hi =>
    have ⟨b, fs, he, hc, _⟩ := exists_isCharacter_encodeChar c
    have ha : encode (c :: t) = b :: (fs ++ encode t) := by simp [encode, he]
    exact ha ▸ .cons hc hi

theorem WellFormed.encode_decode (h : WellFormed bs) : encode (decode bs) = bs := by
  induction h
  case nil          => simp [decode_nil, encode_nil]
  case cons hc _ hi =>
    rw [decode_of_isCharacter _ hc, encode, List.flatMap_cons, encodeChar_charOf hc]
    exact congrArg _ hi

theorem wellFormed_iff_exists_encode : WellFormed bs ↔ ∃ t, encode t = bs where
  mp h  := ⟨decode bs, h.encode_decode⟩
  mpr h := h.elim fun t ht => ht ▸ wellFormed_encode t

-- What is not well-formed is not restored: nothing else is written like its replacement.
theorem encode_decode_iff : encode (decode bs) = bs ↔ WellFormed bs where
  mp h  := h ▸ wellFormed_encode _
  mpr h := h.encode_decode

end FrameFilter.Utf8
