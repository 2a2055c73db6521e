import Mathlib.Data.List.Forall2
import Mathlib.Tactic.SplitIfs
import FrameFilter.Utf8.Decode

namespace FrameFilter.Utf8

theorem Band.contains_iff {r : Band} :
    r.contains b ↔ r.first.toNat ≤ b.toNat ∧ b.toNat ≤ r.last.toNat := by
  simp [contains, UInt8.le_iff_toNat_le]

theorem Band.tail_contains_iff : tail.contains b ↔ 0x80 ≤ b.toNat ∧ b.toNat ≤ 0xbf :=
  contains_iff

-- Each octet lies in the band at its place, and there are as many octets as bands.
abbrev Fits (rs : List Band) (bs : Octets) : Prop :=
  List.Forall₂ (fun r b => r.contains b) rs bs

-- A first octet with all the octets that have to follow it.
def IsCharacter (b : UInt8) (fs : Octets) : Prop :=
  ∃ rs, followers b = some rs ∧ Fits rs fs

theorem reach_append (later : List Band) (bs : Octets) (h : Fits rs fs) :
    reach (rs ++ later) (fs ++ bs) = fs.length + reach later bs := by
  induction h
  case nil             => simp
  case cons hc _ hi => simp [reach, hc, hi]; omega

theorem reach_eq_zero (h : ∀ b ∈ bs.head?, r.contains b = false) : reach (r :: rs) bs = 0 := by
  cases bs
  case nil  => rfl
  case cons => simp_all [reach]

theorem decode_cons_of_none (h : followers b = none) :
    decode (b :: bs) = replacement :: decode bs := by
  rw [decode, h]

theorem decode_of_isCharacter (bs : Octets) (h : IsCharacter b fs) :
    decode (b :: (fs ++ bs)) = charOf b fs :: decode bs := by
  have ⟨rs, hf, h⟩ := h
  have hr := reach_append [] bs h
  simp only [List.append_nil, reach, Nat.add_zero] at hr
  simp [decode, hf, hr, h.length_eq]

-- A first octet whose followers break off is replaced together with the followers that it has.
theorem decode_of_cut (bs : Octets) (hf : followers b = some (done ++ r :: later))
    (h : Fits done fs) (hn : ∀ b ∈ bs.head?, r.contains b = false) :
    decode (b :: (fs ++ bs)) = replacement :: decode bs := by
  have hr := reach_append (r :: later) bs h
  rw [reach_eq_zero hn] at hr
  simp [decode, hf, hr, h.length_eq]

theorem isCharacter_one (h : b.toNat < 0x80) : IsCharacter b [] :=
  ⟨[], followers_of_lt <| UInt8.lt_iff_toNat_lt.mpr h, .nil⟩

theorem isCharacter_two (h : 0xc2 ≤ b.toNat ∧ b.toNat < 0xe0) (hf : Band.tail.contains f) :
    IsCharacter b [f] := by
  refine ⟨[.tail], ?_, .cons hf .nil⟩
  fun_cases followers b
  all_goals simp only [UInt8.lt_iff_toNat_lt, ← UInt8.toNat_inj, UInt8.reduceToNat] at *
  all_goals omega

-- The second octet of three excludes overlong forms after E0 and surrogates after ED.
theorem isCharacter_three (h : 0xe0 ≤ b.toNat ∧ b.toNat < 0xf0) (hf : Band.tail.contains f)
    (hg : Band.tail.contains g) (hl : b.toNat = 0xe0 → 0xa0 ≤ f.toNat)
    (hs : b.toNat = 0xed → f.toNat < 0xa0) : IsCharacter b [f, g] := by
  simp only [Band.tail_contains_iff] at hf
  unfold IsCharacter
  fun_cases followers b
  all_goals simp only [UInt8.lt_iff_toNat_lt, ← UInt8.toNat_inj, UInt8.reduceToNat] at *
  case case4 | case5 | case6 =>
    refine ⟨_, rfl, .cons ?_ <| .cons hg .nil⟩
    simp [Band.contains_iff, Band.tail]
    omega
  all_goals omega

-- The second octet of four excludes overlong forms after F0 and values above 10FFFF after F4.
theorem isCharacter_four (h : 0xf0 ≤ b.toNat ∧ b.toNat < 0xf5) (hf : Band.tail.contains f)
    (hg : Band.tail.contains g) (hk : Band.tail.contains k) (hl : b.toNat = 0xf0 → 0x90 ≤ f.toNat)
    (hs : b.toNat = 0xf4 → f.toNat < 0x90) : IsCharacter b [f, g, k] := by
  simp only [Band.tail_contains_iff] at hf
  unfold IsCharacter
  fun_cases followers b
  all_goals simp only [UInt8.lt_iff_toNat_lt, ← UInt8.toNat_inj, UInt8.reduceToNat] at *
  case case7 | case8 | case9 =>
    refine ⟨_, rfl, .cons ?_ <| .cons hg <| .cons hk .nil⟩
    simp [Band.contains_iff, Band.tail]
    omega
  all_goals omega

theorem toNat_lt_surrogates_or (c : Char) :
    c.toNat < 0xd800 ∨ 0xdfff < c.toNat ∧ c.toNat < 0x110000 :=
  c.valid

theorem charOf_eq (h : fs.foldl (fun n f => 0x40 * n + f.toNat % 0x40) (leadBits b) = c.toNat) :
    charOf b fs = c := by
  rw [charOf, h, Char.ofNat_toNat]

-- Every character is written as one first octet with its followers, from which it is read back.
theorem exists_isCharacter_encodeChar (c : Char) :
    ∃ b fs, String.utf8EncodeChar c = b :: fs ∧ IsCharacter b fs ∧ charOf b fs = c := by
  have hv := toNat_lt_surrogates_or c
  have hc : c.val.toNat = c.toNat := rfl
  fun_cases String.utf8EncodeChar c <;> refine ⟨_, _, rfl, ?_, charOf_eq ?_⟩
  case case1.refine_1 => exact isCharacter_one (by simp; omega)
  case case2.refine_1 =>
    apply isCharacter_two <;> simp [Band.tail_contains_iff] <;> omega
  case case3.refine_1 =>
    apply isCharacter_three <;> simp [Band.tail_contains_iff] <;> omega
  case case4.refine_1 =>
    apply isCharacter_four <;> simp [Band.tail_contains_iff] <;> omega
  all_goals
    simp [leadBits, UInt8.lt_iff_toNat_lt]
    split_ifs <;> omega

end FrameFilter.Utf8
