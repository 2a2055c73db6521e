import FrameFilter.Proofs.Utf8.WellFormed

namespace FrameFilter

-- The text before the first occurrence of a separator is the first piece.
theorem Text.cut_append_cons {p : Char → Bool} (h : ∀ d ∈ s, p d = false) (hc : p c) (t : Text) :
    cut p (s ++ c :: t) = (s, pieces p t) := by
  induction s
  case nil         => simp [cut, pieces, hc]
  case cons d s hi => simp_all [cut]

namespace Utf8

variable {b c : UInt8}

theorem toNat_ofNat_of_lt (h : b < 0x80) : (Char.ofNat b.toNat).toNat = b.toNat := by
  have hb : b.toNat < 0x80 := UInt8.lt_iff_toNat_lt.mp h
  have hv : b.toNat.isValidChar := .inl (by omega)
  rw [Char.ofNat, dif_pos hv]
  rfl

theorem ofNat_ne_replacement (h : b < 0x80) : Char.ofNat b.toNat ≠ replacement := by
  have hb : b.toNat < 0x80 := UInt8.lt_iff_toNat_lt.mp h
  have hr : replacement.toNat = 0xfffd := rfl
  intro he
  have hn := toNat_ofNat_of_lt h
  rw [he] at hn
  omega

-- An ASCII character has no other form than the octet.
theorem eq_of_charOf_eq (hb : b < 0x80) (hc : IsCharacter a fs)
    (h : charOf a fs = Char.ofNat b.toNat) : a = b := by
  have hs : charOf b [] = Char.ofNat b.toNat := by simp [charOf, leadBits, hb]
  have he := encodeChar_charOf hc
  rw [h, ← hs, encodeChar_charOf_one (UInt8.lt_iff_toNat_lt.mp hb)] at he
  exact (List.cons.inj he).left.symm

theorem fits_take_of_reach_eq (h : reach rs bs = rs.length) : Fits rs (bs.take rs.length) := by
  induction rs generalizing bs
  case nil          => exact .nil
  case cons r rs hi =>
    cases bs
    case nil => contradiction
    case cons b bs =>
      rw [reach] at h
      split at h
      case isTrue hr  => exact .cons hr <| hi <| Nat.succ.inj h
      case isFalse hr => contradiction

-- No ASCII character comes up in a text that has not been there as an octet.
theorem mem_of_mem_decode (hb : b < 0x80) (h : Char.ofNat b.toNat ∈ decode bs) : b ∈ bs := by
  fun_induction decode bs
  case case1 => contradiction
  case case2 a bs hf hi =>
    cases List.mem_cons.mp h
    case inl he => exact absurd he <| ofNat_ne_replacement hb
    case inr hm => exact List.mem_cons_of_mem _ <| hi hm
  case case3 a bs rs hf n hi =>
    cases List.mem_cons.mp h
    case inr hm => exact List.mem_cons_of_mem _ <| List.mem_of_mem_drop <| hi hm
    case inl he =>
      split at he
      case isFalse => exact absurd he <| ofNat_ne_replacement hb
      case isTrue hn =>
        have hc : IsCharacter a (bs.take n) := ⟨rs, hf, hn ▸ fits_take_of_reach_eq hn⟩
        exact eq_of_charOf_eq hb hc he.symm ▸ List.mem_cons_self

namespace Decoder

variable {d d' : Decoder}

theorem feed_idle_cons_of_lt (hc : c < 0x80) (bs : Octets) :
    idle.feed (c :: bs) = (Char.ofNat c.toNat :: (idle.feed bs).1, (idle.feed bs).2) := by
  simp [feed_idle_cons, start, followers_of_lt hc, charOf, leadBits, hc]

-- At an ASCII octet a decoder gives out what it holds and goes on as if it were new.
theorem Sound.feed_append_cons_of_lt (hd : d.Sound) (hc : c < 0x80) (as bs : Octets) :
    d.feed (as ++ c :: bs) =
      (decode (d.held ++ as) ++ Char.ofNat c.toNat :: (Decoder.idle.feed bs).1,
        (Decoder.idle.feed bs).2) := by
  have hs : (d.feed as).2.Sound := hd.feed
  rw [feed_append, hs.feed_cons_of_lt hc, feed_idle_cons_of_lt hc, ← hd.feed_append_release,
    List.append_assoc]

end Decoder

-- An ASCII octet stands for itself, whatever is before it and after it.
theorem decode_append_cons_of_lt (hc : c < 0x80) (as bs : Octets) :
    decode (as ++ c :: bs) = decode as ++ Char.ofNat c.toNat :: decode bs := by
  have hs := Decoder.Sound.idle.feed_append_cons_of_lt hc as bs
  have hb := Decoder.Sound.idle.feed_append_release bs
  have hr := Decoder.Sound.idle.feed_append_release (as ++ c :: bs)
  rw [hs, List.append_assoc, List.cons_append, hb] at hr
  exact hr.symm

-- So the pieces between the occurrences of an ASCII character are those between its octets.
theorem pieces_decode (hc : c < 0x80) (bs : Octets) :
    Text.pieces (· = Char.ofNat c.toNat) (decode bs) = (bs.splitOn c).map decode := by
  by_cases hm : c ∈ bs
  case pos =>
    obtain ⟨as, rest, rfl, _⟩ := List.eq_append_cons_of_mem hm
    have hs : (as ++ c :: rest).splitOn c = as.splitOn c ++ rest.splitOn c :=
      List.splitOnP_append_cons as rest (beq_self_eq_true c)
    rw [decode_append_cons_of_lt hc, Text.pieces_append_cons (decide_eq_true rfl), hs,
      List.map_append, pieces_decode hc as, pieces_decode hc rest]
  case neg =>
    have ht : ∀ d ∈ decode bs, decide (d = Char.ofNat c.toNat) = false := fun d hd =>
      decide_eq_false fun he => hm <| mem_of_mem_decode hc <| he ▸ hd
    have hs : ∀ b ∈ bs, (b == c) = false := fun b hb => beq_false_of_ne fun he => hm <| he ▸ hb
    rw [Text.pieces, Text.cut_of_forall_not ht, List.splitOn, List.splitOnP_eq_singleton hs]
    rfl
termination_by bs.length

namespace Decoder

variable {d d' : Decoder}

-- What is held back has no ASCII octet in it.
theorem Sound.not_mem_held (hd : d.Sound) (hc : c < 0x80) : c ∉ d.held := by
  intro hm
  have ⟨as, bs, he⟩ := List.append_of_mem hm
  have hr : Char.ofNat c.toNat ∈ d.release := by
    rw [← hd.decode_held, he, decode_append_cons_of_lt hc]
    exact List.mem_append_right _ List.mem_cons_self
  cases d
  case idle      => contradiction
  case begun     => exact ofNat_ne_replacement hc <| List.mem_singleton.mp hr
  case surrogate =>
    simp only [release, List.mem_cons, List.not_mem_nil, or_false, or_self] at hr
    exact ofNat_ne_replacement hc hr

theorem Sound.forall_decode_held_append_ne (hd : d.Sound) (hc : c < 0x80) (h : c ∉ bs) :
    ∀ a ∈ decode (d.held ++ bs), decide (a = Char.ofNat c.toNat) = false := by
  intro a ha
  apply decide_eq_false
  intro he
  cases List.mem_append.mp <| mem_of_mem_decode hc <| he ▸ ha
  case inl hh => exact hd.not_mem_held hc hh
  case inr hb => exact h hb

-- What is held back makes a difference only up to the first occurrence of an ASCII character.
theorem Sound.cut_feed (hd : d.Sound) (hd' : d'.Sound) (hc : c < 0x80) (bs : Octets) :
    (Text.cut (· = Char.ofNat c.toNat) (d.feed bs).1).2 =
      (Text.cut (· = Char.ofNat c.toNat) (d'.feed bs).1).2 := by
  by_cases hm : c ∈ bs
  case pos =>
    obtain ⟨as, rest, rfl, hn⟩ := List.eq_append_cons_of_mem hm
    have h := hd.forall_decode_held_append_ne hc hn
    have h' := hd'.forall_decode_held_append_ne hc hn
    rw [hd.feed_append_cons_of_lt hc, hd'.feed_append_cons_of_lt hc,
      Text.cut_append_cons h (decide_eq_true rfl), Text.cut_append_cons h' (decide_eq_true rfl)]
  case neg =>
    have h := hd.forall_decode_held_append_ne hc hm
    have h' := hd'.forall_decode_held_append_ne hc hm
    rw [← hd.feed_append_release] at h
    rw [← hd'.feed_append_release] at h'
    rw [Text.cut_of_forall_not fun a ha => h a <| List.mem_append_left _ ha,
      Text.cut_of_forall_not fun a ha => h' a <| List.mem_append_left _ ha]

theorem Sound.feed_eq_of_mem (hd : d.Sound) (hd' : d'.Sound) (hc : c < 0x80) (hm : c ∈ bs) :
    (d.feed bs).2 = (d'.feed bs).2 := by
  obtain ⟨as, rest, rfl⟩ := List.append_of_mem hm
  rw [hd.feed_append_cons_of_lt hc, hd'.feed_append_cons_of_lt hc]

end Decoder
end Utf8
end FrameFilter
