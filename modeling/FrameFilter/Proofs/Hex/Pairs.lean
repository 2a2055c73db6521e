import FrameFilter.Proofs.Hex.Line

namespace FrameFilter.Hex

variable {c d : Char}

theorem takeSign_cons (hm : c ≠ '-') (hp : c ≠ '+') (t : Text) :
    takeSign (c :: t) = (false, c :: t) := by
  rw [takeSign.eq_def]
  split <;> simp_all

theorem dropRadixMark_pair (hx : d ≠ 'x') (hx' : d ≠ 'X') : dropRadixMark [c, d] = [c, d] := by
  rw [dropRadixMark.eq_def]
  split <;> simp_all

theorem not_isPadding_of_isDigit (h : isDigit c) : isPadding c = false := by
  have hd : digits.all (!isPadding ·) := by decide
  simpa using List.all_eq_true.mp hd c <| isDigit_iff_mem_digits.mp h

-- Nothing that can stand before or between the digits of a number is a digit itself, except the
-- zero of a radix mark, which is none without its letter.
theorem pairValue_of_isDigit (hc : isDigit c) (hd : isDigit d) :
    pairValue [c, d] = UInt8.ofNat (value ([c, d].filterMap digit?)) := by
  have hne {e c : Char} (hc : isDigit c) (he : isDigit e = false) : c ≠ e := by
    rintro rfl
    exact Bool.noConfusion <| hc.symm.trans he
  have hp : [c, d].dropWhile isPadding = [c, d] := by
    rw [List.dropWhile_cons_of_neg (by simp [not_isPadding_of_isDigit hc])]
  have hs : takeSign [c, d] = (false, [c, d]) :=
    takeSign_cons (hne hc (by decide)) (hne hc (by decide)) [d]
  have hr : dropRadixMark [c, d] = [c, d] :=
    dropRadixMark_pair (hne hd (by decide)) (hne hd (by decide))
  have ht : [c, d].takeWhile isDigit = [c, d] := by simp [hc, hd]
  simp only [pairValue, hp, hs, hr, ht]
  rfl

-- On digits the two ways to read a text are one.
theorem clean_eq_pairwise : {t : Text} → (∀ c ∈ t, isDigit c) → clean t = pairwise t
  | [], _          => rfl
  | [_], _         => rfl
  | c :: d :: t, h => by
    have ⟨hc, hd, ht⟩ : isDigit c ∧ isDigit d ∧ ∀ c ∈ t, isDigit c := by simpa using h
    rw [clean, pairwise, pairValue_of_isDigit hc hd, clean_eq_pairwise ht]

theorem length_pairwise : (t : Text) → (pairwise t).length = t.length / 2
  | []          => rfl
  | [_]         => (Nat.div_eq_of_lt Nat.one_lt_two).symm
  | c :: d :: t => by
    rw [pairwise, List.length_cons, List.length_cons, List.length_cons, length_pairwise t]
    omega

theorem getElem?_pairwise : {t : Text} → {i : Nat} → i < t.length / 2 →
    (pairwise t)[i]? = some (pairValue ((t.drop (2 * i)).take 2))
  | [], _, h              => absurd h (Nat.not_lt_zero _)
  | [_], _, h             => by simp at h
  | _ :: _ :: _, 0, _     => rfl
  | c :: d :: t, i + 1, h => by
    have hi : i < t.length / 2 := by simp only [List.length_cons] at h; omega
    have hd : (c :: d :: t).drop (2 * (i + 1)) = t.drop (2 * i) := rfl
    rw [pairwise, List.getElem?_cons_succ, hd, getElem?_pairwise hi]

theorem pairwise_append : {a : Text} → a.length % 2 = 0 → (b : Text) →
    pairwise (a ++ b) = pairwise a ++ pairwise b
  | [], _, _          => rfl
  | c :: d :: a, h, b => by
    have ha : a.length % 2 = 0 := by simp only [List.length_cons] at h; omega
    exact congrArg (pairValue [c, d] :: ·) <| pairwise_append ha b

theorem length_evenPart_mod_two (t : Text) : (evenPart t).length % 2 = 0 := by
  simp only [evenPart, List.length_take]
  omega

-- A character without a partner is worth nothing.
theorem pairwise_evenPart (t : Text) : pairwise (evenPart t) = pairwise t := by
  have hr : (pairwise (t.drop (t.length - t.length % 2))).length = 0 := by
    rw [length_pairwise, List.length_drop]
    omega
  have ht : evenPart t ++ t.drop (t.length - t.length % 2) = t := List.take_append_drop _ t
  have hp := pairwise_append (length_evenPart_mod_two t) (t.drop (t.length - t.length % 2))
  rw [ht, List.eq_nil_of_length_eq_zero hr, List.append_nil] at hp
  exact hp.symm

-- Lenient reading goes by pairs, whichever way it takes.
theorem read_lenient (t : Text) : read .lenient t = .ok (pairwise t) := by
  rw [← pairwise_evenPart]
  cases h : (evenPart t).find? (!isDigit ·)
  case none   => simp [read, h, clean_eq_pairwise (by simpa using h)]
  case some c => simp [read, h]

-- Each pair of characters stands for an octet of its own, whether or not the line is hex, so that
-- a line can be read in parts, and what one pair says is not disturbed by the others.
theorem read_lenient_eq_pairs :
    (∀ t, ∃ bs, read .lenient t = .ok bs ∧ bs.length = t.length / 2 ∧
        ∀ i < t.length / 2, bs[i]? = some (pairValue ((t.drop (2 * i)).take 2))) ∧
      (∀ t, (∀ c ∈ evenPart t, isDigit c) → clean (evenPart t) = pairwise (evenPart t)) ∧
      ∀ a b, a.length % 2 = 0 →
        ∃ as bs, read .lenient a = .ok as ∧ read .lenient b = .ok bs ∧
          read .lenient (a ++ b) = .ok (as ++ bs) ∧
          ∀ c d, read .lenient (a ++ c :: d :: b) = .ok (as ++ pairValue [c, d] :: bs) := by
  refine ⟨fun t => ⟨_, read_lenient t, length_pairwise t, fun i hi => getElem?_pairwise hi⟩,
    fun t => clean_eq_pairwise,
    fun a b h => ⟨_, _, read_lenient a, read_lenient b, ?parts, fun c d => ?inserted⟩⟩
  case parts    => rw [read_lenient, pairwise_append h]
  case inserted => rw [read_lenient, pairwise_append h]; rfl

-- The first part alone is hex. The line is not, and a sign and a radix mark come up in it.
theorem read_lenient_eq_pairs_mixed :
    read .lenient "c3 9-f4".toList = .ok [0xc3, 0x09, 0xf1] ∧
      read .lenient "c30x 9-f4".toList = .ok [0xc3, 0x00, 0x09, 0xf1] := by
  have ⟨as, bs, ha, hb, h, hi⟩ := read_lenient_eq_pairs.right.right "c3".toList " 9-f4".toList rfl
  have has : as = [0xc3] := Except.ok.inj <| ha.symm.trans rfl
  have hbs : bs = [0x09, 0xf1] := Except.ok.inj <| hb.symm.trans rfl
  subst has hbs
  exact ⟨h, hi '0' 'x'⟩

end FrameFilter.Hex
