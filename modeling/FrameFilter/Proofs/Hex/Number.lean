import Mathlib.Data.List.DropRight
import Mathlib.Data.Nat.Digits.Defs
import FrameFilter.Proofs.Hex.Pairs

namespace FrameFilter.Hex

-- The characters that are skipped in front of a number: tabs, line ends and spaces, and the byte
-- order mark.
def spaces : Text := [
    '\t', '\n', '\x0b', '\x0c', '\r', ' ', '\u00a0', '\u1680', '\u2000', '\u2001', '\u2002',
    '\u2003', '\u2004', '\u2005', '\u2006', '\u2007', '\u2008', '\u2009', '\u200a', '\u2028',
    '\u2029', '\u202f', '\u205f', '\u3000', '\ufeff']

def signs : List Text :=
  ["-".toList, "+".toList]

def radixMarks : List Text :=
  ["0x".toList, "0X".toList]

-- What a digit of either case is worth, and what digits are worth by their positions.
def worth (c : Char) : Nat :=
  "0123456789abcdef".toList.idxOf c.toLower

def positional (ds : Text) : Nat :=
  Nat.ofDigits 16 <| ds.reverse.map worth

-- A beginning of a text that has a property, such that no longer beginning has it.
structure Longest (P : Text → Prop) (taken left : Text) : Prop where
  has : P taken
  max : ∀ s, P s → s <+: taken ++ left → s.length ≤ taken.length

-- A text in which a number is looked for. The last part has nothing to do with the number, and any
-- part may be empty.
structure Parts where
  padding : Text
  sign    : Text
  mark    : Text
  digits  : Text
  rest    : Text

namespace Parts

-- From left to right, each part goes as far as it can.
structure Of (t : Text) (p : Parts) : Prop where
  text    : t = p.padding ++ (p.sign ++ (p.mark ++ (p.digits ++ p.rest)))
  padding : Longest (∀ c ∈ ·, c ∈ spaces) p.padding (p.sign ++ (p.mark ++ (p.digits ++ p.rest)))
  sign    : Longest (· ∈ [] :: signs) p.sign (p.mark ++ (p.digits ++ p.rest))
  mark    : Longest (· ∈ [] :: radixMarks) p.mark (p.digits ++ p.rest)
  digits  : Longest (∀ c ∈ ·, c ∈ Hex.digits) p.digits p.rest

-- The number that the parts stand for, of whatever size.
def number (p : Parts) : Int :=
  if p.sign = "-".toList then -positional p.digits else positional p.digits

end Parts

theorem isPadding_iff_mem_spaces : isPadding c ↔ c ∈ spaces := by
  simp only [isPadding, CharRange.anyContains_iff, paddings, List.mem_cons, CharRange.contains_iff,
    spaces, List.not_mem_nil, or_false, exists_eq_or_imp, exists_eq_left, ← Char.toNat_inj,
    Char.reduceToNat]
  omega

theorem Longest.unique (h : Longest P as bs) (h' : Longest P cs ds) (he : as ++ bs = cs ++ ds) :
    as = cs ∧ bs = ds := by
  have hac := h'.max as h.has <| he ▸ List.prefix_append as bs
  have hca := h.max cs h'.has <| he ▸ List.prefix_append cs ds
  exact List.append_inj he <| Nat.le_antisymm hac hca

theorem longest_of_head {Q : Char → Prop} (ha : ∀ c ∈ as, Q c) (hb : ∀ c ∈ bs.head?, ¬Q c) :
    Longest (∀ c ∈ ·, Q c) as bs where
  has := ha
  max s hs hp := by
    by_contra hl
    obtain ⟨u, rfl⟩ := List.prefix_of_prefix_length_le (List.prefix_append as bs) hp (by omega)
    have hu := (List.prefix_append_right_inj as).mp hp
    cases u
    case nil       => simp at hl
    case cons c u =>
      obtain ⟨v, rfl⟩ := hu
      exact hb c rfl <| hs c <| by simp

theorem longest_takeWhile {p : Char → Bool} {Q : Char → Prop} (h : ∀ {c}, p c ↔ Q c) (t : Text) :
    Longest (∀ c ∈ ·, Q c) (t.takeWhile p) (t.dropWhile p) := by
  apply longest_of_head
  case ha => exact fun c hc => h.mp <| List.all_eq_true.mp List.all_takeWhile c hc
  case hb =>
    intro c hc hq
    have hn := List.head?_dropWhile_not p t
    rw [Option.mem_def.mp hc] at hn
    exact Bool.noConfusion <| hn.symm.trans <| h.mpr hq

-- Nothing is taken if the text starts with none of the beginnings.
theorem longest_nil {ss : List Text} (h : ∀ s ∈ ss, ¬s <+: t) : Longest (· ∈ [] :: ss) [] t where
  has := List.mem_cons_self
  max s hs hp := by
    cases List.mem_cons.mp hs
    case inl hs => simp [hs]
    case inr hs => exact absurd hp <| h s hs

-- Where the beginnings are of one length, one is as long as any other.
theorem longest_of_mem {ss : List Text} (h : s ∈ ss) (hl : ∀ s' ∈ ss, s'.length = s.length)
    (t : Text) : Longest (· ∈ [] :: ss) s t where
  has := List.mem_cons_of_mem _ h
  max s' hs _ := by
    cases List.mem_cons.mp hs
    case inl hs => simp [hs]
    case inr hs => exact Nat.le_of_eq <| hl s' hs

theorem exists_longest_sign (t : Text) : ∃ s, t = s ++ (takeSign t).2 ∧
    Longest (· ∈ [] :: signs) s (takeSign t).2 ∧ (takeSign t).1 = decide (s = "-".toList) := by
  fun_cases takeSign t
  case case1 t     => exact ⟨"-".toList, rfl, longest_of_mem (by decide) (by decide) t, rfl⟩
  case case2 t     => exact ⟨"+".toList, rfl, longest_of_mem (by decide) (by decide) t, rfl⟩
  case case3 hm hp =>
    refine ⟨[], rfl, longest_nil ?_, rfl⟩
    simp only [signs, List.mem_cons, List.not_mem_nil, or_false, forall_eq_or_imp, forall_eq]
    exact ⟨fun ⟨u, hu⟩ => hm u hu.symm, fun ⟨u, hu⟩ => hp u hu.symm⟩

theorem exists_longest_mark (t : Text) : ∃ m, t = m ++ dropRadixMark t ∧
    Longest (· ∈ [] :: radixMarks) m (dropRadixMark t) := by
  fun_cases dropRadixMark t
  case case1 t     => exact ⟨"0x".toList, rfl, longest_of_mem (by decide) (by decide) t⟩
  case case2 t     => exact ⟨"0X".toList, rfl, longest_of_mem (by decide) (by decide) t⟩
  case case3 hm hp =>
    refine ⟨[], rfl, longest_nil ?_⟩
    simp only [radixMarks, List.mem_cons, List.not_mem_nil, or_false, forall_eq_or_imp, forall_eq]
    exact ⟨fun ⟨u, hu⟩ => hm u hu.symm, fun ⟨u, hu⟩ => hp u hu.symm⟩

namespace Parts

theorem Of.unique (h : Of t p) (h' : Of t q) : p = q := by
  have ⟨hp, hp'⟩ := h.padding.unique h'.padding <| h.text.symm.trans h'.text
  have ⟨hs, hs'⟩ := h.sign.unique h'.sign hp'
  have ⟨hm, hm'⟩ := h.mark.unique h'.mark hs'
  have ⟨hd, hd'⟩ := h.digits.unique h'.digits hm'
  cases p
  cases q
  simp_all

end Parts

-- Reading goes through the parts one after the other.
theorem exists_parts (t : Text) : ∃ p : Parts, p.Of t ∧ pairValue t =
    let n := UInt8.ofNat <| value <| p.digits.filterMap digit?
    if p.sign = "-".toList then -n else n := by
  have ⟨s, hst, hs, hn⟩ := exists_longest_sign <| t.dropWhile isPadding
  have ⟨m, hmt, hm⟩ := exists_longest_mark (takeSign <| t.dropWhile isPadding).2
  let afterMark := dropRadixMark (takeSign <| t.dropWhile isPadding).2
  have hd : afterMark.takeWhile isDigit ++ afterMark.dropWhile isDigit = afterMark :=
    List.takeWhile_append_dropWhile
  let p : Parts := {
    padding := t.takeWhile isPadding
    sign    := s
    mark    := m
    digits  := afterMark.takeWhile isDigit
    rest    := afterMark.dropWhile isDigit }
  refine ⟨p, ?_, ?_⟩
  case refine_1 =>
    simp only [p]
    constructor
    all_goals simp only [hd, afterMark, ← hmt, ← hst, List.takeWhile_append_dropWhile]
    case padding => exact longest_takeWhile isPadding_iff_mem_spaces t
    case sign    => exact hs
    case mark    => exact hm
    case digits  => exact longest_takeWhile isDigit_iff_mem_digits afterMark
  case refine_2 => simp [pairValue, p, hn, afterMark]

theorem digit?_eq_worth (h : c ∈ digits) : digit? c = some (worth c) ∧ worth c < 16 := by
  have hd : digits.all fun c => digit? c = some (worth c) ∧ worth c < 16 := by decide
  exact of_decide_eq_true <| List.all_eq_true.mp hd c h

theorem value_eq_positional {ds : Text} (h : ∀ c ∈ ds, c ∈ digits) :
    value (ds.filterMap digit?) = positional ds := by
  have hm : ds.filterMap digit? = ds.map worth := by
    induction ds
    case nil => rfl
    case cons c ds hi =>
      have ⟨hc, hds⟩ := List.forall_mem_cons.mp h
      rw [List.filterMap_cons_some (digit?_eq_worth hc).left, hi hds, List.map_cons]
  rw [hm, value, positional, Nat.ofDigits_eq_foldr, List.map_reverse, List.foldr_reverse]
  simp only [Nat.cast_id, Nat.add_comm]

-- All digits but the last two are worth multiples of a byte.
theorem positional_mod (h : ∀ c ∈ ds, c ∈ digits) :
    positional ds % 256 = positional (ds.rtake 2) := by
  have hw : ∀ n ∈ ds.reverse.map worth, n < 16 := by
    simpa using fun c hc => (digit?_eq_worth <| h c hc).right
  have ht : (ds.rtake 2).reverse.map worth = (ds.reverse.map worth).take 2 := by
    rw [List.rtake_eq_reverse_take_reverse, List.reverse_reverse, List.map_take]
  have hp := Nat.ofDigits_mod_pow_eq_ofDigits_take 2 (Nat.zero_lt_succ 15) _ hw
  rwa [← ht] at hp

namespace Parts

theorem Of.toNat_pairValue (h : Of t p) : ((pairValue t).toNat : Int) = p.number % 256 := by
  have ⟨q, hq, hv⟩ := exists_parts t
  obtain rfl := h.unique hq
  rw [hv, number, value_eq_positional h.digits.has]
  split
  case isTrue  =>
    have hn := UInt8.toNat_neg <| UInt8.ofNat <| positional p.digits
    simp only [UInt8.size, UInt8.toNat_ofNat'] at hn ⊢
    omega
  case isFalse => simp

theorem Of.pairValue_congr (h : Of t p) (h' : Of u q)
    (hs : p.sign = "-".toList ↔ q.sign = "-".toList) (hd : p.digits.rtake 2 = q.digits.rtake 2) :
    pairValue t = pairValue u := by
  have hm : positional p.digits % 256 = positional q.digits % 256 := by
    rw [positional_mod h.digits.has, positional_mod h'.digits.has, hd]
  have hn : p.number % 256 = q.number % 256 := by
    simp only [number, hs]
    split <;> omega
  rw [← h.toNat_pairValue, ← h'.toNat_pairValue] at hn
  exact UInt8.toNat_inj.mp <| Int.ofNat.inj hn

end Parts

-- A text is worth the number that its parts stand for, wrapped into an octet. Each text has its
-- parts in one way only. Of a long number only the sign and the last two digits count, and nothing
-- that comes after the digits does.
theorem pairValue_eq_number :
    (∀ t, ∃! p : Parts, p.Of t) ∧
    (∀ t (p : Parts), p.Of t →
      (p.digits = [] → pairValue t = 0) ∧ ((pairValue t).toNat : Int) = p.number % 256) ∧
    (∀ t u (p q : Parts), p.Of t → q.Of u → (p.sign = "-".toList ↔ q.sign = "-".toList) →
      p.digits.rtake 2 = q.digits.rtake 2 → pairValue t = pairValue u) ∧
    ∀ line, ∃ bs, read .lenient line = .ok bs ∧ bs.length = line.length / 2 ∧
      ∀ i (p : Parts), p.Of ((line.drop (2 * i)).take 2) →
        ∀ b ∈ bs[i]?, (b.toNat : Int) = p.number % 256 := by
  refine ⟨fun t => ?_, fun t p h => ⟨fun hd => ?_, h.toNat_pairValue⟩,
    fun _ _ _ _ h h' => h.pairValue_congr h',
    fun line => ⟨_, read_lenient line, length_pairwise line, fun i p h b hb => ?_⟩⟩
  case refine_1 =>
    have ⟨p, h, _⟩ := exists_parts t
    exact ⟨p, h, fun _ h' => h'.unique h⟩
  case refine_2 =>
    have ht := h.toNat_pairValue
    simp only [Parts.number, hd, positional] at ht
    simpa [← UInt8.toNat_inj] using ht
  case refine_3 =>
    have hi := (List.getElem?_eq_some_iff.mp hb).1
    rw [length_pairwise] at hi
    have hp := (getElem?_pairwise hi).symm.trans hb
    rw [← Option.some.inj hp]
    exact h.toNat_pairValue

-- In the first text all parts come up, and the number is below zero and too long. The mark that is
-- left there is no second one. The other text has only what counts.
theorem pairValue_eq_number_negative :
    let p : Parts := {
      padding := "\u3000\t".toList
      sign    := "-".toList
      mark    := "0X".toList
      digits  := "1F20".toList
      rest    := "x5".toList }
    let q : Parts := { p with padding := [], mark := [], digits := "20".toList, rest := [] }
    p.Of "\u3000\t-0X1F20x5".toList ∧ p.number = -0x1f20 ∧ q.Of "-20".toList ∧
      pairValue "\u3000\t-0X1F20x5".toList = 0xe0 ∧
      pairValue "\u3000\t-0X1F20x5".toList = pairValue "-20".toList := by
  intro p q
  have hp : p.Of "\u3000\t-0X1F20x5".toList := {
    text    := rfl
    padding := longest_takeWhile isPadding_iff_mem_spaces "\u3000\t-0X1F20x5".toList
    sign    := longest_of_mem (by decide) (by decide) _
    mark    := longest_of_mem (by decide) (by decide) _
    digits  := longest_takeWhile isDigit_iff_mem_digits "1F20x5".toList }
  have hq : q.Of "-20".toList := {
    text    := rfl
    padding := longest_takeWhile isPadding_iff_mem_spaces "-20".toList
    sign    := longest_of_mem (by decide) (by decide) _
    mark    := longest_nil (by decide)
    digits  := longest_takeWhile isDigit_iff_mem_digits "20".toList }
  have hn : p.number = -0x1f20 := by decide
  have ⟨_, hv, hc, _⟩ := pairValue_eq_number
  have ht := (hv _ p hp).right
  rw [hn] at ht
  exact ⟨hp, hn, hq, UInt8.toNat_inj.mp <| Int.ofNat.inj ht, hc _ _ p q hp hq Iff.rfl rfl⟩

end FrameFilter.Hex
