import FrameFilter.Frame.Basic
import FrameFilter.Proofs.Text.Numeral
import FrameFilter.Proofs.Utf8.Ascii

namespace FrameFilter.Frame.Header

open Numeral (Denotes)

-- What a header line of these tokens says. Whatever stands in the place of the timing or the
-- latency, it is absent unless it is a number.
structure Reads (ks : List Text) (h : Header) : Prop where
  type    : ∃ k, ks[0]? = some k ∧ Denotes k h.type
  tag     : ks[1]? = some h.tag
  timing  : ∀ n, h.timing = some n ↔ ∃ k, ks[2]? = some k ∧ Denotes k n
  latency : ∀ n, h.latency = some n ↔ ∃ k, ks[3]? = some k ∧ Denotes k n

-- How a header line can turn out.
inductive Outcome (line : Text) : Prop
  | few (hl : (Text.tokens line).length < 2)
    (hr : read line = .error (.fewTokens (Text.tokens line).length line))
  | bad {kind tag : Text} {others : List Text} (ht : Text.tokens line = kind :: tag :: others)
    (hn : ∀ n, ¬Denotes kind n) (hr : read line = .error (.badKind kind))
  | good {kind tag : Text} {others : List Text} (ht : Text.tokens line = kind :: tag :: others)
    (hn : Denotes kind n)
    (hr : read line = .ok {
      type    := n
      tag     := tag
      timing  := others[0]? >>= Numeral.read?
      latency := others[1]? >>= Numeral.read? })

variable {line line' : Text} {ks ks' : List Text} {h h' : Header}

theorem bind_read?_eq_some_iff {k : Option Text} :
    (k >>= Numeral.read?) = some n ↔ ∃ t, k = some t ∧ Denotes t n := by
  simp [Option.bind_eq_some_iff, Numeral.read?_eq_some_iff]

theorem Reads.unique (hr : Reads ks h) (hr' : Reads ks h') : h = h' := by
  have ht : h.type = h'.type := by
    have ⟨k, hk, hn⟩ := hr.type
    have ⟨k', hk', hn'⟩ := hr'.type
    cases hk.symm.trans hk'
    rw [← Numeral.read?_eq_some_iff] at hn hn'
    exact Option.some.inj <| hn.symm.trans hn'
  have hg : h.tag = h'.tag := Option.some.inj <| hr.tag.symm.trans hr'.tag
  have hm : h.timing = h'.timing := Option.ext fun n => (hr.timing n).trans (hr'.timing n).symm
  have hl : h.latency = h'.latency := Option.ext fun n => (hr.latency n).trans (hr'.latency n).symm
  cases h
  cases h'
  simp_all

theorem reads_cons_cons {kind : Text} (hn : Denotes kind n) (tag : Text) (others : List Text) :
    Reads (kind :: tag :: others) {
      type    := n
      tag     := tag
      timing  := others[0]? >>= Numeral.read?
      latency := others[1]? >>= Numeral.read? } where
  type    := ⟨kind, rfl, hn⟩
  tag     := rfl
  timing  := fun _ => bind_read?_eq_some_iff
  latency := fun _ => bind_read?_eq_some_iff

theorem outcome (line : Text) : Outcome line := by
  match ht : Text.tokens line with
  | []  => exact .few (by simp [ht]) (by simp [read, ht])
  | [_] => exact .few (by simp [ht]) (by simp [read, ht])
  | kind :: tag :: others =>
    cases hn : Numeral.read? kind
    case none =>
      refine .bad ht (fun n hd => ?_) (by simp [read, ht, hn])
      cases hn.symm.trans <| Numeral.read?_eq_some_iff.mpr hd
    case some => exact .good ht (Numeral.read?_eq_some_iff.mp hn) (by simp [read, ht, hn])

theorem read_eq_ok_iff : read line = .ok h ↔ Reads (Text.tokens line) h := by
  cases outcome line
  case few hl hr =>
    rw [hr]
    refine iff_of_false nofun fun hs => ?_
    exact Nat.not_le_of_lt hl (List.getElem?_eq_some_iff.mp hs.tag).1
  case bad ht hn hr =>
    rw [hr, ht]
    refine iff_of_false nofun fun hs => ?_
    have ⟨_, hk, hd⟩ := hs.type
    cases hk
    exact hn _ hd
  case good n kind tag others ht hn hr =>
    rw [hr, ht]
    have hs := reads_cons_cons hn tag others
    exact ⟨fun hr => Except.ok.inj hr ▸ hs, fun hr => congrArg Except.ok <| hs.unique hr⟩

theorem isToken_of_read (hr : read line = .ok h) : Text.IsToken h.tag :=
  Text.isToken_of_mem_tokens <| List.mem_of_getElem? (read_eq_ok_iff.mp hr).tag

-- A header has no number in it that is too long to be written.
theorem fits_of_read (hr : read line = .ok h) :
    Numeral.Fits h.type ∧ (∀ n ∈ h.timing, Numeral.Fits n) ∧ ∀ n ∈ h.latency, Numeral.Fits n := by
  have hs := read_eq_ok_iff.mp hr
  refine ⟨?type, ?timing, ?latency⟩
  case type =>
    have ⟨_, _, hd⟩ := hs.type
    exact hd.fits
  case timing =>
    intro n hn
    have ⟨_, _, hd⟩ := (hs.timing n).mp hn
    exact hd.fits
  case latency =>
    intro n hn
    have ⟨_, _, hd⟩ := (hs.latency n).mp hn
    exact hd.fits

theorem exists_read_eq_error_iff : (∃ fault, read line = .error fault) ↔
    (Text.tokens line).length < 2 ∨ ∀ k ∈ (Text.tokens line).head?, ∀ n, ¬Denotes k n := by
  cases outcome line
  case few hl hr     => exact iff_of_true ⟨_, hr⟩ (.inl hl)
  case bad ht hn hr  => exact iff_of_true ⟨_, hr⟩ (.inr (by simpa [ht] using hn))
  case good ht hn hr =>
    rw [hr, ht]
    refine iff_of_false nofun ?_
    rintro (hl | hd)
    case inl => exact Nat.not_lt_of_le (Nat.le_add_left 2 _) hl
    case inr => exact hd _ rfl _ hn

theorem two_le_length_iff (ht : ks'.take 4 = ks.take 4) : 2 ≤ ks'.length ↔ 2 ≤ ks.length := by
  have hn := congrArg List.length ht
  simp only [List.length_take] at hn
  omega

theorem exists_eq_cons_cons (hl : 2 ≤ ks.length) : ∃ k k' ks', ks = k :: k' :: ks' := by
  match ks, hl with
  | k :: k' :: ks', _ => exact ⟨k, k', ks', rfl⟩

-- A line of two tokens or more is read as any line of the same first four tokens.
theorem read_congr (ht : (Text.tokens line').take 4 = (Text.tokens line).take 4)
    (hl : 2 ≤ (Text.tokens line).length) : read line' = read line := by
  have ⟨kind, tag, others, hs⟩ := exists_eq_cons_cons hl
  have ⟨kind', tag', others', hs'⟩ := exists_eq_cons_cons <| (two_le_length_iff ht).mpr hl
  have hi (i : Nat) (h : i < 4) : (kind' :: tag' :: others')[i]? = (kind :: tag :: others)[i]? := by
    rw [← List.getElem?_take_of_lt h, ← hs', ht, hs, List.getElem?_take_of_lt h]
  have hk : kind' = kind := Option.some.inj <| hi 0 (by decide)
  have hg : tag' = tag := Option.some.inj <| hi 1 (by decide)
  have h₀ : others'[0]? = others[0]? := hi 2 (by decide)
  have h₁ : others'[1]? = others[1]? := hi 3 (by decide)
  simp only [read, hs, hs', hk, hg, h₀, h₁]

theorem toOption_read_congr (ht : (Text.tokens line').take 4 = (Text.tokens line).take 4) :
    (read line').toOption = (read line).toOption := by
  by_cases hl : 2 ≤ (Text.tokens line).length
  case pos => rw [read_congr ht hl]
  case neg =>
    have hl' : (Text.tokens line').length < 2 :=
      Nat.lt_of_not_le <| mt (two_le_length_iff ht).mp hl
    have ⟨_, hr⟩ := exists_read_eq_error_iff.mpr <| .inl <| Nat.lt_of_not_le hl
    have ⟨_, hr'⟩ := exists_read_eq_error_iff.mpr <| .inl hl'
    rw [hr, hr']
    rfl

-- A header line is read by its grammar. Nothing after the fourth token has a say, except that a
-- line that is too short is quoted when it is refused.
theorem read_iff_grammar (line : Text) :
    ∃ ks, (∀ ks', Text.Holds ks' line ↔ ks' = ks) ∧
      (∀ h, read line = .ok h ↔ Reads ks h) ∧
      (∀ h, read line = .ok h → Text.IsToken h.tag) ∧
      ((∃ fault, read line = .error fault) ↔
        ks.length < 2 ∨ ∀ k ∈ ks.head?, ∀ n, ¬Denotes k n) ∧
      ∀ line' ks', Text.Holds ks' line' → ks'.take 4 = ks.take 4 →
        (read line').toOption = (read line).toOption ∧
          (2 ≤ ks.length → read line' = read line) := by
  refine ⟨Text.tokens line, fun _ => Text.holds_iff.trans eq_comm, fun _ => read_eq_ok_iff,
    fun _ => isToken_of_read, exists_read_eq_error_iff, ?first⟩
  case first =>
    intro line' ks' hk ht
    cases hk.tokens_eq
    exact ⟨toOption_read_congr ht, read_congr ht⟩

-- Two lines differ in their blanks and after the fourth token. The first digit of their kind is
-- Arabic, and the latency is no number. The kind of the third line has one underscore too many.
theorem read_iff_grammar_spaced :
    read "\n+\u0661_0\tt 7 x".toList = .ok {
      type    := 10
      tag     := "t".toList
      timing  := some 7
      latency := none } ∧
    read "\n+\u0661_0\tt 7 x".toList = read "+\u0661_0 t\u20037 x y".toList ∧
    ∃ fault, read "1__0 t".toList = .error fault := by
  refine ⟨?accepted, ?surplus, ?refused⟩
  case accepted =>
    have ⟨ks, hk, hr, _⟩ := read_iff_grammar "\n+\u0661_0\tt 7 x".toList
    cases (hk _).mp <| Text.holds_iff.mpr rfl
    have h₁ : Text.IsDigit '\u0661' 1 := ⟨⟨0x660, by decide, rfl⟩, by decide⟩
    have h₀ : Text.IsDigit '0' 0 := ⟨⟨0x30, by decide, rfl⟩, by decide⟩
    have hn : Denotes "+\u0661_0".toList 10 := .plus (.parted h₁ <| .last h₀) (by decide)
    refine ((hr _).mpr <| reads_cons_cons hn "t".toList ["7".toList, "x".toList]).trans ?_
    decide
  case surplus =>
    have ⟨ks, hk, _, _, _, hr⟩ := read_iff_grammar "+\u0661_0 t\u20037 x y".toList
    cases (hk _).mp <| Text.holds_iff.mpr rfl
    exact (hr _ _ (Text.holds_iff.mpr rfl) (by decide)).right (by decide)
  case refused =>
    have ⟨ks, hk, _, _, he, _⟩ := read_iff_grammar "1__0 t".toList
    cases (hk _).mp <| Text.holds_iff.mpr rfl
    refine he.mpr <| .inr fun k hk n hn => ?_
    cases hk
    cases Numeral.read?_eq_some_iff.mpr hn

end FrameFilter.Frame.Header
