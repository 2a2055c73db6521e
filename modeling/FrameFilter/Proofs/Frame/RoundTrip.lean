import FrameFilter.Proofs.Frame.Grammar

namespace FrameFilter

namespace Text

-- The blanks that can stand between the tokens of one line.
def IsSpacing (s : Text) : Prop :=
  ∀ c ∈ s, isBlank c ∧ c ≠ '\n'

instance : Decidable (IsSpacing s) :=
  decidable_of_iff (s.all fun c => isBlank c && c != '\n') <| by simp [IsSpacing]

variable {k s : Text} {others : List (Text × Text)}

theorem IsSpacing.blank (hs : IsSpacing s) : ∀ c ∈ s, isBlank c := fun c hc =>
  (hs c hc).left

theorem IsSpacing.newline_not_mem (hs : IsSpacing s) : '\n' ∉ s := fun hn =>
  (hs _ hn).right rfl

theorem IsToken.newline_not_mem (hk : IsToken k) : '\n' ∉ k := fun hn =>
  absurd (hk.right _ hn) (by decide)

theorem newline_not_mem_spread (hs : ∀ p ∈ others, IsSpacing p.1)
    (hk : ∀ p ∈ others, IsToken p.2) : '\n' ∉ spread others := by
  intro hn
  have ⟨p, hp, hn⟩ := List.mem_flatMap.mp hn
  cases List.mem_append.mp hn
  case inl hn => exact (hs p hp).newline_not_mem hn
  case inr hn => exact (hk p hp).newline_not_mem hn

end Text

namespace Frame

open Numeral (ofInt Fits)
open Text (IsToken IsSpacing spread)

-- The tokens a header is written as. There is no latency without a timing, and other tokens only
-- come after both.
inductive Header.Written : Header → List Text → Prop
  | bare {n : Int} {tag : Text} (hn : Fits n) (hg : IsToken tag) :
    Written ⟨n, tag, none, none⟩ [ofInt n, tag]
  | timed {n a : Int} {tag : Text} (hn : Fits n) (hg : IsToken tag) (ha : Fits a) :
    Written ⟨n, tag, some a, none⟩ [ofInt n, tag, ofInt a]
  | full {n a b : Int} {tag : Text} {more : List Text} (hn : Fits n) (hg : IsToken tag)
    (ha : Fits a) (hb : Fits b) (hm : ∀ k ∈ more, IsToken k) :
    Written ⟨n, tag, some a, some b⟩ (ofInt n :: tag :: ofInt a :: ofInt b :: more)

variable {h : Header} {k before after rest : Text} {others : List (Text × Text)}

theorem Header.Written.isToken (hw : Written h ks) : ∀ k ∈ ks, IsToken k := by
  have hi := Numeral.isToken_ofInt
  cases hw
  case bare _ hg        => simp [hi, hg]
  case timed _ hg _     => simp [hi, hg]
  case full _ hg _ _ hm => simpa [hi, hg] using hm

theorem Header.Written.reads (hw : Written h ks) : Reads ks h := by
  cases hw
  case bare n tag hn hg => exact reads_cons_cons (Numeral.denotes_ofInt hn) tag []
  case timed n a tag hn hg ha =>
    have hr := reads_cons_cons (Numeral.denotes_ofInt hn) tag [ofInt a]
    simpa [Numeral.read?_ofInt, ha] using hr
  case full n a b tag more hn hg ha hb hm =>
    have hr := reads_cons_cons (Numeral.denotes_ofInt hn) tag (ofInt a :: ofInt b :: more)
    simpa [Numeral.read?_ofInt, ha, hb] using hr

theorem top_ofText_append {line : Text} (hn : '\n' ∉ line) (hr : ∀ c ∈ rest.head?, c = '\n') :
    (ofText (line ++ rest)).top = line := by
  have hl : ∀ c ∈ line, decide (c = '\n') = false := fun c hc =>
    decide_eq_false fun he => hn (he ▸ hc)
  cases rest
  case nil         => rw [ofText, List.append_nil, Text.cut_of_forall_not hl]
  case cons c rest => rw [ofText, Text.cut_append_cons hl <| decide_eq_true (hr c rfl)]

-- Whatever is written as a header is read back from the frame it comes with. Neither the spacing
-- of its line nor the lines after it matter.
theorem header_ofText_of_written (hw : Header.Written h (k :: others.map (·.2)))
    (hb : IsSpacing before) (hs : ∀ p ∈ others, p.1 ≠ [] ∧ IsSpacing p.1) (ha : IsSpacing after)
    (hr : ∀ c ∈ rest.head?, c = '\n') :
    (ofText (before ++ k ++ spread others ++ after ++ rest)).header = .ok h := by
  have ⟨hk, ho⟩ := List.forall_mem_cons.mp hw.isToken
  have ho : ∀ p ∈ others, IsToken p.2 := List.forall_mem_map.mp ho
  have hp : ∀ p ∈ others, p.1 ≠ [] ∧ ∀ c ∈ p.1, Text.isBlank c := fun p hp =>
    ⟨(hs p hp).left, (hs p hp).right.blank⟩
  have hn : '\n' ∉ before ++ k ++ spread others ++ after := by
    have hg := Text.newline_not_mem_spread (fun p hp => (hs p hp).right) ho
    simp only [List.mem_append, not_or]
    exact ⟨⟨⟨hb.newline_not_mem, hk.newline_not_mem⟩, hg⟩, ha.newline_not_mem⟩
  have ht : Text.Holds (k :: others.map (·.2)) (before ++ k ++ spread others ++ after) := by
    simp only [List.append_assoc]
    exact .append_of_blank hb.blank <|
      .token hk (Text.head?_spread_append hp ha.blank) <| Text.holds_spread hp ho ha.blank
  rw [header, top_ofText_append hn hr, Header.read_eq_ok_iff, ht.tokens_eq]
  exact hw.reads

-- The blanks are of different scripts, the timing is negative, and the line ends with a carriage
-- return.
theorem header_ofText_of_written_spaced :
    (ofText "\t1\u3000ab\u2004\u2004-5\r12 x \r\nGET /a".toList).header =
      .ok ⟨1, "ab".toList, some (-5), some 12⟩ := by
  have hw : Header.Written ⟨1, "ab".toList, some (-5), some 12⟩
      (ofInt 1 :: ["ab".toList, ofInt (-5), ofInt 12, "x".toList]) :=
    .full (by decide) (by decide) (by decide) (by decide) (by decide)
  let others := [("\u3000".toList, "ab".toList), ("\u2004\u2004".toList, ofInt (-5)),
    ("\r".toList, ofInt 12), (" ".toList, "x".toList)]
  have ht : "\t1\u3000ab\u2004\u2004-5\r12 x \r\nGET /a".toList =
      "\t".toList ++ ofInt 1 ++ spread others ++ " \r".toList ++ "\nGET /a".toList := by decide
  rw [ht]
  exact header_ofText_of_written hw (by decide) (by decide) (by decide) (by simp)

end Frame
end FrameFilter
