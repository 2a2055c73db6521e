import FrameFilter.Proofs.Text.Numeral
import FrameFilter.Text.Quoted

namespace FrameFilter

-- Ranges that lie in others have no characters but theirs.
theorem CharRange.anyContains_of_subset {rs rs' : List CharRange}
    (h : ∀ r ∈ rs, ∃ r' ∈ rs', r'.first ≤ r.first ∧ r.last ≤ r'.last)
    (hc : anyContains rs c) : anyContains rs' c := by
  have ⟨r, hr, hc⟩ := anyContains_iff.mp hc
  have ⟨r', hr', hf, hl⟩ := h r hr
  have ⟨hfc, hcl⟩ := contains_iff.mp hc
  exact anyContains_iff.mpr ⟨r', hr', contains_iff.mpr ⟨hf.trans hfc, hcl.trans hl⟩⟩

namespace Text

-- The characters that some reader takes for the end of a line: besides newline and carriage return
-- the vertical tab, the form feed, three of the ASCII information separators (U+001C to U+001E),
-- U+0085, and the line and paragraph separators of Unicode.
def breaks : List CharRange :=
  [⟨0xa, 0xd⟩, ⟨0x1c, 0x1e⟩, ⟨0x85, 0x85⟩, ⟨0x2028, 0x2029⟩]

def isBreak (c : Char) : Bool :=
  CharRange.anyContains breaks c

-- Text that is on one line for every reader.
def Unbroken (t : Text) : Prop :=
  ∀ c ∈ t, isBreak c = false

instance : Decidable (Unbroken t) :=
  decidable_of_iff (t.all (!isBreak ·)) <| by simp [Unbroken]

-- The blanks cover the ends of lines, and none of these is printable.
theorem isBlank_of_isBreak (h : isBreak c) : isBlank c :=
  CharRange.anyContains_of_subset (by decide) h

theorem isPrintable_iff : isPrintable c ↔ ¬CharRange.anyContains unprintables c := by
  simp [isPrintable]

theorem isBreak_of_isPrintable (h : isPrintable c) : isBreak c = false := by
  apply eq_false_of_ne_true
  intro hb
  exact isPrintable_iff.mp h <| CharRange.anyContains_of_subset (by decide +kernel) hb

namespace Unbroken

theorem nil : Unbroken [] :=
  nofun

theorem cons (hc : isBreak c = false) (ht : Unbroken t) : Unbroken (c :: t) :=
  List.forall_mem_cons.mpr ⟨hc, ht⟩

theorem append (hs : Unbroken s) (ht : Unbroken t) : Unbroken (s ++ t) :=
  List.forall_mem_append.mpr ⟨hs, ht⟩

-- A message puts texts between others that are given with it.
theorem labelled (ht : Unbroken t) (hs : Unbroken s := by decide) : Unbroken (s ++ t) :=
  hs.append ht

theorem extended (hs : Unbroken s) (ht : Unbroken t) (hu : Unbroken u := by decide) :
    Unbroken (s ++ t ++ u) :=
  (hs.append ht).append hu

theorem framed (ht : Unbroken t) (hs : Unbroken s := by decide) (hu : Unbroken u := by decide) :
    Unbroken (s ++ t ++ u) :=
  hs.extended ht hu

theorem intercalate (hs : Unbroken s) (h : ∀ t ∈ ts, Unbroken t) :
    Unbroken (s.intercalate ts) := by
  induction ts
  case nil          => exact nil
  case cons t ts hi =>
    have ⟨ht, hts⟩ := List.forall_mem_cons.mp h
    cases ts
    case nil  => simpa [List.intercalate] using ht
    case cons => simpa [List.intercalate] using ht.append <| hs.append <| hi hts

end Unbroken

theorem IsToken.unbroken (h : IsToken k) : Unbroken k := by
  intro c hc
  apply eq_false_of_ne_true
  intro hb
  exact absurd (isBlank_of_isBreak hb) <| ne_true_of_eq_false <| h.right c hc

theorem unbroken_ofInt (n : Int) : Unbroken (Numeral.ofInt n) :=
  (Numeral.isToken_ofInt n).unbroken

theorem unbroken_ofNat (n : Nat) : Unbroken (Numeral.ofNat n) :=
  unbroken_ofInt (.ofNat n)

-- ASCII without its control characters.
def isPlain (c : Char) : Bool :=
  0x20 ≤ c.toNat && c.toNat ≤ 0x7e

theorem isPrintable_of_isPlain (h : isPlain c) : isPrintable c := by
  have hr : ∀ r ∈ unprintables, r.last < 0x20 ∨ 0x7e < r.first := by decide +kernel
  apply isPrintable_iff.mpr
  intro hu
  have ⟨r, hm, hc⟩ := CharRange.anyContains_iff.mp hu
  have ⟨hf, hl⟩ := CharRange.contains_iff.mp hc
  have hr := hr r hm
  simp only [isPlain, Bool.and_eq_true, decide_eq_true_eq] at h
  omega

def Printable (t : Text) : Prop :=
  ∀ c ∈ t, isPrintable c

theorem Printable.unbroken (h : Printable t) : Unbroken t :=
  fun c hc => isBreak_of_isPrintable <| h c hc

theorem printable_append : Printable (s ++ t) ↔ Printable s ∧ Printable t :=
  List.forall_mem_append

theorem printable_cons : Printable (c :: t) ↔ isPrintable c ∧ Printable t :=
  List.forall_mem_cons

theorem printable_of_all_isPlain (h : t.all isPlain) : Printable t :=
  fun c hc => isPrintable_of_isPlain <| List.all_eq_true.mp h c hc

theorem printable_toDigits (n : Nat) : Printable (Nat.toDigits 16 n) := by
  have hd : ∀ n < 16, [n.digitChar].all isPlain := by decide
  induction n using Nat.strongRecOn
  case ind n hi =>
    rw [Nat.toDigits_eq_if (by decide)]
    split
    case isTrue hn  => exact printable_of_all_isPlain (hd n hn)
    case isFalse hn =>
      have hm : n % 16 < 16 := Nat.mod_lt n (by decide)
      exact printable_append.mpr ⟨hi (n / 16) (by omega), printable_of_all_isPlain (hd (n % 16) hm)⟩

theorem printable_paddedHex (width n : Nat) : Printable (paddedHex width n) := by
  refine printable_append.mpr ⟨?_, printable_toDigits n⟩
  intro c hc
  rw [List.eq_of_mem_replicate hc]
  exact isPrintable_of_isPlain (by decide)

theorem printable_escapeCode (n : Nat) : Printable (escapeCode n) := by
  have hm (mark : Char) (width : Nat) (hm : ['\\', mark].all isPlain) :
      Printable ('\\' :: mark :: paddedHex width n) :=
    printable_append.mpr ⟨printable_of_all_isPlain hm, printable_paddedHex width n⟩
  rw [escapeCode]
  split
  case isTrue => exact hm 'x' 2 (by decide)
  case isFalse =>
    split
    case isTrue  => exact hm 'u' 4 (by decide)
    case isFalse => exact hm 'U' 8 (by decide)

-- An escaped character is printable, because what is not is written in ASCII.
theorem printable_escape (hm : isPrintable mark) (c : Char) : Printable (escape mark c) := by
  have hb : isPrintable '\\' := isPrintable_of_isPlain (by decide)
  rw [escape]
  split
  case isTrue h =>
    have hc : isPrintable c := by
      cases Bool.or_eq_true_iff.mp h
      case inl h => exact of_decide_eq_true h ▸ hm
      case inr h => exact of_decide_eq_true h ▸ hb
    exact printable_cons.mpr ⟨hb, printable_cons.mpr ⟨hc, nofun⟩⟩
  split
  case isTrue => exact printable_of_all_isPlain (by decide)
  split
  case isTrue => exact printable_of_all_isPlain (by decide)
  split
  case isTrue => exact printable_of_all_isPlain (by decide)
  split
  case isTrue h => exact printable_cons.mpr ⟨h, nofun⟩
  case isFalse  => exact printable_escapeCode c.toNat

theorem isPrintable_quoteMark (t : Text) : isPrintable (quoteMark t) := by
  rw [quoteMark]
  split
  all_goals exact isPrintable_of_isPlain (by decide)

-- Whatever a text has in it, its quoted form is printable, and so on one line.
theorem printable_quote (t : Text) : Printable (quote t) := by
  have hm := isPrintable_quoteMark t
  refine printable_append.mpr ⟨printable_cons.mpr ⟨hm, ?_⟩, printable_cons.mpr ⟨hm, nofun⟩⟩
  intro c hc
  have ⟨d, _, hc⟩ := List.mem_flatMap.mp hc
  exact printable_escape hm d c hc

theorem unbroken_quote (t : Text) : Unbroken (quote t) :=
  (printable_quote t).unbroken

end Text
end FrameFilter
