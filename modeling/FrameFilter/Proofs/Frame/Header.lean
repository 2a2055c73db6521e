import FrameFilter.Frame.Basic
import FrameFilter.Utf8.Basic

namespace FrameFilter

theorem Text.cut_cons_of_not {p : Char → Bool} (h : p c = false) :
    cut p (c :: t) = (c :: (cut p t).1, (cut p t).2) := by
  simp [cut, h]

-- A text that does not start with a blank starts with its first token.
theorem Text.tokens_cons_of_not_blank (h : isBlank c = false) (t : Text) :
    ∃ k ks, tokens (c :: t) = (c :: k) :: ks := by
  rw [tokens, pieces, cut_cons_of_not h]
  exact ⟨_, _, List.filter_cons_of_pos rfl⟩

theorem Numeral.digits?_cons_of_none (h : Text.digit? c = none) (t : Text) :
    digits? (c :: t) = none := by
  rw [digits?.eq_def]
  split <;> simp_all

theorem Numeral.read?_cons_of_none (h : Text.digit? c = none) (hm : c ≠ '-') (hp : c ≠ '+')
    (t : Text) : read? (c :: t) = none := by
  have hd := digits?_cons_of_none h t
  rw [read?.eq_def]
  split <;> simp_all [magnitude?]

-- A header that starts with a character of no numeral has either no kind or no tag.
theorem Frame.header_cons_of_none (h : Text.digit? c = none) (hm : c ≠ '-') (hp : c ≠ '+')
    (hb : Text.isBlank c = false) (hn : c ≠ '\n') (t : Text) :
    ∃ fault, (ofText (c :: t)).header = .error fault := by
  have ⟨k, ks, hk⟩ := Text.tokens_cons_of_not_blank hb (Text.cut (· = '\n') t).1
  have ht : (ofText (c :: t)).top = c :: (Text.cut (· = '\n') t).1 := by
    rw [ofText, Text.cut_cons_of_not (by simpa using hn)]
  rw [header, Header.read, ht, hk]
  cases ks
  case nil  => exact ⟨_, rfl⟩
  case cons => exact ⟨.badKind (c :: k), by simp [Numeral.read?_cons_of_none h hm hp]⟩

theorem Frame.header_cons_replacement (t : Text) :
    ∃ fault, (ofText (Utf8.replacement :: t)).header = .error fault := by
  apply header_cons_of_none <;> decide

end FrameFilter
