import FrameFilter.Text.Basic

namespace FrameFilter.Text

-- The characters that part tokens: the Unicode white space, and the four ASCII information
-- separators (U+001C to U+001F), which Unicode does not count as white space.
def blanks : List CharRange := [
    ⟨0x9, 0xd⟩, ⟨0x1c, 0x20⟩, ⟨0x85, 0x85⟩, ⟨0xa0, 0xa0⟩, ⟨0x1680, 0x1680⟩, ⟨0x2000, 0x200a⟩,
    ⟨0x2028, 0x2029⟩, ⟨0x202f, 0x202f⟩, ⟨0x205f, 0x205f⟩, ⟨0x3000, 0x3000⟩]

def isBlank (c : Char) : Bool :=
  CharRange.anyContains blanks c

-- The maximal runs of characters that are not blank.
def tokens (t : Text) : List Text :=
  (pieces isBlank t).filter (!·.isEmpty)

theorem ne_nil_of_mem_tokens (h : k ∈ tokens t) : k ≠ [] := by
  simp [tokens] at h
  exact h.right

theorem tokens_append_cons (h : isBlank c) : tokens (s ++ c :: t) = tokens s ++ tokens t := by
  simp [tokens, pieces_append_cons h]

theorem tokens_of_forall_not_blank (hn : t ≠ []) (h : ∀ c ∈ t, isBlank c = false) :
    tokens t = [t] := by
  cases t
  case nil  => contradiction
  case cons => simp [tokens, pieces, cut_of_forall_not h]

end FrameFilter.Text
