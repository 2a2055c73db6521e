import Mathlib.Data.List.Perm.Subperm
import FrameFilter.Proofs.Filter.Judge

namespace FrameFilter

theorem TagSet.size_le_of_subset {s u : TagSet} (h : ∀ tag ∈ s, tag ∈ u) : s.size ≤ u.size :=
  (List.subperm_of_subset s.nodup h).length_le

namespace Filter

-- A filter that allows more than another one, and has no other tags pending.
structure Wider (f g : Filter) : Prop where
  allowed : f.allowed <+: g.allowed
  pending : ∀ tag ∈ f.pending, tag ∈ g.pending

variable {f g : Filter}

theorem fresh_wider {allowed narrower : Text} (h : allowed <+: narrower) :
    (fresh allowed).Wider (fresh narrower) where
  allowed      := h
  pending _ hp := absurd hp TagSet.not_mem_empty

-- A response takes its tag from both filters, even if it was pending in the narrower one only.
theorem Wider.judge (h : f.Wider g) (frame : Frame) :
    (f.judge frame).2.Wider (g.judge frame).2 where
  allowed     := by rw [judge_allowed, judge_allowed]; exact h.allowed
  pending tag := by
    rw [mem_pending_judge, mem_pending_judge]
    rintro (hs | ⟨hp, ha⟩)
    · exact .inl <| hs.mono h.allowed
    · exact .inr ⟨h.pending tag hp, ha⟩

theorem Wider.isShown (h : f.Wider g) (hs : (g.judge frame).1.isShown) :
    (f.judge frame).1.isShown := by
  by_contra hn
  have ⟨tag, hf⟩ := isShown_judge_eq_false_iff_exists.mp <| eq_false_of_ne_true hn
  have hg : frame.Suppresses g.allowed tag ∨ frame.Answers tag ∧ tag ∈ g.pending :=
    hf.imp (.mono h.allowed) (.imp_right <| h.pending tag)
  have hv := isShown_judge_eq_false_iff_exists.mpr ⟨tag, hg⟩
  exact absurd hs <| ne_true_of_eq_false hv

end Filter
end FrameFilter
