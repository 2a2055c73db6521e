import Mathlib.Tactic.Tauto
import FrameFilter.Proofs.Filter.Judge
import FrameFilter.Proofs.Filter.Run

namespace FrameFilter

namespace TagSet

-- The tags that a frame does not concern, and those that no frame of a run concerns.
def without (s : TagSet) (allowed : Text) (frame : Frame) : TagSet where
  tags  := s.tags.filter fun tag => ¬frame.Concerns allowed tag
  nodup := s.nodup.filter _

def withoutAll (s : TagSet) (allowed : Text) (texts : List Text) : TagSet :=
  texts.foldl (fun s text => s.without allowed <| .ofText text) s

variable {s : TagSet}

theorem mem_without : tag ∈ s.without allowed frame ↔ tag ∈ s ∧ ¬frame.Concerns allowed tag :=
  List.mem_filter.trans <| and_congr_right' decide_eq_true_iff

theorem mem_withoutAll : tag ∈ s.withoutAll allowed texts ↔
    tag ∈ s ∧ ∀ t ∈ texts, ¬(Frame.ofText t).Concerns allowed tag := by
  induction texts generalizing s
  case nil             => simp [withoutAll]
  case cons t texts hi =>
    rw [List.forall_mem_cons, ← and_assoc, ← mem_without]
    exact hi

theorem size_without_le (s : TagSet) (allowed : Text) (frame : Frame) :
    (s.without allowed frame).size ≤ s.size :=
  List.length_filter_le ..

theorem size_without_lt (hm : tag ∈ s) (hc : frame.Concerns allowed tag) :
    (s.without allowed frame).size < s.size :=
  List.length_filter_lt_length_iff_exists.mpr ⟨tag, hm, by simp [hc]⟩

end TagSet

-- The frame at a place of a run answers a tag that no frame before it concerns.
def FirstAnswers (allowed tag : Text) (texts : List Text) (i : Nat) : Prop :=
  ∃ text, texts[i]? = some text ∧ (Frame.ofText text).Answers tag ∧
    ∀ t ∈ texts.take i, ¬(Frame.ofText t).Concerns allowed tag

theorem FirstAnswers.not_lt (hi : FirstAnswers allowed tag texts i)
    (hj : FirstAnswers allowed tag texts j) : ¬i < j := by
  intro hlt
  have ⟨text, ht, ha, _⟩ := hi
  have ⟨_, _, _, hn⟩ := hj
  exact hn text (List.mem_of_getElem? <| (List.getElem?_take_of_lt hlt).trans ht) <| .inr ha

namespace Filter

-- The one filter has pending what the other one has, and the lost tags besides.
structure Exceeds (f g : Filter) (lost : TagSet) : Prop where
  allowed : f.allowed = g.allowed
  pending : ∀ tag, tag ∈ f.pending ↔ tag ∈ g.pending ∨ tag ∈ lost
  apart   : ∀ tag ∈ lost, tag ∉ g.pending

variable {f g : Filter} {lost : TagSet} {frame : Frame}

theorem exceeds_fresh (allowed : Text) (s : TagSet) :
    Exceeds { allowed, pending := s } (fresh allowed) s where
  allowed     := rfl
  pending _   := (or_iff_right TagSet.not_mem_empty).symm
  apart _ _   := TagSet.not_mem_empty

-- A frame settles the tag that it concerns: after it the two filters agree on the tag.
theorem Exceeds.judge (h : f.Exceeds g lost) (frame : Frame) :
    (f.judge frame).2.Exceeds (g.judge frame).2 (lost.without f.allowed frame) where
  allowed     := by rw [judge_allowed, judge_allowed, h.allowed]
  pending tag := by
    rw [mem_pending_judge, mem_pending_judge, TagSet.mem_without, h.pending, ← h.allowed,
      Frame.Concerns]
    tauto
  apart tag   := by
    rw [mem_pending_judge, TagSet.mem_without, ← h.allowed, Frame.Concerns]
    have := h.apart tag
    tauto

theorem Exceeds.after (h : f.Exceeds g lost) (texts : List Text) :
    (f.after texts).Exceeds (g.after texts) (lost.withoutAll f.allowed texts) := by
  induction texts generalizing f g lost
  case nil             => exact h
  case cons t texts hi =>
    have := hi <| h.judge <| .ofText t
    rwa [judge_allowed] at this

theorem Exceeds.verdicts_of_answers (h : f.Exceeds g lost) (hm : tag ∈ lost)
    (ha : frame.Answers tag) :
    ∃ header, header.tag = tag ∧ (f.judge frame).1 = .suppressedResponse header ∧
      (g.judge frame).1 = .unmatchedResponse header := by
  have ⟨header, hh, ht, hg⟩ := ha
  have hf : header.tag ∈ f.pending := hg ▸ (h.pending tag).mpr (.inr hm)
  have hn : header.tag ∉ g.pending := hg ▸ h.apart tag hm
  refine ⟨header, hg, ?_, ?_⟩
  · simp [Filter.judge, Frame.message_of_response hh ht, hf]
  · simp [Filter.judge, Frame.message_of_response hh ht, hn]

-- The verdicts differ on the responses for a lost tag, and on nothing else.
theorem Exceeds.verdict_ne_iff (h : f.Exceeds g lost) :
    (f.judge frame).1 ≠ (g.judge frame).1 ↔ ∃ tag ∈ lost, frame.Answers tag := by
  constructor
  case mp =>
    intro hv
    by_contra hn
    refine hv <| verdict_congr h.allowed fun tag ha => ?_
    have hl : tag ∉ lost := fun hm => hn ⟨tag, hm, ha⟩
    rw [h.pending, or_iff_left hl]
  case mpr =>
    intro ⟨tag, hm, ha⟩
    have ⟨_, _, hf, hg⟩ := h.verdicts_of_answers hm ha
    rw [hf, hg]
    exact (nomatch ·)

-- Each difference uses up a lost tag.
theorem Exceeds.countP_ne_add_size_le (h : f.Exceeds g lost) (texts : List Text) :
    ((f.verdicts texts).zip (g.verdicts texts)).countP (fun vw => vw.1 ≠ vw.2)
        + (lost.withoutAll f.allowed texts).size ≤ lost.size := by
  induction texts generalizing f g lost
  case nil             => exact Nat.le_of_eq <| Nat.zero_add _
  case cons t texts hi =>
    have hi := hi <| h.judge <| .ofText t
    rw [judge_allowed] at hi
    have hl : lost.withoutAll f.allowed (t :: texts) =
      (lost.without f.allowed <| .ofText t).withoutAll f.allowed texts := rfl
    rw [verdicts_cons, verdicts_cons, List.zip_cons_cons, List.countP_cons, hl]
    split
    case isTrue hv =>
      have ⟨tag, hm, ha⟩ := h.verdict_ne_iff.mp <| of_decide_eq_true hv
      have := TagSet.size_without_lt hm (.inr ha : (Frame.ofText t).Concerns f.allowed tag)
      omega
    case isFalse =>
      have := TagSet.size_without_le lost f.allowed <| .ofText t
      omega

-- A filter that has forgotten what was pending judges otherwise only where a response would have
-- been hidden for a forgotten tag, and that once for each tag at most: whatever comes next for the
-- tag, the filter is right about it again.
theorem verdicts_after_forgetting (allowed : Text) (s : TagSet) (texts : List Text) :
    let f : Filter := { allowed, pending := s }
    let g := fresh allowed
    (∀ i, (f.verdicts texts)[i]? ≠ (g.verdicts texts)[i]? ↔
        ∃ tag ∈ s, FirstAnswers allowed tag texts i) ∧
      (∀ tag ∈ s, ∀ i, FirstAnswers allowed tag texts i →
        ∃ header, header.tag = tag ∧
          (f.verdicts texts)[i]? = some (.suppressedResponse header) ∧
          (g.verdicts texts)[i]? = some (.unmatchedResponse header)) ∧
      (∀ tag i j, FirstAnswers allowed tag texts i → FirstAnswers allowed tag texts j → i = j) ∧
      ((f.verdicts texts).zip (g.verdicts texts)).countP (fun vw => vw.1 ≠ vw.2) ≤ s.size ∧
      (∀ tag ∈ (g.after texts).pending, tag ∈ (f.after texts).pending) ∧
      ∀ tag, tag ∈ (f.after texts).pending ∧ tag ∉ (g.after texts).pending ↔
        tag ∈ s ∧ ∀ t ∈ texts, ¬(Frame.ofText t).Concerns allowed tag := by
  intro f g
  have h : f.Exceeds g s := exceeds_fresh allowed s
  refine ⟨fun i => ?differ, fun tag hm i hi => ?verdicts, fun tag i j hi hj => ?once, ?count,
    fun tag hg => ((h.after texts).pending tag).mpr <| .inl hg, fun tag => ?pending⟩
  case differ =>
    rw [getElem?_verdicts_eq, getElem?_verdicts_eq]
    cases ht : texts[i]?
    case none      => simp [FirstAnswers, ht]
    case some text =>
      rw [Option.map_some, Option.map_some, ne_eq, Option.some_inj, ← ne_eq,
        (h.after _).verdict_ne_iff]
      constructor
      case mp =>
        intro ⟨tag, hm, ha⟩
        have ⟨hm, hn⟩ := TagSet.mem_withoutAll.mp hm
        exact ⟨tag, hm, text, ht, ha, hn⟩
      case mpr =>
        intro ⟨tag, hm, _, ht', ha, hn⟩
        cases ht.symm.trans ht'
        exact ⟨tag, TagSet.mem_withoutAll.mpr ⟨hm, hn⟩, ha⟩
  case verdicts =>
    have ⟨text, ht, ha, hn⟩ := hi
    have hl := TagSet.mem_withoutAll.mpr ⟨hm, hn⟩
    have ⟨header, hg, hv, hw⟩ := (h.after <| texts.take i).verdicts_of_answers hl ha
    refine ⟨header, hg, ?_, ?_⟩
    · rw [getElem?_verdicts_eq, ht, ← hv]; rfl
    · rw [getElem?_verdicts_eq, ht, ← hw]; rfl
  case once  =>
    exact Nat.le_antisymm (Nat.not_lt.mp <| hj.not_lt hi) (Nat.not_lt.mp <| hi.not_lt hj)
  case count => exact Nat.le_trans (Nat.le_add_right ..) <| h.countP_ne_add_size_le texts
  case pending =>
    have ha := h.after texts
    rw [ha.pending, ← TagSet.mem_withoutAll]
    have := ha.apart tag
    tauto

-- Of three forgotten tags the first is answered at once, the second is asked for again before its
-- response, and the third does not come up.
theorem verdicts_after_forgetting_three :
    let s := [['a'], ['b'], ['c']].foldl TagSet.insert .empty
    let f : Filter := { allowed := "/api".toList, pending := s }
    let g := fresh "/api".toList
    let texts := ["2 a".toList, "1 b\nGET /x".toList, "2 b".toList, "2 a".toList]
    FirstAnswers "/api".toList ['a'] texts 0 ∧
      (f.verdicts texts)[0]? ≠ (g.verdicts texts)[0]? ∧
      (f.verdicts texts)[2]? = (g.verdicts texts)[2]? ∧
      ['c'] ∈ (f.after texts).pending ∧ ['c'] ∉ (g.after texts).pending := by
  intro s f g texts
  have ⟨hd, _, _, _, _, hp⟩ := verdicts_after_forgetting "/api".toList s texts
  have ha : FirstAnswers "/api".toList ['a'] texts 0 := ⟨_, rfl, by decide, by simp⟩
  have hc := (hp ['c']).mpr <| by decide
  refine ⟨ha, (hd 0).mpr ⟨['a'], by decide, ha⟩, ?_, hc.left, hc.right⟩
  by_contra hn
  have ⟨tag, _, text, ht, hb, hr⟩ := (hd 2).mp hn
  cases ht
  have he : ['b'] = tag := hb.tag_eq <| by decide
  subst he
  exact hr "1 b\nGET /x".toList (by decide) <| .inl <| by decide

end Filter
end FrameFilter
