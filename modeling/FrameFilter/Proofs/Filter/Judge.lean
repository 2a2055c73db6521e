import Mathlib.Tactic.ByContra
import FrameFilter.Filter.Basic
import FrameFilter.Proofs.Frame.Message

namespace FrameFilter.Filter

variable {f g : Filter} {frame : Frame}

theorem allows_iff : f.allows e ↔ f.allowed <+: e :=
  List.isPrefixOf_iff_prefix

-- The verdict on a frame and the filter after it.
inductive Judged (f : Filter) (frame : Frame) : Verdict → Filter → Prop
  | malformed (hm : frame.message = .error fault) : Judged f frame (.malformed fault) f
  | event (hm : frame.message = .ok (.event h)) : Judged f frame (.event h) f
  | unknownType (hm : frame.message = .ok (.unknown h)) : Judged f frame (.unknownType h) f
  | allowedEndpoint (hm : frame.message = .ok (.request h e)) (ha : f.allowed <+: e) :
    Judged f frame (.allowedEndpoint h e) f
  | suppressedRequest (hm : frame.message = .ok (.request h e)) (ha : ¬f.allowed <+: e) :
    Judged f frame (.suppressedRequest h e) { f with pending := f.pending.insert h.tag }
  | suppressedResponse (hm : frame.message = .ok (.response h)) (hp : h.tag ∈ f.pending) :
    Judged f frame (.suppressedResponse h) { f with pending := f.pending.erase h.tag }
  | unmatchedResponse (hm : frame.message = .ok (.response h)) (hp : h.tag ∉ f.pending) :
    Judged f frame (.unmatchedResponse h) f

theorem judged (f : Filter) (frame : Frame) :
    ∃ v g, f.judge frame = (v, g) ∧ f.Judged frame v g := by
  refine ⟨_, _, rfl, ?_⟩
  cases hm : frame.message
  case error => simpa [judge, hm] using .malformed hm
  case ok m  =>
    cases m
    case event   => simpa [judge, hm] using .event hm
    case unknown => simpa [judge, hm] using .unknownType hm
    case request h e =>
      by_cases ha : f.allows e
      case pos => simpa [judge, hm, ha] using .allowedEndpoint hm (allows_iff.mp ha)
      case neg => simpa [judge, hm, ha] using .suppressedRequest hm (mt allows_iff.mpr ha)
    case response h =>
      by_cases hp : h.tag ∈ f.pending
      case pos => simpa [judge, hm, hp] using .suppressedResponse hm hp
      case neg => simpa [judge, hm, hp] using .unmatchedResponse hm hp

theorem judge_of_suppresses (h : frame.Suppresses f.allowed tag) :
    ∃ h e, h.tag = tag ∧
      f.judge frame = (.suppressedRequest h e, { f with pending := f.pending.insert tag }) := by
  have ⟨h, e, hh, ht, hg, he, ha⟩ := h
  refine ⟨h, e, hg, ?_⟩
  have hm : frame.message = .ok (.request h e) := by
    rw [Frame.message_of_request hh ht, he]
    rfl
  simp [judge, hm, mt allows_iff.mp ha, hg]

theorem judge_of_answers_of_mem (h : frame.Answers tag) (hm : tag ∈ f.pending) :
    ∃ h, h.tag = tag ∧
      f.judge frame = (.suppressedResponse h, { f with pending := f.pending.erase tag }) := by
  have ⟨h, hh, ht, hg⟩ := h
  refine ⟨h, hg, ?_⟩
  simp [judge, Frame.message_of_response hh ht, hg, hm]

theorem judge_of_answers_of_not_mem (h : frame.Answers tag) (hm : tag ∉ f.pending) :
    ∃ h, h.tag = tag ∧ f.judge frame = (.unmatchedResponse h, f) := by
  have ⟨h, hh, ht, hg⟩ := h
  refine ⟨h, hg, ?_⟩
  simp [judge, Frame.message_of_response hh ht, hg, hm]

theorem isShown_judge_of_request (hh : frame.header = .ok h) (ht : h.type = 1)
    (he : frame.target = .ok e) : (f.judge frame).1.isShown ↔ f.allowed <+: e := by
  have hm : frame.message = .ok (.request h e) := by
    rw [Frame.message_of_request hh ht, he]
    rfl
  cases ha : f.allows e <;> simp [judge, hm, ha, ← allows_iff, Verdict.isShown]

-- A malformed frame, an event, a frame of an unknown kind and an allowed request have no effect.
theorem judge_of_other (hs : ∀ tag, ¬frame.Suppresses f.allowed tag)
    (ha : ∀ tag, ¬frame.Answers tag) :
    (f.judge frame).1.isShown ∧ (f.judge frame).2 = f := by
  have ⟨v, g, he, hj⟩ := f.judged frame
  rw [he]
  cases hj
  case suppressedRequest h e hm hn => exact absurd (Frame.suppresses_of_message hm hn) (hs h.tag)
  case suppressedResponse hm _     => exact absurd (Frame.answers_of_message hm) (ha _)
  all_goals exact ⟨rfl, rfl⟩

-- A verdict depends on the pending tags only by whether the one that the frame answers is among
-- them.
theorem verdict_congr (h : f.allowed = g.allowed)
    (hp : ∀ tag, frame.Answers tag → (tag ∈ f.pending ↔ tag ∈ g.pending)) :
    (f.judge frame).1 = (g.judge frame).1 := by
  cases hm : frame.message
  case error => simp [judge, hm]
  case ok m  =>
    cases m
    case event   => simp [judge, hm]
    case unknown => simp [judge, hm]
    case request header endpoint =>
      have ha : f.allows endpoint = g.allows endpoint := congrArg (·.isPrefixOf endpoint) h
      cases hg : g.allows endpoint <;> simp [judge, hm, ha, hg]
    case response header =>
      have hp := hp header.tag <| Frame.answers_of_message hm
      by_cases hg : header.tag ∈ g.pending <;> simp [judge, hm, hp, hg]

-- Only suppression hides a frame.
theorem isShown_judge_eq_false_iff_exists : (f.judge frame).1.isShown = false ↔
    ∃ tag, frame.Suppresses f.allowed tag ∨ frame.Answers tag ∧ tag ∈ f.pending := by
  constructor
  case mp =>
    intro hv
    by_contra hn
    simp only [not_exists, not_or, not_and] at hn
    by_cases ha : ∃ tag, frame.Answers tag
    case pos =>
      have ⟨tag, ha⟩ := ha
      have ⟨_, _, hj⟩ := judge_of_answers_of_not_mem ha <| (hn tag).right ha
      simp [hj, Verdict.isShown] at hv
    case neg =>
      simp only [not_exists] at ha
      have hs := (judge_of_other (fun tag => (hn tag).left) ha).left
      exact absurd hs <| ne_true_of_eq_false hv
  case mpr =>
    rintro ⟨tag, hs | ⟨ha, hm⟩⟩
    · have ⟨_, _, _, hj⟩ := judge_of_suppresses hs
      exact congrArg (·.1.isShown) hj
    · have ⟨_, _, hj⟩ := judge_of_answers_of_mem ha hm
      exact congrArg (·.1.isShown) hj

-- Whether a frame is malformed is up to the frame alone.
theorem reason_judge_eq_malformed_iff :
    (f.judge frame).1.reason = .malformed ↔ ∃ fault, frame.message = .error fault := by
  have ⟨v, g, he, hj⟩ := f.judged frame
  rw [he]
  cases hj
  all_goals simp [Verdict.reason, *]

-- What one frame does to one tag.
theorem mem_pending_judge : tag ∈ (f.judge frame).2.pending ↔
    frame.Suppresses f.allowed tag ∨ tag ∈ f.pending ∧ ¬frame.Answers tag := by
  by_cases hs : ∃ tag', frame.Suppresses f.allowed tag'
  case pos =>
    have ⟨tag', hs⟩ := hs
    have ⟨_, _, _, hj⟩ := judge_of_suppresses hs
    have ht : frame.Suppresses f.allowed tag ↔ tag = tag' := ⟨hs.tag_eq, (· ▸ hs)⟩
    simp [hj, TagSet.mem_insert, ht, hs.not_answers]
  case neg =>
    simp only [not_exists] at hs
    by_cases ha : ∃ tag', frame.Answers tag'
    case pos =>
      have ⟨tag', ha⟩ := ha
      have ht : frame.Answers tag ↔ tag = tag' := ⟨ha.tag_eq, (· ▸ ha)⟩
      by_cases hm : tag' ∈ f.pending
      case pos =>
        have ⟨_, _, hj⟩ := judge_of_answers_of_mem ha hm
        simp [hj, TagSet.mem_erase, ht, hs, and_comm]
      case neg =>
        have ⟨_, _, hj⟩ := judge_of_answers_of_not_mem ha hm
        simp only [hj, hs, ht, false_or]
        exact ⟨fun h => ⟨h, fun he => hm (he ▸ h)⟩, And.left⟩
    case neg =>
      simp only [not_exists] at ha
      simp [judge_of_other hs ha, hs, ha]

end FrameFilter.Filter
