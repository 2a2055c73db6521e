import Mathlib.Data.List.Induction
import Mathlib.Tactic.Tauto
import FrameFilter.Proofs.Filter.Judge
import FrameFilter.Proofs.Filter.Run

namespace FrameFilter

-- Somewhere in a history there is an `S`, and after it there is no `R`.
def Since (S R : α → Prop) (as : List α) : Prop :=
  ∃ before a later, as = before ++ a :: later ∧ S a ∧ ∀ b ∈ later, ¬R b

theorem not_since_nil {S R : α → Prop} : ¬Since S R [] := by
  simp [Since]

theorem since_append_singleton {S R : α → Prop} :
    Since S R (as ++ [a]) ↔ S a ∨ Since S R as ∧ ¬R a := by
  constructor
  case mp =>
    intro ⟨before, b, later, he, hs, hr⟩
    cases later using List.reverseRecOn
    case nil =>
      have ⟨_, h⟩ := List.append_inj' he rfl
      cases h
      exact .inl hs
    case append_singleton later c _ =>
      rw [← List.cons_append, ← List.append_assoc] at he
      have ⟨h, hc⟩ := List.append_inj' he rfl
      cases hc
      simp only [List.mem_append, List.mem_singleton] at hr
      exact .inr ⟨⟨before, b, later, h, hs, fun b hb => hr b <| .inl hb⟩, hr a <| .inr rfl⟩
  case mpr =>
    intro h
    cases h
    case inl hs => exact ⟨as, a, [], rfl, hs, by simp⟩
    case inr h  =>
      have ⟨⟨before, b, later, he, hs, hr⟩, ha⟩ := h
      refine ⟨before, b, later ++ [a], by simp [he], hs, ?_⟩
      simp only [List.mem_append, List.mem_singleton]
      rintro c (hc | rfl)
      · exact hr c hc
      · exact ha

-- What the last element of every history decides, an `S` or else no `R`, depends on the history in
-- this way.
theorem iff_since (P : List α → Prop) (h : ∀ as a, P (as ++ [a]) ↔ S a ∨ P as ∧ ¬R a)
    (as : List α) : P as ↔ Since S R as ∨ P [] ∧ ∀ a ∈ as, ¬R a := by
  induction as using List.reverseRecOn
  case nil => simp [not_since_nil]
  case append_singleton as a hi =>
    simp only [h, hi, since_append_singleton, List.mem_append, List.mem_singleton, or_imp,
      forall_and, forall_eq]
    tauto

namespace Filter

variable {f : Filter}

theorem mem_pending_after_append_singleton :
    tag ∈ (f.after (texts ++ [text])).pending ↔
      (Frame.ofText text).Suppresses f.allowed tag ∨
        tag ∈ (f.after texts).pending ∧ ¬(Frame.ofText text).Answers tag := by
  rw [after_append_singleton, mem_pending_judge, after_allowed]

-- A tag is pending as long as no response has come since a suppressed request for it.
theorem mem_pending_after_iff_not_answered (f : Filter) (tag : Text) (texts : List Text) :
    tag ∈ (f.after texts).pending ↔
      Since (fun t => (Frame.ofText t).Suppresses f.allowed tag)
          (fun t => (Frame.ofText t).Answers tag) texts ∨
        tag ∈ f.pending ∧ ∀ t ∈ texts, ¬(Frame.ofText t).Answers tag := by
  apply iff_since (fun ts => tag ∈ (f.after ts).pending)
  exact fun _ _ => mem_pending_after_append_singleton

-- Of the frames that concern a tag, the last one decides whether it is pending.
theorem mem_pending_after_iff_last (f : Filter) (tag : Text) (texts : List Text) :
    tag ∈ (f.after texts).pending ↔
      Since (fun t => (Frame.ofText t).Suppresses f.allowed tag)
          (fun t => (Frame.ofText t).Concerns f.allowed tag) texts ∨
        tag ∈ f.pending ∧ ∀ t ∈ texts, ¬(Frame.ofText t).Concerns f.allowed tag := by
  apply iff_since (fun ts => tag ∈ (f.after ts).pending)
  intro texts text
  rw [mem_pending_after_append_singleton, Frame.Concerns]
  tauto

theorem isShown_judge_eq_false_iff (h : frame.Answers tag) :
    (f.judge frame).1.isShown = false ↔ tag ∈ f.pending := by
  by_cases hm : tag ∈ f.pending
  case pos =>
    obtain ⟨_, _, hj⟩ := judge_of_answers_of_mem h hm
    simp [hj, hm, Verdict.isShown]
  case neg =>
    obtain ⟨_, _, hj⟩ := judge_of_answers_of_not_mem h hm
    simp [hj, hm, Verdict.isShown]

theorem suppression_history (f : Filter) (before : List Text) (text : Text) (later : List Text) :
    (∀ tag, tag ∈ (f.after before).pending ↔
      Since (fun t => (Frame.ofText t).Suppresses f.allowed tag)
          (fun t => (Frame.ofText t).Concerns f.allowed tag) before ∨
        tag ∈ f.pending ∧ ∀ t ∈ before, ¬(Frame.ofText t).Concerns f.allowed tag) ∧
    ∃ v, (f.verdicts (before ++ text :: later))[before.length]? = some v ∧
      (∀ tag, (Frame.ofText text).Answers tag →
        (v.isShown = false ↔
          Since (fun t => (Frame.ofText t).Suppresses f.allowed tag)
              (fun t => (Frame.ofText t).Answers tag) before ∨
            tag ∈ f.pending ∧ ∀ t ∈ before, ¬(Frame.ofText t).Answers tag)) ∧
      (∀ tag, (Frame.ofText text).Suppresses f.allowed tag → v.isShown = false) ∧
      ((∀ tag, ¬(Frame.ofText text).Concerns f.allowed tag) →
        v.isShown = true ∧ f.after (before ++ [text]) = f.after before) := by
  refine ⟨fun tag => mem_pending_after_iff_last f tag before, _, getElem?_verdicts .., ?_, ?_, ?_⟩
  case refine_1 =>
    intro tag h
    rw [isShown_judge_eq_false_iff h, mem_pending_after_iff_not_answered]
  case refine_2 =>
    intro tag h
    rw [← after_allowed f before] at h
    have ⟨_, _, _, hj⟩ := judge_of_suppresses h
    rw [hj]
    rfl
  case refine_3 =>
    intro h
    rw [after_append_singleton]
    apply judge_of_other
    · exact fun tag hs => h tag <| .inl <| after_allowed f before ▸ hs
    · exact fun tag ha => h tag <| .inr ha

-- An allowed request does not take back an earlier request with the same tag.
theorem suppression_history_reused_tag :
    ∃ v, ((fresh "/api".toList).verdicts
        ["1 t\nGET /x".toList, "1 t\nGET /api".toList, "2 t".toList])[2]? = some v ∧
      v.isShown = false := by
  have ⟨_, v, hv, ha, _⟩ := suppression_history (fresh "/api".toList)
    ["1 t\nGET /x".toList, "1 t\nGET /api".toList] "2 t".toList []
  refine ⟨v, hv, (ha "t".toList ?_).mpr <| .inl ⟨[], _, _, rfl, ?_, ?_⟩⟩
  all_goals decide

end Filter
end FrameFilter
