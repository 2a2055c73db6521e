import Mathlib.Data.List.Induction
import FrameFilter.Filter.Basic

namespace FrameFilter.Filter

-- The verdicts on the frames of a run, and the filter after it.
def verdicts (f : Filter) (texts : List Text) : List Verdict :=
  (f.judgeAll (texts.map .ofText)).1

def after (f : Filter) (texts : List Text) : Filter :=
  (f.judgeAll (texts.map .ofText)).2

variable {f : Filter}

theorem verdicts_cons : f.verdicts (text :: texts) =
    (f.judge (.ofText text)).1 :: (f.judge (.ofText text)).2.verdicts texts :=
  rfl

theorem after_cons : f.after (text :: texts) = (f.judge (.ofText text)).2.after texts :=
  rfl

theorem after_append : f.after (as ++ bs) = (f.after as).after bs := by
  simp [after, judgeAll_append]

theorem verdicts_append : f.verdicts (as ++ bs) = f.verdicts as ++ (f.after as).verdicts bs := by
  simp [verdicts, after, judgeAll_append]

theorem after_append_singleton :
    f.after (texts ++ [text]) = ((f.after texts).judge (.ofText text)).2 :=
  after_append

theorem length_verdicts (f : Filter) (texts : List Text) :
    (f.verdicts texts).length = texts.length := by
  induction texts generalizing f
  case nil        => rfl
  case cons hi => simp [verdicts_cons, hi]

theorem after_allowed (f : Filter) (texts : List Text) : (f.after texts).allowed = f.allowed := by
  induction texts using List.reverseRecOn
  case nil                      => rfl
  case append_singleton as a hi => rw [after_append_singleton, judge_allowed, hi]

theorem getElem?_verdicts_eq (f : Filter) (texts : List Text) (i : Nat) :
    (f.verdicts texts)[i]? =
      texts[i]?.map fun t => ((f.after (texts.take i)).judge (.ofText t)).1 := by
  induction texts generalizing f i
  case nil             => rfl
  case cons t texts hi =>
    cases i
    case zero   => rfl
    case succ i => exact hi _ i

theorem getElem?_verdicts (before : List Text) (text : Text) (later : List Text) :
    (f.verdicts (before ++ text :: later))[before.length]? =
      some ((f.after before).judge (.ofText text)).1 := by
  simp [verdicts_append, verdicts_cons, ← length_verdicts f]

end FrameFilter.Filter
