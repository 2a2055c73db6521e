import FrameFilter.Filter.TagSet
import FrameFilter.Filter.Verdict

namespace FrameFilter

-- Requests whose endpoint does not start with the allowed text are hidden, and so is the first
-- response to each of them. Until then the tag of the request is pending. A tag whose response
-- never comes is pending for good.
structure Filter where
  allowed : Text
  pending : TagSet

namespace Filter

def fresh (allowed : Text) : Filter where
  allowed := allowed
  pending := .empty

def allows (f : Filter) (endpoint : Text) : Bool :=
  f.allowed.isPrefixOf endpoint

def judge (f : Filter) (frame : Frame) : Verdict × Filter :=
  match frame.message with
  | .error fault     => (.malformed fault, f)
  | .ok (.event h)   => (.event h, f)
  | .ok (.unknown h) => (.unknownType h, f)
  | .ok (.request h e) =>
    if f.allows e then (.allowedEndpoint h e, f)
    else (.suppressedRequest h e, { f with pending := f.pending.insert h.tag })
  | .ok (.response h) =>
    if h.tag ∈ f.pending then (.suppressedResponse h, { f with pending := f.pending.erase h.tag })
    else (.unmatchedResponse h, f)

-- The verdicts on a run of frames, and the filter after it.
def judgeAll (f : Filter) : List Frame → List Verdict × Filter
  | [] => ([], f)
  | frame :: frames =>
    let (v, f) := f.judge frame
    let (vs, f) := f.judgeAll frames
    (v :: vs, f)

variable {f : Filter}

theorem judge_allowed : (f.judge frame).2.allowed = f.allowed := by
  simp only [judge]
  repeat' split
  all_goals rfl

theorem judgeAll_nil : f.judgeAll [] = ([], f) :=
  rfl

theorem judgeAll_cons :
    f.judgeAll (frame :: frames) =
      ((f.judge frame).1 :: ((f.judge frame).2.judgeAll frames).1,
        ((f.judge frame).2.judgeAll frames).2) :=
  rfl

theorem judgeAll_append :
    f.judgeAll (as ++ bs) =
      ((f.judgeAll as).1 ++ ((f.judgeAll as).2.judgeAll bs).1,
        ((f.judgeAll as).2.judgeAll bs).2) := by
  induction as generalizing f
  case nil          => simp [judgeAll_nil]
  case cons a as hi => simp [judgeAll_cons, hi]

end Filter
end FrameFilter
