import FrameFilter.Session.Basic

namespace FrameFilter.Session

-- The steps of one action after the other.
def trace (s : Session) : List Action → List Step
  | []      => []
  | a :: as => s.act a :: (s.act a).session.trace as

def after (s : Session) (as : List Action) : Session :=
  as.foldl (act · · |>.session) s

def events (s : Session) (as : List Action) : List Event :=
  (s.trace as).flatMap (·.events)

-- A whole stream.
def stream (lines : List Text) : List Action :=
  lines.map .line ++ [.finish]

variable {s : Session}

theorem trace_append : s.trace (as ++ bs) = s.trace as ++ (s.after as).trace bs := by
  induction as generalizing s
  case nil          => rfl
  case cons a as hi => simp [trace, after, hi]

theorem after_append : s.after (as ++ bs) = (s.after as).after bs :=
  List.foldl_append

theorem events_append : s.events (as ++ bs) = s.events as ++ (s.after as).events bs := by
  simp [events, trace_append]

end FrameFilter.Session
