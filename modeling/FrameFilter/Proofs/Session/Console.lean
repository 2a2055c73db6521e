import FrameFilter.Proofs.Session.Line

namespace FrameFilter

namespace Event

-- Whether an event reaches the diagnostic stream: a frame always does, and a record does if its
-- logger admits it.
def isWritten (setting : Option Text) : Event → Bool
  | echo _     => false
  | display .. => true
  | log n      => n.isAdmitted setting

-- What is written to the diagnostic stream at once.
def text (time : Text) : Event → Text
  | echo _      => []
  | display s t => s ++ '\n' :: t ++ ['\n']
  | log n       => n.record time

theorem diagnostics_eq (setting : Option Text) (time : Text) (e : Event) :
    e.diagnostics setting time = if e.isWritten setting then e.text time else [] := by
  cases e <;> rfl

end Event

-- The two streams with all that has been written to them under a log setting. The diagnostic stream
-- is kept in the pieces in which it has been written.
structure Console where
  output  : Text
  written : List Event

namespace Console

def empty : Console where
  output  := []
  written := []

def perform (setting : Option Text) (c : Console) (e : Event) : Console where
  output  := c.output ++ e.output
  written := c.written ++ if e.isWritten setting then [e] else []

def performAll (setting : Option Text) (c : Console) (es : List Event) : Console :=
  es.foldl (perform setting) c

def diagnostics (time : Text) (c : Console) : Text :=
  c.written.flatMap (Event.text time)

variable {c : Console} {setting : Option Text} {es : List Event}

theorem performAll_eq (setting : Option Text) (c : Console) (es : List Event) :
    c.performAll setting es = {
      output  := c.output ++ es.flatMap Event.output
      written := c.written ++ es.filter (·.isWritten setting) } := by
  induction es generalizing c
  case nil          => simp [performAll]
  case cons e es hi =>
    have hc : c.performAll setting (e :: es) = (c.perform setting e).performAll setting es := rfl
    rw [hc, hi, perform]
    cases he : e.isWritten setting <;> simp [he]

theorem performAll_append :
    c.performAll setting (es ++ es') = (c.performAll setting es).performAll setting es' :=
  List.foldl_append

theorem written_performAll_empty (setting : Option Text) (es : List Event) :
    (empty.performAll setting es).written = es.filter (·.isWritten setting) :=
  congrArg written <| performAll_eq setting empty es

theorem diagnostics_performAll (setting : Option Text) (time : Text) (es : List Event) :
    (empty.performAll setting es).diagnostics time =
      es.flatMap (Event.diagnostics setting time) := by
  rw [diagnostics, written_performAll_empty, flatMap_filter]
  exact congrArg es.flatMap <| funext fun e => (e.diagnostics_eq setting time).symm

end Console

-- A session at work, with its answers so far.
structure Process where
  session : Session
  answers : List (Option Bool)
  console : Console

namespace Process

def join (settings : Settings) (filter : Filter) : Process where
  session := .join settings filter
  answers := []
  console := .empty

def start (settings : Settings) : Process :=
  join settings (.fresh settings.allowed)

def perform (setting : Option Text) (p : Process) (es : List Event) : Process :=
  { p with console := p.console.performAll setting es }

def act (setting : Option Text) (p : Process) (a : Session.Action) : Process where
  session := (p.session.act a).session
  answers := p.answers ++ [(p.session.act a).isShown]
  console := p.console.performAll setting (p.session.act a).events

def run (setting : Option Text) (p : Process) (as : List Session.Action) : Process :=
  as.foldl (act setting) p

theorem run_eq (setting : Option Text) (p : Process) (as : List Session.Action) :
    p.run setting as = {
      session := p.session.after as
      answers := p.answers ++ (p.session.trace as).map (·.isShown)
      console := p.console.performAll setting (p.session.events as) } := by
  induction as generalizing p
  case nil          => simp [run, Session.after, Session.trace, Session.events, Console.performAll]
  case cons a as hi =>
    have hr : p.run setting (a :: as) = (p.act setting a).run setting as := rfl
    rw [hr, hi, act, Session.events_cons, Console.performAll_append]
    simp [Session.after_cons, Session.trace]

end Process
end FrameFilter
