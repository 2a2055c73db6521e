import FrameFilter.Proofs.Session.Console

namespace FrameFilter

namespace Log

-- The setting under which every record is written.
def verbose : Option Text :=
  some "DEBUG".toList

theorem Source.threshold_verbose (s : Source) : s.threshold verbose = .debug := by
  cases s <;> decide

theorem Notice.isAdmitted_verbose (n : Notice) : n.isAdmitted verbose = true := by
  rw [isAdmitted, n.source.threshold_verbose]
  cases n <;> rfl

end Log

namespace Event

def isRecord : Event → Bool
  | log _ => true
  | _     => false

-- Whether an event is not a record of less weight than its logger asks for.
def isWeighty (setting : Option Text) : Event → Bool
  | log n => (n.source.threshold setting).effective.severity ≤ n.level.severity
  | _     => true

def withSeparator (separator : Text) : Event → Event
  | display _ t => display separator t
  | e           => e

-- Where all records are written, only their weight keeps them from being written elsewhere.
theorem isWritten_eq (setting : Option Text) (e : Event) :
    e.isWritten setting = (e.isWeighty setting && e.isWritten Log.verbose) := by
  cases e
  case echo    => rfl
  case display => rfl
  case log n   => rw [isWritten, isWritten, n.isAdmitted_verbose, Bool.and_true]; rfl

theorem isWeighty_of_not_isRecord {e : Event} (h : (!e.isRecord) = true) :
    e.isWeighty setting = true := by
  cases e
  case echo    => rfl
  case display => rfl
  case log     => contradiction

theorem isWritten_withSeparator (setting : Option Text) (separator : Text) (e : Event) :
    (e.withSeparator separator).isWritten setting = e.isWritten setting := by
  cases e <;> rfl

theorem output_withSeparator (separator : Text) (e : Event) :
    (e.withSeparator separator).output = e.output := by
  cases e <;> rfl

end Event

namespace Console

def withoutRecords (c : Console) : Console :=
  { c with written := c.written.filter (!·.isRecord) }

-- What is left under a log setting if all records have been written.
def restrict (setting : Option Text) (c : Console) : Console :=
  { c with written := c.written.filter (·.isWeighty setting) }

def withSeparator (separator : Text) (c : Console) : Console :=
  { c with written := c.written.map (Event.withSeparator separator) }

theorem withoutRecords_restrict (setting : Option Text) (c : Console) :
    (c.restrict setting).withoutRecords = c.withoutRecords := by
  simp only [withoutRecords, restrict, List.filter_filter]
  congr 2
  funext e
  cases h : !e.isRecord
  case false => rfl
  case true  => rw [Event.isWeighty_of_not_isRecord h]; rfl

theorem performAll_restrict (setting : Option Text) (c : Console) (es : List Event) :
    (c.restrict setting).performAll setting es =
      (c.performAll Log.verbose es).restrict setting := by
  simp only [performAll_eq, restrict, List.filter_append, List.filter_filter,
    Event.isWritten_eq setting]

theorem performAll_withSeparator (setting : Option Text) (separator : Text) (c : Console)
    (es : List Event) :
    (c.withSeparator separator).performAll setting (es.map (Event.withSeparator separator)) =
      (c.performAll setting es).withSeparator separator := by
  simp only [performAll_eq, withSeparator, List.flatMap_map, List.filter_map, List.map_append,
    Event.output_withSeparator, Function.comp_def, Event.isWritten_withSeparator]

end Console

namespace Session

def withSeparator (separator : Text) (s : Session) : Session :=
  { s with separator }

def Step.withSeparator (separator : Text) (t : Step) : Step where
  isShown := t.isShown
  events  := t.events.map (Event.withSeparator separator)
  session := t.session.withSeparator separator

theorem map_withSeparator_receive (separator : Text) (m : Hex.Mode) (l : Text) :
    (receive m l).map (Event.withSeparator separator) = receive m l := by
  rw [receive]
  split <;> rfl

theorem map_withSeparator_present (separator separator' allowed t : Text) (v : Verdict) :
    (present separator allowed t v).map (Event.withSeparator separator') =
      present separator' allowed t v := by
  rw [present, present]
  cases Log.Notice.ofVerdict? allowed v <;> cases v.isShown <;> rfl

theorem line_withSeparator (separator : Text) (s : Session) (l : Text) :
    (s.withSeparator separator).line l = (s.line l).withSeparator separator := by
  cases h : s.decoder.decode (Text.chomp l)
  case error fault =>
    have h' : (s.withSeparator separator).decoder.decode (Text.chomp l) = .error fault := h
    rw [line_of_error h, line_of_error h', Step.withSeparator, List.map_append,
      map_withSeparator_receive]
    rfl
  case ok d =>
    have h' : (s.withSeparator separator).decoder.decode (Text.chomp l) = .ok d := h
    rw [line_of_ok h, line_of_ok h', Step.withSeparator, List.map_append,
      map_withSeparator_receive, map_withSeparator_present]
    rfl

theorem finish_withSeparator (separator : Text) (s : Session) :
    (s.withSeparator separator).finish = s.finish.withSeparator separator := by
  simp only [finish, withSeparator, Step.withSeparator, apply_ite (List.map _)]
  rfl

-- Nothing that a session does depends on its separator, and it goes nowhere but above the frames.
theorem act_withSeparator (separator : Text) (s : Session) (a : Action) :
    (s.withSeparator separator).act a = (s.act a).withSeparator separator := by
  cases a
  case line l => exact line_withSeparator separator s l
  case finish => exact finish_withSeparator separator s

end Session

namespace Process

def withoutRecords (p : Process) : Process :=
  { p with console := p.console.withoutRecords }

def restrict (setting : Option Text) (p : Process) : Process :=
  { p with console := p.console.restrict setting }

def withSeparator (separator : Text) (p : Process) : Process where
  session := p.session.withSeparator separator
  answers := p.answers
  console := p.console.withSeparator separator

def append (es : List Event) (p : Process) : Process :=
  { p with console := { p.console with written := p.console.written ++ es } }

theorem append_nil (p : Process) : p.append [] = p := by
  rw [append, List.append_nil]

theorem perform_eq_append (h : es.flatMap Event.output = []) (setting : Option Text)
    (p : Process) : p.perform setting es = p.append (es.filter (·.isWritten setting)) := by
  rw [perform, Console.performAll_eq, h, List.append_nil, append]

theorem perform_withSeparator (setting : Option Text) (separator : Text) (p : Process)
    (es : List Event) :
    (p.withSeparator separator).perform setting (es.map (Event.withSeparator separator)) =
      (p.perform setting es).withSeparator separator := by
  simp only [perform, withSeparator, Console.performAll_withSeparator]

theorem withoutRecords_restrict (setting : Option Text) (p : Process) :
    (p.restrict setting).withoutRecords = p.withoutRecords := by
  rw [withoutRecords, restrict, Console.withoutRecords_restrict]
  rfl

theorem act_restrict (setting : Option Text) (p : Process) (a : Session.Action) :
    (p.restrict setting).act setting a = (p.act Log.verbose a).restrict setting := by
  simp only [act, restrict, Console.performAll_restrict]

theorem run_restrict (setting : Option Text) (p : Process) (as : List Session.Action) :
    (p.restrict setting).run setting as = (p.run Log.verbose as).restrict setting := by
  induction as generalizing p
  case nil          => rfl
  case cons a as hi => rw [run, List.foldl_cons, act_restrict]; exact hi _

theorem act_withSeparator (setting : Option Text) (separator : Text) (p : Process)
    (a : Session.Action) :
    (p.withSeparator separator).act setting a = (p.act setting a).withSeparator separator := by
  simp only [act, withSeparator, Session.act_withSeparator, Session.Step.withSeparator,
    Console.performAll_withSeparator]

theorem run_withSeparator (setting : Option Text) (separator : Text) (p : Process)
    (as : List Session.Action) :
    (p.withSeparator separator).run setting as = (p.run setting as).withSeparator separator := by
  induction as generalizing p
  case nil          => rfl
  case cons a as hi => rw [run, List.foldl_cons, act_withSeparator]; exact hi _

-- Runs that differ in the log setting alone. It has no say in anything but the records, and each
-- record that it lets through stands where it stands if all of them are let through.
structure LogApart (run : Option Text → Except ε Process) : Prop where
  rest : ∀ setting setting',
    (run setting).map withoutRecords = (run setting').map withoutRecords
  records : ∀ setting, run setting = (run Log.verbose).map (restrict setting)

theorem LogApart.of_restrict {run : Option Text → Except ε Process}
    (h : ∀ setting, run setting = (run Log.verbose).map (restrict setting)) : LogApart run where
  records := h
  rest := by
    have hr setting : (run setting).map withoutRecords = (run Log.verbose).map withoutRecords := by
      rw [h setting]
      cases run Log.verbose
      case error => rfl
      case ok p  => exact congrArg Except.ok <| withoutRecords_restrict setting p
    exact fun setting setting' => (hr setting).trans (hr setting').symm

end Process
end FrameFilter
