import FrameFilter.Session.Run

namespace FrameFilter

theorem flatMap_filter (p : α → Bool) (g : α → List β) (as : List α) :
    (as.filter p).flatMap g = as.flatMap fun a => if p a then g a else [] := by
  induction as
  case nil          => rfl
  case cons a as hi =>
    cases h : p a
    case false => rw [List.filter_cons_of_neg (ne_true_of_eq_false h), hi]; simp [h]
    case true  => rw [List.filter_cons_of_pos h, List.flatMap_cons, hi]; simp [h]

theorem Log.Notice.level_of_ofVerdict? (h : ofVerdict? allowed v = some n) : n.level = .debug := by
  cases v <;> cases h <;> rfl

-- Under these settings no logger writes details.
def Log.Terse (setting : Option Text) : Prop :=
  ∀ s : Source, Level.debug.severity < (s.threshold setting).effective.severity

theorem Log.terse_none : Terse none := by
  intro s
  cases s <;> decide

theorem Log.Notice.not_isAdmitted_of_debug {n : Log.Notice} (ht : Terse setting)
    (h : n.level = .debug) : n.isAdmitted setting = false := by
  rw [isAdmitted, h, Level.admits]
  exact decide_eq_false <| Nat.not_le_of_lt <| ht n.source

-- The frame that an event shows, with the separator above it.
def Event.displayed? : Event → Option (Text × Text)
  | display s t => some (s, t)
  | _           => none

namespace Session

-- What a run of actions writes to the output and to the diagnostic stream.
def output (s : Session) (as : List Action) : Text :=
  (s.events as).flatMap Event.output

def diagnostics (s : Session) (setting : Option Text) (time : Text) (as : List Action) : Text :=
  (s.events as).flatMap (Event.diagnostics setting time)

def Step.displayed (t : Step) : List (Text × Text) :=
  t.events.filterMap Event.displayed?

def displayed (s : Session) (as : List Action) : List (Text × Text) :=
  (s.events as).filterMap Event.displayed?

variable {s : Session}

theorem line_of_ok (h : s.decoder.decode (Text.chomp text) = .ok (t, d)) :
    s.line text = {
      isShown := some (s.filter.judge (.ofText t)).1.isShown
      events  := receive s.decoder.mode (Text.chomp text)
        ++ present s.separator s.filter.allowed t (s.filter.judge (.ofText t)).1
      session := {
        separator := s.separator
        decoder   := d
        filter    := (s.filter.judge (.ofText t)).2
        counters  := s.counters.addLine.addVerdict (s.filter.judge (.ofText t)).1 } } := by
  simp [line, h]

theorem line_of_error (h : s.decoder.decode (Text.chomp text) = .error fault) :
    s.line text = {
      isShown := none
      events  := receive s.decoder.mode (Text.chomp text)
        ++ [.log (.undecodableLine s.counters.addLine.read fault)]
      session := { s with counters := s.counters.addLine.addUndecodable } } := by
  simp [line, h]

theorem after_cons : s.after (a :: as) = (s.act a).session.after as :=
  rfl

theorem events_cons : s.events (a :: as) = (s.act a).events ++ (s.act a).session.events as :=
  rfl

theorem output_append : s.output (as ++ bs) = s.output as ++ (s.after as).output bs := by
  simp [output, events_append]

theorem diagnostics_cons : s.diagnostics setting time (a :: as) =
    (s.act a).events.flatMap (Event.diagnostics setting time)
      ++ (s.act a).session.diagnostics setting time as := by
  simp [diagnostics, events_cons]

theorem diagnostics_append : s.diagnostics setting time (as ++ bs) =
    s.diagnostics setting time as ++ (s.after as).diagnostics setting time bs := by
  simp [diagnostics, events_append]

theorem getElem?_trace (h : as[i]? = some a) :
    (s.trace as)[i]? = some ((s.after (as.take i)).act a) := by
  induction as generalizing s i
  case nil          => simp at h
  case cons b as hi =>
    cases i
    case zero   => simp at h; rw [h]; rfl
    case succ i => exact hi h

theorem output_cons : s.output (a :: as) =
    (s.act a).events.flatMap Event.output ++ (s.act a).session.output as := by
  simp [output, events_cons]

theorem displayed_cons :
    s.displayed (a :: as) = (s.act a).displayed ++ (s.act a).session.displayed as := by
  simp [displayed, Step.displayed, events_cons]

theorem displayed_append :
    s.displayed (as ++ bs) = s.displayed as ++ (s.after as).displayed bs := by
  simp [displayed, events_append]

theorem line_read (s : Session) (l : Text) :
    (s.line l).session.counters.read = s.counters.read + 1 := by
  cases h : s.decoder.decode (Text.chomp l)
  case error => rw [line_of_error h]; rfl
  case ok    => rw [line_of_ok h]; rfl

theorem read_after_lines (s : Session) (lines : List Text) :
    (s.after (lines.map .line)).counters.read = s.counters.read + lines.length := by
  induction lines generalizing s
  case nil             => rfl
  case cons l lines hi =>
    have hl := line_read s l
    rw [List.map_cons, after_cons, act, hi, hl, List.length_cons]
    omega

theorem after_stream (s : Session) (lines : List Text) :
    s.after (stream lines) = (s.after (lines.map .line)).finish.session :=
  after_append

-- The end of a stream may be logged, but it puts out nothing.
theorem output_stream (s : Session) (lines : List Text) :
    s.output (stream lines) = s.output (lines.map .line) := by
  rw [stream, output_append]
  simp only [output, events, trace, act, finish]
  split <;> simp [Event.output]

theorem diagnostics_stream (s : Session) (lines : List Text) :
    s.diagnostics setting time (stream lines) = s.diagnostics setting time (lines.map .line)
      ++ (s.after (lines.map .line)).finish.events.flatMap (Event.diagnostics setting time) := by
  rw [stream, diagnostics_append, diagnostics_cons]
  exact congrArg _ <| List.append_nil _

theorem displayed_finish (s : Session) : s.finish.displayed = [] := by
  simp only [Step.displayed, finish]
  split <;> rfl

theorem displayed_stream (s : Session) (lines : List Text) :
    s.displayed (stream lines) = s.displayed (lines.map .line) := by
  rw [stream, displayed_append, displayed_cons, act, displayed_finish]
  exact List.append_nil _

theorem finish_of_empty (h : s.decoder = .empty m) :
    s.finish = {
      isShown := none
      events  := []
      session := { s with counters := s.counters.setPending s.filter.pending.size } } := by
  have hf : s.decoder.flush = ([], s.decoder) := by rw [h]; rfl
  simp [finish, hf]

theorem flatMap_output_present (separator allowed t : Text) (v : Verdict) :
    (present separator allowed t v).flatMap Event.output = [] := by
  rw [present]
  cases Log.Notice.ofVerdict? allowed v <;> cases v.isShown <;> rfl

theorem flatMap_output_receive (m : Hex.Mode) (l : Text) :
    (receive m l).flatMap Event.output = l ++ ['\n'] := by
  rw [receive]
  split <;> simp [Event.output]

-- Every line is put out without its terminator, whatever becomes of it.
theorem flatMap_output_line (s : Session) (l : Text) :
    (s.line l).events.flatMap Event.output = Text.chomp l ++ ['\n'] := by
  cases h : s.decoder.decode (Text.chomp l)
  case error => simp [line_of_error h, flatMap_output_receive, Event.output]
  case ok    => simp [line_of_ok h, flatMap_output_receive, flatMap_output_present]

theorem output_lines (s : Session) (lines : List Text) :
    s.output (lines.map .line) = lines.flatMap (Text.chomp · ++ ['\n']) := by
  induction lines generalizing s
  case nil             => rfl
  case cons l lines hi => rw [List.map_cons, output_cons, act, flatMap_output_line, hi]; rfl

theorem filterMap_displayed_receive (m : Hex.Mode) (l : Text) :
    (receive m l).filterMap Event.displayed? = [] := by
  rw [receive]
  split <;> rfl

theorem filterMap_displayed_present (separator allowed t : Text) (v : Verdict) :
    (present separator allowed t v).filterMap Event.displayed? =
      if v.isShown then [(separator, t)] else [] := by
  rw [present]
  cases Log.Notice.ofVerdict? allowed v <;> cases v.isShown <;> rfl

theorem displayed_line_of_ok (h : s.decoder.decode (Text.chomp l) = .ok (t, d)) :
    (s.line l).displayed =
      if (s.filter.judge (.ofText t)).1.isShown then [(s.separator, t)] else [] := by
  rw [Step.displayed, line_of_ok h, List.filterMap_append, filterMap_displayed_receive,
    filterMap_displayed_present, List.nil_append]

theorem displayed_line_of_error (h : s.decoder.decode (Text.chomp l) = .error fault) :
    (s.line l).displayed = [] := by
  rw [Step.displayed, line_of_error h, List.filterMap_append, filterMap_displayed_receive]
  rfl

theorem flatMap_diagnostics_present (ht : Log.Terse setting)
    (separator allowed t time : Text) (v : Verdict) :
    (present separator allowed t v).flatMap (Event.diagnostics setting time) =
      if v.isShown then separator ++ '\n' :: t ++ ['\n'] else [] := by
  rw [present]
  cases h : Log.Notice.ofVerdict? allowed v
  case none   => cases v.isShown <;> simp [Event.diagnostics]
  case some n =>
    have hn := Log.Notice.not_isAdmitted_of_debug ht <| Log.Notice.level_of_ofVerdict? h
    cases v.isShown <;> simp [Event.diagnostics, hn]

end Session
end FrameFilter
