import FrameFilter.Filter.Basic
import FrameFilter.Hex.Decoder
import FrameFilter.Log.Notice
import FrameFilter.Text.Newline

namespace FrameFilter

structure Settings where
  allowed   : Text     := "/api".toList
  separator : Text     := "===================".toList
  mode      : Hex.Mode := .lenient

-- What a session does to the world. Lines are echoed on the output, frames are displayed on the
-- diagnostic stream, and the log shares that stream.
inductive Event where
  | echo (line : Text)
  | display (separator text : Text)
  | log (notice : Log.Notice)

namespace Event

def output : Event → Text
  | echo l => l ++ ['\n']
  | _      => []

def diagnostics (setting : Option Text) (time : Text) : Event → Text
  | echo _      => []
  | display s t => s ++ '\n' :: t ++ ['\n']
  | log n       => if n.isAdmitted setting then n.record time else []

end Event

-- The treatment of one stream of lines. The filter may have seen other streams before, and may go
-- on to others afterwards.
structure Session where
  separator : Text
  decoder   : Hex.Decoder
  filter    : Filter
  counters  : Counters

namespace Session

-- The filter's own allowed text counts, not the one of the settings.
def join (settings : Settings) (filter : Filter) : Session where
  separator := settings.separator
  decoder   := .empty settings.mode
  filter    := filter
  counters  := .zero

def start (settings : Settings) : Session :=
  join settings (.fresh settings.allowed)

-- What can happen to a session.
inductive Action where
  | line (text : Text)
  | finish

-- The outcome of an action. Only a line that could be decoded is shown or not shown.
structure Step where
  isShown : Option Bool
  events  : List Event
  session : Session

-- The events that precede decoding: every line is echoed, whatever becomes of it.
def receive (mode : Hex.Mode) (line : Text) : List Event :=
  .echo line :: if Hex.drops mode line then [.log (.droppedDigit line.length)] else []

def present (separator allowed text : Text) (v : Verdict) : List Event :=
  ((Log.Notice.ofVerdict? allowed v).map Event.log).toList
    ++ if v.isShown then [.display separator text] else []

def line (s : Session) (text : Text) : Step :=
  let line := Text.chomp text
  let received := receive s.decoder.mode line
  let counters := s.counters.addLine
  match s.decoder.decode line with
  | .error fault =>
    { isShown := none
      events  := received ++ [.log (.undecodableLine counters.read fault)]
      session := { s with counters := counters.addUndecodable } }
  | .ok (text, decoder) =>
    let (verdict, filter) := s.filter.judge (.ofText text)
    { isShown := some verdict.isShown
      events  := received ++ present s.separator s.filter.allowed text verdict
      session := { s with decoder, filter, counters := counters.addVerdict verdict } }

-- Ends the stream. A character that is still held back is not displayed any more, and the pending
-- tags are those that the filter has now.
def finish (s : Session) : Step :=
  let (rest, decoder) := s.decoder.flush
  let counters := s.counters.setPending s.filter.pending.size
  { isShown := none
    events  := if rest.isEmpty then [] else [.log (.discarded rest.length)]
    session := { s with decoder, counters } }

def act (s : Session) : Action → Step
  | .line t => s.line t
  | .finish => s.finish

end Session
end FrameFilter
