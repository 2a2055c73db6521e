import FrameFilter.Proofs.Account.Counters
import FrameFilter.Proofs.Hex.Decoder
import FrameFilter.Proofs.Session.Line

namespace FrameFilter.Session

-- What a line says, if it can be decoded.
def text? (s : Session) (l : Text) : Option Text :=
  (s.decoder.decode (Text.chomp l)).toOption.map (·.1)

def verdict? (s : Session) (l : Text) : Option Verdict :=
  (s.text? l).map fun t => (s.filter.judge (.ofText t)).1

def nextFilter (s : Session) (l : Text) : Filter :=
  ((s.text? l).map fun t => (s.filter.judge (.ofText t)).2).getD s.filter

def nextDecoder (s : Session) (l : Text) : Hex.Decoder :=
  ((s.decoder.decode (Text.chomp l)).toOption.map (·.2)).getD s.decoder

variable {s : Session}

theorem text?_of_ok (h : s.decoder.decode (Text.chomp l) = .ok (t, d)) : s.text? l = some t := by
  simp [text?, h, Except.toOption]

theorem text?_of_error (h : s.decoder.decode (Text.chomp l) = .error fault) :
    s.text? l = none := by
  simp [text?, h, Except.toOption]

theorem line_isShown (s : Session) (l : Text) :
    (s.line l).isShown = (s.verdict? l).map (·.isShown) := by
  cases h : s.decoder.decode (Text.chomp l)
  case error => rw [line_of_error h, verdict?, text?_of_error h]; rfl
  case ok    => rw [line_of_ok h, verdict?, text?_of_ok h]; rfl

theorem line_session (s : Session) (l : Text) :
    (s.line l).session = {
      separator := s.separator
      decoder   := s.nextDecoder l
      filter    := s.nextFilter l
      counters  := s.counters.addOutcome (s.verdict? l) } := by
  cases h : s.decoder.decode (Text.chomp l)
  case error =>
    rw [line_of_error h, nextDecoder, nextFilter, verdict?, text?_of_error h, h]
    rfl
  case ok =>
    rw [line_of_ok h, nextDecoder, nextFilter, verdict?, text?_of_ok h, h]
    rfl

theorem line_counters (s : Session) (l : Text) :
    (s.line l).session.counters = s.counters.addOutcome (s.verdict? l) :=
  congrArg counters <| line_session s l

theorem line_filter (s : Session) (l : Text) : (s.line l).session.filter = s.nextFilter l :=
  congrArg filter <| line_session s l

theorem line_mode (s : Session) (l : Text) :
    (s.line l).session.decoder.mode = s.decoder.mode := by
  cases h : Hex.read s.decoder.mode (Text.chomp l)
  case error => rw [line_of_error <| Hex.Decoder.decode_of_error h]
  case ok    => rw [line_of_ok <| Hex.Decoder.decode_of_ok h]

theorem line_separator (s : Session) (l : Text) : (s.line l).session.separator = s.separator := by
  rw [line_session]

theorem mode_after_lines (s : Session) (lines : List Text) :
    (s.after (lines.map .line)).decoder.mode = s.decoder.mode := by
  induction lines generalizing s
  case nil             => rfl
  case cons l lines hi => exact (hi _).trans <| line_mode s l

theorem separator_after_lines (s : Session) (lines : List Text) :
    (s.after (lines.map .line)).separator = s.separator := by
  induction lines generalizing s
  case nil             => rfl
  case cons l lines hi => exact (hi _).trans <| line_separator s l

theorem line_displayed (s : Session) (l : Text) :
    (s.line l).displayed =
      ((s.text? l).filter fun t => (s.filter.judge (.ofText t)).1.isShown).toList.map
        (s.separator, ·) := by
  cases h : s.decoder.decode (Text.chomp l)
  case error => rw [displayed_line_of_error h, text?_of_error h]; rfl
  case ok    =>
    rw [displayed_line_of_ok h, text?_of_ok h]
    split
    case isTrue hs  => simp [Option.filter, hs]
    case isFalse hs => simp [Option.filter, hs]

theorem length_displayed_line (s : Session) (l : Text) :
    (s.line l).displayed.length = if (s.line l).isShown = some true then 1 else 0 := by
  rw [line_displayed, line_isShown, verdict?]
  cases s.text? l
  case none   => rfl
  case some t => cases h : (s.filter.judge (.ofText t)).1.isShown <;> simp [Option.filter, h]

end FrameFilter.Session
