import FrameFilter.Proofs.Account.Counters
import FrameFilter.Proofs.Filter.Run
import FrameFilter.Proofs.Hex.Decoder
import FrameFilter.Proofs.Hex.Line
import FrameFilter.Proofs.Session.Line

namespace FrameFilter.Session

-- A frame as one line of input.
def encodedLine (text : Text) (e : Text.Terminator) : Text :=
  Hex.writeText text ++ e.text

def encodedLines (input : List (Text × Text.Terminator)) : List Text :=
  input.map fun (text, e) => encodedLine text e

variable {s : Session}

theorem chomp_encodedLine (text : Text) (e : Text.Terminator) :
    Text.chomp (encodedLine text e) = Hex.writeText text :=
  Hex.chomp_write ..

theorem decode_encodedLine (hs : s.decoder = .empty m) (text : Text) (e : Text.Terminator) :
    s.decoder.decode (Text.chomp (encodedLine text e)) = .ok (text, s.decoder) := by
  have h := Hex.Decoder.decode_of_ok (Hex.read_write s.decoder.mode (Utf8.encode text))
  rw [chomp_encodedLine, Hex.writeText, h, hs, Hex.Decoder.empty, Utf8.Decoder.feed_encode]

-- Between encoded lines nothing is held back, so each of them is judged as the frame that it is.
theorem line_encodedLine (hs : s.decoder = .empty m) (text : Text) (e : Text.Terminator) :
    s.line (encodedLine text e) = {
      isShown := some (s.filter.judge (.ofText text)).1.isShown
      events  := .echo (Hex.writeText text)
        :: present s.separator s.filter.allowed text (s.filter.judge (.ofText text)).1
      session := { s with
        filter   := (s.filter.judge (.ofText text)).2
        counters := s.counters.addLine.addVerdict (s.filter.judge (.ofText text)).1 } } := by
  have hr : receive s.decoder.mode (Hex.writeText text) = [.echo (Hex.writeText text)] := by
    simp [receive, Hex.writeText, Hex.drops_write]
  rw [line_of_ok (decode_encodedLine hs text e), chomp_encodedLine, hr]
  rfl

theorem after_encodedLines (hs : s.decoder = .empty m) (input : List (Text × Text.Terminator)) :
    s.after ((encodedLines input).map .line) = { s with
      filter   := s.filter.after (input.map (·.1))
      counters := s.counters.addVerdicts (s.filter.verdicts (input.map (·.1))) } := by
  induction input generalizing s
  case nil             => rfl
  case cons l input hi =>
    rw [encodedLines, List.map_cons, List.map_cons, after_cons, act, line_encodedLine hs]
    exact hi hs

theorem events_encodedLines (hs : s.decoder = .empty m) (input : List (Text × Text.Terminator)) :
    s.events ((encodedLines input).map .line) =
      ((input.map (·.1)).zip (s.filter.verdicts (input.map (·.1)))).flatMap fun (t, v) =>
        .echo (Hex.writeText t) :: present s.separator s.filter.allowed t v := by
  induction input generalizing s
  case nil             => rfl
  case cons l input hi =>
    have hl := line_encodedLine hs l.1 l.2
    have hi := hi (s := (s.line (encodedLine l.1 l.2)).session) (by rw [hl]; exact hs)
    simp only [hl, Filter.judge_allowed] at hi
    rw [encodedLines, List.map_cons, List.map_cons, events_cons, act, hl]
    exact congrArg _ hi

theorem output_encodedLines (hs : s.decoder = .empty m) (input : List (Text × Text.Terminator)) :
    s.output ((encodedLines input).map .line) =
      (input.map (·.1)).flatMap (Hex.writeText · ++ ['\n']) := by
  have hz := List.map_fst_zip (Nat.le_of_eq (s.filter.length_verdicts (input.map (·.1))).symm)
  rw [output, events_encodedLines hs, List.flatMap_assoc]
  simp only [List.flatMap_cons, flatMap_output_present, List.append_nil, Event.output]
  rw [← List.flatMap_map Prod.fst (Hex.writeText · ++ ['\n']), hz]

theorem diagnostics_encodedLines (hs : s.decoder = .empty m) (time : Text)
    (input : List (Text × Text.Terminator)) :
    s.diagnostics none time ((encodedLines input).map .line) =
      (((input.map (·.1)).zip (s.filter.verdicts (input.map (·.1)))).filter (·.2.isShown)).flatMap
        fun (t, _) => s.separator ++ '\n' :: t ++ ['\n'] := by
  rw [diagnostics, events_encodedLines hs, List.flatMap_assoc, flatMap_filter]
  simp only [List.flatMap_cons, flatMap_diagnostics_present Log.terse_none, Event.diagnostics,
    List.nil_append]

theorem stream_encodedLines (settings : Settings) (supplied : Option Filter) (time : Text)
    (input : List (Text × Text.Terminator)) :
    let filter   := supplied.getD (.fresh settings.allowed)
    let texts    := input.map (·.1)
    let verdicts := filter.verdicts texts
    let s        := join settings filter
    let actions  := stream (encodedLines input)
    s.output actions = texts.flatMap (Hex.writeText · ++ ['\n']) ∧
      s.diagnostics none time actions =
        ((texts.zip verdicts).filter (·.2.isShown)).flatMap
          (fun (t, _) => settings.separator ++ '\n' :: t ++ ['\n']) ∧
      (s.after actions).filter = filter.after texts ∧
      (s.after actions).counters = {
        read        := input.length
        shown       := verdicts.countP (·.isShown)
        hidden      := verdicts.countP (!·.isShown)
        undecodable := 0
        reasons     := .ofList (verdicts.map (·.reason))
        pending     := (filter.after texts).pending.size } ∧
      ∀ r, (s.after actions).counters.reasons.count r = (verdicts.map (·.reason)).count r := by
  intro filter texts verdicts s actions
  have hs : s.decoder = .empty settings.mode := rfl
  have hl : s.after ((encodedLines input).map .line) = { s with
      filter   := filter.after texts
      counters := s.counters.addVerdicts verdicts } := after_encodedLines hs input
  have hf : (s.after ((encodedLines input).map .line)).decoder = .empty settings.mode := by
    rw [hl, hs]
  have ha := after_stream s (encodedLines input)
  rw [finish_of_empty hf, hl, Counters.addVerdicts_eq] at ha
  refine ⟨?_, ?_, ?_, ?_, ?_⟩
  case refine_1 => rw [output_stream, output_encodedLines hs]
  case refine_2 =>
    rw [diagnostics_stream, diagnostics_encodedLines hs, finish_of_empty hf]
    exact List.append_nil _
  case refine_3 => rw [ha]
  case refine_4 =>
    rw [ha]
    have hn : verdicts.length = input.length := by simp [verdicts, texts, Filter.length_verdicts]
    simp [s, join, Counters.zero, Counters.setPending, Tally.ofList, hn]
  case refine_5 =>
    intro r
    rw [ha]
    exact Tally.count_ofList _ r

end FrameFilter.Session
