import FrameFilter.Proofs.Hex.Refusal
import FrameFilter.Proofs.Session.Console
import FrameFilter.Proofs.Session.Refused
import FrameFilter.Proofs.Session.Splitting

namespace FrameFilter

namespace Session

def withMode (m : Hex.Mode) (s : Session) : Session :=
  { s with decoder := { s.decoder with mode := m } }

def Step.withMode (m : Hex.Mode) (t : Step) : Step :=
  { t with session := t.session.withMode m }

variable {s : Session}

theorem receive_of_isClean (m : Hex.Mode) (h : Hex.IsClean l) : receive m l = [.echo l] := by
  simp [receive, Hex.drops_of_isClean m h]

-- On a line of hex the mode has no say.
theorem line_withMode (m : Hex.Mode) (h : isHex l) :
    (s.withMode m).line l = (s.line l).withMode m := by
  have hc : Hex.IsClean (Text.chomp l) := of_decide_eq_true h
  have hd := Hex.Decoder.decode_of_ok <| Hex.read_of_isClean s.decoder.mode hc
  have hd' := Hex.Decoder.decode_of_ok <| Hex.read_of_isClean (s.withMode m).decoder.mode hc
  rw [line_of_ok hd, line_of_ok hd', Step.withMode, receive_of_isClean _ hc,
    receive_of_isClean _ hc]
  rfl

theorem finish_withMode (m : Hex.Mode) (s : Session) :
    (s.withMode m).finish = s.finish.withMode m :=
  rfl

-- A strict session that has counted no undecodable line has been given nothing but hex.
theorem isHex_of_undecodable_eq_zero (settings : Settings) (filter : Filter)
    (hm : settings.mode = .strict)
    (h : ((join settings filter).after (stream lines)).counters.undecodable = 0) :
    ∀ l ∈ lines, isHex l := by
  intro l hl
  rw [undecodable_join_stream, hm, List.countP_eq_zero] at h
  cases hr : Hex.read .strict (Text.chomp l)
  case ok    => exact decide_eq_true <| Hex.isClean_of_read_strict hr
  case error => exact absurd (by rw [hr]; rfl) <| h l hl

end Session

namespace Process

open Session (stream isHex)

def withMode (m : Hex.Mode) (p : Process) : Process :=
  { p with session := p.session.withMode m }

theorem act_withMode (setting : Option Text) (m : Hex.Mode) (p : Process)
    (h : (p.session.withMode m).act a = (p.session.act a).withMode m) :
    (p.withMode m).act setting a = (p.act setting a).withMode m := by
  simp only [act, withMode, h, Session.Step.withMode]

theorem run_stream_withMode (setting : Option Text) (m : Hex.Mode) (p : Process)
    (h : ∀ l ∈ lines, isHex l) :
    (p.withMode m).run setting (stream lines) = (p.run setting (stream lines)).withMode m := by
  induction lines generalizing p
  case nil             => exact act_withMode setting m p <| p.session.finish_withMode m
  case cons l lines hi =>
    have ⟨hl, hr⟩ := List.forall_mem_cons.mp h
    have ha := act_withMode (a := .line l) setting m p <| Session.line_withMode m hl
    have hc (p : Process) : p.run setting (stream (l :: lines)) =
      (p.act setting (.line l)).run setting (stream lines) := rfl
    rw [hc, hc, ha, hi _ hr]

end Process

namespace Session

-- Strict reading accepts complete pairs of digits and nothing else, and has a reason for each line
-- that it refuses. As long as it refuses none, lenient reading makes no difference to anything.
theorem strict_run_eq_lenient_run :
    (∀ t, (∃ bs, Hex.read .strict t = .ok bs) ↔ Hex.IsClean t) ∧
      (∀ t bs, Hex.read .strict t = .ok bs → Hex.read .lenient t = .ok bs) ∧
      (∀ t fault, Hex.read .strict t = .error fault ↔ Hex.Refusal t fault) ∧
      (∀ t fault, Hex.read .strict t = .error fault →
        ("odd-length".toList <+: fault.message ↔ t.length % 2 = 1)) ∧
      ∀ (settings : Settings) (filter : Filter) (lines : List Text) (setting : Option Text),
        let p (m : Hex.Mode) :=
          (Process.join { settings with mode := m } filter).run setting (stream lines)
        (p .strict).session.counters.undecodable = 0 →
          (p .lenient).console = (p .strict).console ∧
            (p .lenient).answers = (p .strict).answers ∧
            (p .lenient).session.counters = (p .strict).session.counters ∧
            (p .lenient).session.filter = (p .strict).session.filter := by
  refine ⟨fun _ => Hex.exists_read_strict_eq_ok_iff, fun _ _ => Hex.read_lenient_of_read_strict,
    fun _ _ => Hex.read_strict_eq_error_iff,
    fun _ _ h => (Hex.read_strict_eq_error_iff.mp h).isPrefixOf_message, ?run⟩
  case run =>
    intro settings filter lines setting p hu
    let start : Process := .join { settings with mode := .strict } filter
    have hs : p .strict = _ := Process.run_eq setting start (stream lines)
    rw [hs] at hu
    have hh := isHex_of_undecodable_eq_zero { settings with mode := .strict } filter rfl hu
    have hp : p .lenient = (p .strict).withMode .lenient :=
      start.run_stream_withMode setting .lenient hh
    rw [hp]
    exact ⟨rfl, rfl, rfl, rfl⟩

-- A character is spread over two lines of digits of both cases. A blank between two digits is
-- refused, and so is a line of one digit too many, whatever else is wrong with it.
theorem strict_run_eq_lenient_run_mixed_case :
    let lines := ["3120740aE2".toList, "82aC\r\n".toList]
    let p (m : Hex.Mode) := (Process.join { mode := m } (.fresh "/".toList)).run
      (some "debug".toList) (stream lines)
    (p .lenient).console = (p .strict).console ∧ (p .lenient).answers = (p .strict).answers ∧
      Hex.read .strict "0g ".toList = .error (.oddLength 3) ∧
      Hex.read .strict "0 0g".toList = .error (.badDigit ' ') := by
  intro lines p
  have ⟨_, _, hr, _, hp⟩ := strict_run_eq_lenient_run
  have ⟨hc, ha, _⟩ := hp {} (.fresh "/".toList) lines (some "debug".toList) (by decide)
  have ht : "0 0g".toList = ['0'] ++ ' ' :: "0g".toList := rfl
  exact ⟨hc, ha, (hr _ _).mpr <| .oddLength rfl,
    (hr _ _).mpr <| .badDigit rfl ht (List.forall_mem_singleton.mpr (by decide)) (by decide)⟩

end Session
end FrameFilter
