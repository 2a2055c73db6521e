import FrameFilter.Proofs.Frame.Header
import FrameFilter.Proofs.Frame.Message
import FrameFilter.Proofs.Hex.Decoder
import FrameFilter.Proofs.Session.Line

namespace FrameFilter.Session

-- The states that a session can come into. Between two actions its filter may be used elsewhere.
inductive Reachable : Session → Prop
  | join (settings : Settings) (filter : Filter) : Reachable (join settings filter)
  | act (hs : Reachable s) (a : Action) : Reachable (s.act a).session
  | share (hs : Reachable s) (filter : Filter) : Reachable { s with filter }

variable {s : Session}

theorem sound_line (hs : s.decoder.utf8.Sound) (text : Text) :
    (s.line text).session.decoder.utf8.Sound := by
  cases h : Hex.read s.decoder.mode (Text.chomp text)
  case error => rwa [line_of_error <| Hex.Decoder.decode_of_error h]
  case ok    =>
    rw [line_of_ok <| Hex.Decoder.decode_of_ok h]
    exact hs.feed

theorem Reachable.sound (hs : s.Reachable) : s.decoder.utf8.Sound := by
  induction hs
  case join         => exact .idle
  case share hi     => exact hi
  case act a hi     =>
    cases a
    case line text => exact sound_line hi text
    case finish    => exact .idle

-- What is held back comes out in front of a line that starts with an ASCII octet, and nothing else
-- about the line changes.
theorem decode_after_held (hd : s.decoder.utf8.Sound) (hh : s.decoder.utf8.held ≠ [])
    (hr : Hex.read s.decoder.mode l = .ok (b :: bs)) (hb : b < 0x80) :
    ∃ n t d, (Hex.Decoder.empty s.decoder.mode).decode l = .ok (t, d) ∧
      s.decoder.decode l = .ok (List.replicate (n + 1) Utf8.replacement ++ t, d) := by
  have ⟨n, hn⟩ := Utf8.Decoder.exists_release_eq_replicate hh
  have hf := hd.feed_cons_of_lt hb bs
  refine ⟨n, _, _, Hex.Decoder.decode_of_ok hr, ?_⟩
  rw [Hex.Decoder.decode_of_ok hr, hf, hn]
  rfl

theorem judge_replicate_replacement (f : Filter) (n : Nat) (t : Text) :
    ∃ fault, f.judge (.ofText (List.replicate (n + 1) Utf8.replacement ++ t)) =
      (.malformed fault, f) := by
  rw [List.replicate_succ, List.cons_append]
  have ⟨fault, h⟩ := Frame.header_cons_replacement (List.replicate n Utf8.replacement ++ t)
  exact ⟨fault, by simp [Filter.judge, Frame.message_of_error h]⟩

-- An unfinished character takes the next line with it, even if that line alone would be a request
-- or a response that matters, but no further line.
theorem line_after_held (hs : s.Reachable) (hh : s.decoder.utf8.held ≠ [])
    (hr : Hex.read s.decoder.mode (Text.chomp l) = .ok (b :: bs)) (hb : b < 0x80) :
    ∃ n t d fault,
      let text := List.replicate (n + 1) Utf8.replacement ++ t
      (Hex.Decoder.empty s.decoder.mode).decode (Text.chomp l) = .ok (t, d) ∧
      s.decoder.decode (Text.chomp l) = .ok (text, d) ∧
      s.filter.judge (.ofText text) = (.malformed fault, s.filter) ∧
      s.line l = {
        isShown := some true
        events  := receive s.decoder.mode (Text.chomp l)
          ++ [.log (.malformedFrame fault), .display s.separator text]
        session := { s with
          decoder  := d
          counters := s.counters.addLine.addVerdict (.malformed fault) } } ∧
      ({ s with decoder := .empty s.decoder.mode }.line l).session.decoder = d := by
  have ⟨n, t, d, he, hd⟩ := decode_after_held hs.sound hh hr hb
  have ⟨fault, hj⟩ := judge_replicate_replacement s.filter n t
  refine ⟨n, t, d, fault, he, hd, hj, ?_, ?_⟩
  case refine_1 => rw [line_of_ok hd, hj]; rfl
  case refine_2 => rw [line_of_ok he]

-- The line is a request that would have to be hidden, but the first octet of a character is held.
theorem line_after_held_request :
    let s := ((start {}).line "c3".toList).session
    let l := "3120740a474554202f78".toList
    (Frame.ofText "1 t\nGET /x".toList).Suppresses s.filter.allowed "t".toList ∧
      Hex.read s.decoder.mode (Text.chomp l) = .ok (Utf8.encode "1 t\nGET /x".toList) ∧
      (s.line l).isShown = some true ∧ "t".toList ∉ (s.line l).session.filter.pending := by
  intro s l
  have hs : s.Reachable := .act (.join {} (.fresh _)) (.line "c3".toList)
  have hr : Hex.read s.decoder.mode (Text.chomp l) = .ok (Utf8.encode "1 t\nGET /x".toList) := by
    decide
  have ⟨n, t, d, fault, _, _, _, hl, _⟩ := line_after_held hs (by decide) hr (by decide)
  have hp : "t".toList ∉ s.filter.pending := by decide
  exact ⟨by decide, hr, by rw [hl], by rw [hl]; exact hp⟩

end FrameFilter.Session
