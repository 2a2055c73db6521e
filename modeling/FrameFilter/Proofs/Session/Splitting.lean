import FrameFilter.Proofs.Session.Outcome

namespace FrameFilter

namespace Counters

-- The account of two runs together, as far as it counts lines.
structure IsSum (c c₁ c₂ : Counters) : Prop where
  read        : c.read = c₁.read + c₂.read
  shown       : c.shown = c₁.shown + c₂.shown
  hidden      : c.hidden = c₁.hidden + c₂.hidden
  undecodable : c.undecodable = c₁.undecodable + c₂.undecodable
  reasons     : ∀ r, c.reasons.count r = c₁.reasons.count r + c₂.reasons.count r

variable {c c₁ c₂ : Counters}

theorem isSum_zero (c : Counters) : c.IsSum c .zero :=
  ⟨rfl, rfl, rfl, rfl, fun _ => rfl⟩

theorem IsSum.addOutcome (h : c.IsSum c₁ c₂) (v : Option Verdict) :
    (c.addOutcome v).IsSum c₁ (c₂.addOutcome v) where
  read        := by rw [read_addOutcome, read_addOutcome, h.read, Nat.add_assoc]
  shown       := by rw [shown_addOutcome, shown_addOutcome, h.shown, Nat.add_assoc]
  hidden      := by rw [hidden_addOutcome, hidden_addOutcome, h.hidden, Nat.add_assoc]
  undecodable := by
    rw [undecodable_addOutcome, undecodable_addOutcome, h.undecodable, Nat.add_assoc]
  reasons r   := by rw [count_addOutcome, count_addOutcome, h.reasons, Nat.add_assoc]

-- The pending tags are not a matter of the sum.
theorem IsSum.setPending (h : c.IsSum c₁ c₂) (m n : Nat) :
    (c.setPending m).IsSum c₁ (c₂.setPending n) :=
  ⟨h.read, h.shown, h.hidden, h.undecodable, h.reasons⟩

end Counters

namespace Session

-- The first session has come to where the second one starts, and has counted `before` on the way.
structure Continues (before : Counters) (s s' : Session) : Prop where
  separator : s.separator = s'.separator
  decoder   : s.decoder = s'.decoder
  filter    : s.filter = s'.filter
  counters  : s.counters.IsSum before s'.counters

variable {s s' : Session} {before : Counters}

theorem Continues.text?_eq (h : Continues before s s') (l : Text) : s.text? l = s'.text? l := by
  rw [text?, text?, h.decoder]

theorem Continues.verdict?_eq (h : Continues before s s') (l : Text) :
    s.verdict? l = s'.verdict? l := by
  rw [verdict?, verdict?, h.text?_eq, h.filter]

theorem Continues.line (h : Continues before s s') (l : Text) :
    Continues before (s.line l).session (s'.line l).session := by
  rw [line_session, line_session]
  exact {
    separator := h.separator
    decoder   := by simp only [nextDecoder, h.decoder]
    filter    := by simp only [nextFilter, h.text?_eq, h.filter]
    counters  := h.verdict?_eq l ▸ h.counters.addOutcome _ }

theorem Continues.finish (h : Continues before s s') :
    Continues before s.finish.session s'.finish.session where
  separator := h.separator
  decoder   := congrArg (·.flush.2) h.decoder
  filter    := h.filter
  counters  := h.counters.setPending _ _

theorem Continues.act (h : Continues before s s') :
    (a : Action) → Continues before (s.act a).session (s'.act a).session
  | .line l => h.line l
  | .finish => h.finish

theorem Continues.isShown_act (h : Continues before s s') (a : Action) :
    (s.act a).isShown = (s'.act a).isShown := by
  cases a
  case finish => rfl
  case line l => simp only [Session.act, line_isShown, h.verdict?_eq]

theorem Continues.displayed_act (h : Continues before s s') (a : Action) :
    (s.act a).displayed = (s'.act a).displayed := by
  cases a
  case finish => simp only [Session.act, displayed_finish]
  case line l => simp only [Session.act, line_displayed, h.text?_eq, h.filter, h.separator]

theorem Continues.after (h : Continues before s s') (as : List Action) :
    Continues before (s.after as) (s'.after as) := by
  induction as generalizing s s'
  case nil          => exact h
  case cons a as hi => exact hi <| h.act a

theorem Continues.isShown_trace (h : Continues before s s') (as : List Action) :
    (s.trace as).map (·.isShown) = (s'.trace as).map (·.isShown) := by
  induction as generalizing s s'
  case nil          => rfl
  case cons a as hi => exact congrArg₂ List.cons (h.isShown_act a) (hi <| h.act a)

theorem Continues.displayed_eq (h : Continues before s s') (as : List Action) :
    s.displayed as = s'.displayed as := by
  induction as generalizing s s'
  case nil          => rfl
  case cons a as hi => rw [displayed_cons, displayed_cons, h.displayed_act, hi <| h.act a]

theorem Continues.isShown_append (h : Continues before (s.after as) s') (bs : List Action) :
    (s.trace (as ++ bs)).map (·.isShown) =
      (s.trace as).map (·.isShown) ++ (s'.trace bs).map (·.isShown) := by
  rw [trace_append, List.map_append, h.isShown_trace]

theorem Continues.displayed_append (h : Continues before (s.after as) s') (bs : List Action) :
    s.displayed (as ++ bs) = s.displayed as ++ s'.displayed bs := by
  rw [Session.displayed_append, h.displayed_eq]

theorem Continues.after_append (h : Continues before (s.after as) s') (bs : List Action) :
    Continues before (s.after (as ++ bs)) (s'.after bs) :=
  Session.after_append (s := s) ▸ h.after bs

-- Whether a line is refused does not depend on the lines before it.
theorem undecodable_after_lines (s : Session) (lines : List Text) :
    (s.after (lines.map .line)).counters.undecodable =
      s.counters.undecodable
        + lines.countP fun l => !(Hex.read s.decoder.mode (Text.chomp l)).isOk := by
  induction lines generalizing s
  case nil             => rfl
  case cons l lines hi =>
    rw [List.map_cons, after_cons, Session.act, hi, line_mode, List.countP_cons]
    cases h : Hex.read s.decoder.mode (Text.chomp l)
    case error =>
      rw [line_of_error <| Hex.Decoder.decode_of_error h]
      exact Nat.succ_add_eq_add_succ ..
    case ok    => rw [line_of_ok <| Hex.Decoder.decode_of_ok h]; rfl

theorem undecodable_join_stream (settings : Settings) (filter : Filter) (lines : List Text) :
    ((join settings filter).after (stream lines)).counters.undecodable =
      lines.countP fun l => !(Hex.read settings.mode (Text.chomp l)).isOk := by
  rw [after_stream]
  exact (undecodable_after_lines (join settings filter) lines).trans <| Nat.zero_add _

theorem output_append_stream (s s' : Session) (as : List Action) (lines : List Text) :
    s.output (as ++ stream lines) = s.output as ++ s'.output (stream lines) := by
  rw [output_append, output_stream, output_stream, output_lines, output_lines]

-- At the end of a stream the pending tags are counted.
theorem pending_stream (s : Session) (lines : List Text) :
    (s.after (stream lines)).counters.pending =
      (s.after (stream lines)).filter.pending.size := by
  rw [after_stream]
  rfl

theorem Continues.pending_stream (h : Continues before (s.after as) s') (lines : List Text) :
    (s.after (as ++ stream lines)).counters.pending =
      (s'.after (stream lines)).counters.pending := by
  rw [Session.after_append, Session.pending_stream, Session.pending_stream,
    (h.after <| stream lines).filter]

-- After its end a session goes on like a new one with the same filter.
theorem continues_of_finish (settings : Settings) (hs : s.separator = settings.separator)
    (hm : s.decoder.mode = settings.mode) :
    Continues s.finish.session.counters s.finish.session (join settings s.finish.session.filter) :=
  ⟨hs, congrArg (Hex.Decoder.mk · .idle) hm, rfl, Counters.isSum_zero _⟩

-- Before its end it does so as well, unless the start of a character is held back.
theorem continues_of_held_eq_nil (settings : Settings) (hs : s.separator = settings.separator)
    (hm : s.decoder.mode = settings.mode) (hh : s.decoder.utf8.held = []) :
    Continues s.finish.session.counters s (join settings s.finish.session.filter) :=
  ⟨hs, Hex.Decoder.eq_empty_of_held_eq_nil hm hh, rfl, rfl, rfl, rfl, rfl, fun _ => rfl⟩

theorem stream_append (xs ys : List Text) : stream (xs ++ ys) = xs.map .line ++ stream ys := by
  simp [stream]

-- A stream can be cut in two, be it by a new session or by an end in the middle. Where the lines
-- simply go on, the start of a character that the first part leaves behind makes a difference.
theorem stream_split (settings : Settings) (filter : Filter) (xs ys : List Text) :
    let s := join settings filter
    let first := s.after (stream xs)
    let t := join settings first.filter
    let second := t.after (stream ys)
    let resumed := s.after (stream xs ++ stream ys)
    let whole := s.after (stream (xs ++ ys))
    (s.trace (stream xs ++ stream ys)).map (·.isShown) =
        (s.trace (stream xs)).map (·.isShown) ++ (t.trace (stream ys)).map (·.isShown) ∧
      s.output (stream xs ++ stream ys) = s.output (stream xs) ++ t.output (stream ys) ∧
      s.displayed (stream xs ++ stream ys) =
        s.displayed (stream xs) ++ t.displayed (stream ys) ∧
      resumed.filter = second.filter ∧
      resumed.counters.pending = second.counters.pending ∧
      resumed.counters.IsSum first.counters second.counters ∧
      s.output (stream (xs ++ ys)) = s.output (stream xs) ++ t.output (stream ys) ∧
      whole.counters.undecodable = first.counters.undecodable + second.counters.undecodable ∧
      ((s.after (xs.map .line)).decoder.utf8.held = [] →
        (s.trace (stream (xs ++ ys))).map (·.isShown) =
            (s.trace (xs.map .line)).map (·.isShown) ++ (t.trace (stream ys)).map (·.isShown) ∧
          s.displayed (stream (xs ++ ys)) =
            s.displayed (stream xs) ++ t.displayed (stream ys) ∧
          whole.filter = second.filter ∧
          whole.counters.pending = second.counters.pending ∧
          whole.counters.IsSum first.counters second.counters) := by
  intro s first t second resumed whole
  have hx : first = (s.after (xs.map .line)).finish.session := after_stream s xs
  have hs : (s.after (xs.map .line)).separator = settings.separator := separator_after_lines s xs
  have hm : (s.after (xs.map .line)).decoder.mode = settings.mode := mode_after_lines s xs
  have hf : Continues first.counters first t := by
    have := continues_of_finish settings hs hm
    rwa [← hx] at this
  refine ⟨hf.isShown_append _, output_append_stream .., hf.displayed_append _,
    (hf.after_append _).filter, hf.pending_stream ys, (hf.after_append _).counters, ?output,
    ?undecodable, fun hh => ?rest⟩
  case output => rw [stream_append, output_append_stream s t, output_stream s]
  case undecodable =>
    have hw := undecodable_join_stream settings filter (xs ++ ys)
    have h₁ := undecodable_join_stream settings filter xs
    have h₂ := undecodable_join_stream settings first.filter ys
    rw [List.countP_append, ← h₁, ← h₂] at hw
    exact hw
  case rest =>
    have hc : Continues first.counters (s.after (xs.map .line)) t := by
      have := continues_of_held_eq_nil settings hs hm hh
      rwa [← hx] at this
    have hw : whole = s.after (xs.map .line ++ stream ys) := congrArg s.after <| stream_append xs ys
    rw [hw, stream_append, displayed_stream s]
    exact ⟨hc.isShown_append _, hc.displayed_append _, (hc.after_append _).filter,
      hc.pending_stream ys, (hc.after_append _).counters⟩

-- The response comes in the second stream, where it is hidden for the request of the first.
theorem stream_split_response :
    let s := join {} (.fresh "/api".toList)
    let xs := [Hex.writeText "1 t\nGET /x".toList]
    let ys := [Hex.writeText "2 t".toList, Hex.writeText "2 t".toList]
    let first := s.after (stream xs)
    let second := (join {} first.filter).after (stream ys)
    let whole := s.after (stream (xs ++ ys))
    (s.after (xs.map .line)).decoder.utf8.held = [] ∧
      whole.filter = second.filter ∧ whole.counters.IsSum first.counters second.counters := by
  intro s xs ys first second whole
  have hh : (s.after (xs.map .line)).decoder.utf8.held = [] := by decide
  obtain ⟨_, _, _, _, _, _, _, _, hw⟩ := stream_split {} (.fresh "/api".toList) xs ys
  obtain ⟨_, _, hf, _, hc⟩ := hw hh
  exact ⟨hh, hf, hc⟩

-- What an unfinished character leaves behind is lost at the end of a stream.
example :
    let s := start {}
    s.displayed (stream ["c3".toList] ++ stream ["33".toList]) ≠
      s.displayed (stream (["c3".toList] ++ ["33".toList])) := by
  decide

end Session
end FrameFilter
