import Mathlib.Data.List.Forall2
import FrameFilter.Proofs.Filter.Widening
import FrameFilter.Proofs.Session.Line

namespace FrameFilter

-- Two accounts of the same lines of which the first shows more.
structure Counters.Wider (c c' : Counters) : Prop where
  shown       : c'.shown ≤ c.shown
  undecodable : c.undecodable = c'.undecodable
  malformed   : c.malformed = c'.malformed

theorem Counters.Wider.addVerdict {c c' : Counters} (h : c.Wider c')
    (hs : v'.isShown → v.isShown) (hm : v.reason = .malformed ↔ v'.reason = .malformed) :
    (c.addLine.addVerdict v).Wider (c'.addLine.addVerdict v') where
  shown       := by
    have hc := h.shown
    cases hv : v'.isShown
    case true  => simpa [Counters.addVerdict, addLine, hv, hs hv] using hc
    case false =>
      have hl : c.shown ≤ (c.addLine.addVerdict v).shown := by
        simp only [Counters.addVerdict, addLine]
        split <;> omega
      simpa [Counters.addVerdict, addLine, hv] using Nat.le_trans hc hl
  undecodable := h.undecodable
  malformed   := by
    have hc := h.malformed
    simp only [Counters.malformed] at hc
    simp only [Counters.malformed, Counters.addVerdict, addLine, Tally.count_add, hm, hc]

namespace Session

-- Sessions that have read the same, of which the first has the wider filter.
structure Wider (s s' : Session) : Prop where
  separator : s.separator = s'.separator
  decoder   : s.decoder = s'.decoder
  filter    : s.filter.Wider s'.filter
  counters  : s.counters.Wider s'.counters

-- What the second step shows, the first one shows as well.
structure Step.Wider (t t' : Step) : Prop where
  session   : t.session.Wider t'.session
  displayed : t'.displayed.Sublist t.displayed
  isShown   : t'.isShown = some true → t.isShown = some true ∧
    ∃ frame, t.displayed = [frame] ∧ t'.displayed = [frame]

variable {s s' : Session}

theorem start_wider (settings : Settings) (h : settings.allowed <+: narrower) :
    (start settings).Wider (start { settings with allowed := narrower }) where
  separator := rfl
  decoder   := rfl
  filter    := Filter.fresh_wider h
  counters  := { shown := Nat.le_refl _, undecodable := rfl, malformed := rfl }

theorem Wider.line_of_error (h : s.Wider s')
    (hd : s.decoder.decode (Text.chomp l) = .error fault) : (s.line l).Wider (s'.line l) := by
  have hd' : s'.decoder.decode (Text.chomp l) = .error fault := h.decoder ▸ hd
  have hl := Session.line_of_error hd
  have hl' := Session.line_of_error hd'
  refine ⟨?session, ?displayed, ?isShown⟩
  case session =>
    have hc := h.counters
    rw [hl, hl']
    exact {
      separator := h.separator
      decoder   := h.decoder
      filter    := h.filter
      counters  := ⟨hc.shown, congrArg (· + 1) hc.undecodable, hc.malformed⟩ }
  case displayed => rw [displayed_line_of_error hd, displayed_line_of_error hd']
  case isShown   => rw [hl']; exact (nomatch ·)

theorem Wider.line_of_ok (h : s.Wider s')
    (hd : s.decoder.decode (Text.chomp l) = .ok (t, d)) : (s.line l).Wider (s'.line l) := by
  have hd' : s'.decoder.decode (Text.chomp l) = .ok (t, d) := h.decoder ▸ hd
  have hl := Session.line_of_ok hd
  have hl' := Session.line_of_ok hd'
  have hf := displayed_line_of_ok hd
  have hf' := displayed_line_of_ok hd'
  have hv := fun hs => h.filter.isShown (hs : (s'.filter.judge (.ofText t)).1.isShown)
  refine ⟨?session, ?displayed, ?isShown⟩
  case session =>
    rw [hl, hl']
    exact {
      separator := h.separator
      decoder   := rfl
      filter    := h.filter.judge _
      counters  := h.counters.addVerdict hv <| by
        rw [Filter.reason_judge_eq_malformed_iff, Filter.reason_judge_eq_malformed_iff] }
  case displayed =>
    rw [hf, hf', h.separator]
    split
    case isTrue hs => rw [if_pos (hv hs)]
    case isFalse   => exact List.nil_sublist _
  case isShown =>
    intro hs
    rw [hl'] at hs
    have hs := Option.some.inj hs
    refine ⟨?_, (s.separator, t), ?_, ?_⟩
    · rw [hl, hv hs]
    · rw [hf, if_pos (hv hs)]
    · rw [hf', if_pos hs, h.separator]

theorem Wider.line (h : s.Wider s') (l : Text) : (s.line l).Wider (s'.line l) := by
  cases hd : s.decoder.decode (Text.chomp l)
  case error => exact h.line_of_error hd
  case ok    => exact h.line_of_ok hd

theorem Wider.trace (h : s.Wider s') (lines : List Text) :
    List.Forall₂ Step.Wider (s.trace (lines.map .line)) (s'.trace (lines.map .line)) := by
  induction lines generalizing s s'
  case nil             => exact .nil
  case cons l lines hi => exact .cons (h.line l) (hi (h.line l).session)

theorem Wider.after (h : s.Wider s') (lines : List Text) :
    (s.after (lines.map .line)).Wider (s'.after (lines.map .line)) := by
  induction lines generalizing s s'
  case nil             => exact h
  case cons l lines hi => exact hi (h.line l).session

theorem Wider.displayed (h : s.Wider s') (lines : List Text) :
    (s'.displayed (lines.map .line)).Sublist (s.displayed (lines.map .line)) := by
  induction lines generalizing s s'
  case nil             => exact List.nil_sublist _
  case cons l lines hi =>
    have hl := h.line l
    rw [List.map_cons, displayed_cons, displayed_cons]
    exact hl.displayed.append <| hi hl.session

-- With a longer allowed text less is shown, although a response can be hidden or shown for what was
-- decided on a request long before.
theorem displayed_sublist_of_prefix (settings : Settings) (narrower : Text) (lines : List Text)
    (h : settings.allowed <+: narrower) :
    let s := start settings
    let s' := start { settings with allowed := narrower }
    let c := (s.after (stream lines)).counters
    let c' := (s'.after (stream lines)).counters
    List.Forall₂
        (fun t t' : Step =>
          (∀ tag ∈ t.session.filter.pending, tag ∈ t'.session.filter.pending) ∧
            (t'.isShown = some true → t.isShown = some true ∧
              ∃ frame, t.displayed = [frame] ∧ t'.displayed = [frame]))
        (s.trace (lines.map .line)) (s'.trace (lines.map .line)) ∧
      (s'.displayed (stream lines)).Sublist (s.displayed (stream lines)) ∧
      c'.shown ≤ c.shown ∧ c.pending ≤ c'.pending ∧ c.undecodable = c'.undecodable ∧
      c.malformed = c'.malformed ∧ s.output (stream lines) = s'.output (stream lines) := by
  intro s s' c c'
  have hw : s.Wider s' := start_wider settings h
  have ha := hw.after lines
  have hc : c = (s.after (lines.map .line)).finish.session.counters :=
    congrArg counters <| after_stream s lines
  have hc' : c' = (s'.after (lines.map .line)).finish.session.counters :=
    congrArg counters <| after_stream s' lines
  refine ⟨?trace, ?displayed, ?_⟩
  case trace =>
    exact (hw.trace lines).imp fun _ _ ht => ⟨ht.session.filter.pending, ht.isShown⟩
  case displayed =>
    rw [displayed_stream, displayed_stream]
    exact hw.displayed lines
  rw [hc, hc', output_stream, output_stream, output_lines, output_lines]
  exact ⟨ha.counters.shown, TagSet.size_le_of_subset ha.filter.pending, ha.counters.undecodable,
    ha.counters.malformed, rfl⟩

-- The narrower filter hides the request to the longer path, and with it the response.
theorem displayed_sublist_of_prefix_response :
    let s := start {}
    let s' := start { allowed := "/api/v2".toList }
    let lines := ["1 t\nGET /api/v1".toList, "2 t".toList, "2 t".toList].map Hex.writeText
    (s'.displayed (stream lines)).Sublist (s.displayed (stream lines)) ∧
      (s.after (stream lines)).counters.shown = 3 ∧
      (s'.after (stream lines)).counters.shown = 1 := by
  intro s s' lines
  have hp : ({} : Settings).allowed <+: "/api/v2".toList := by decide
  have ⟨_, hd, _⟩ := displayed_sublist_of_prefix {} "/api/v2".toList lines hp
  exact ⟨hd, by decide, by decide⟩

end Session
end FrameFilter
