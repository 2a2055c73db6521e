import FrameFilter.Proofs.Frame.Endpoint
import FrameFilter.Proofs.Frame.Grammar
import FrameFilter.Proofs.Log.Unbroken
import FrameFilter.Proofs.Session.Console

namespace FrameFilter

open Text (Unbroken)

-- The tag and the endpoint of a frame are tokens, and what is wrong with it is quoted.
theorem Filter.unbroken_ofVerdict? {f : Filter} (ha : Unbroken f.allowed)
    (hn : Log.Notice.ofVerdict? f.allowed (f.judge frame).1 = some n) : Unbroken n.message := by
  apply Log.Notice.unbroken_message
  have ⟨v, g, hj, h⟩ := f.judged frame
  rw [hj] at hn
  cases h
  case malformed =>
    cases hn
    exact nofun
  case suppressedRequest hm _ =>
    cases hn
    have ht := Frame.Header.isToken_of_read <| Frame.header_of_message hm
    have he := Frame.isToken_of_target <| Frame.target_of_message hm
    simp only [Log.Notice.unquoted, List.forall_mem_cons]
    exact ⟨ht.unbroken, he.unbroken, ha, List.forall_mem_nil _⟩
  case suppressedResponse hm _ =>
    cases hn
    have ht := Frame.Header.isToken_of_read <| Frame.header_of_message hm
    exact List.forall_mem_singleton.mpr ht.unbroken
  all_goals cases hn

-- Whether an event is no record, or one whose message is on one line.
def Event.IsTidy : Event → Prop
  | log n => Unbroken n.message
  | _     => True

namespace Session

variable {s : Session}

theorem isTidy_receive (m : Hex.Mode) (l : Text) : ∀ e ∈ receive m l, e.IsTidy := by
  rw [receive]
  split
  case isFalse => simp [Event.IsTidy]
  case isTrue  =>
    have hn := Log.Notice.unbroken_message_of_source (n := .droppedDigit l.length)
      (by simp [Log.Notice.source])
    simpa [Event.IsTidy] using hn

theorem isTidy_present {f : Filter} (ha : Unbroken f.allowed) (separator t : Text)
    (frame : Frame) : ∀ e ∈ present separator f.allowed t (f.judge frame).1, e.IsTidy := by
  intro e he
  cases List.mem_append.mp he
  case inl he =>
    have ⟨n, hn, hl⟩ := Option.map_eq_some_iff.mp <| Option.mem_toList.mp he
    exact hl ▸ Filter.unbroken_ofVerdict? ha hn
  case inr he =>
    split at he
    case isTrue  => exact List.mem_singleton.mp he ▸ trivial
    case isFalse => contradiction

theorem isTidy_line (ha : Unbroken s.filter.allowed) (l : Text) :
    ∀ e ∈ (s.line l).events, e.IsTidy := by
  intro e he
  cases h : s.decoder.decode (Text.chomp l)
  case ok =>
    rw [line_of_ok h] at he
    cases List.mem_append.mp he
    case inl he => exact isTidy_receive _ _ e he
    case inr he => exact isTidy_present ha _ _ _ e he
  case error fault =>
    rw [line_of_error h] at he
    cases List.mem_append.mp he
    case inl he => exact isTidy_receive _ _ e he
    case inr he => exact List.mem_singleton.mp he ▸ Log.Notice.unbroken_message_of_source nofun

theorem isTidy_finish (s : Session) : ∀ e ∈ s.finish.events, e.IsTidy := by
  intro e he
  simp only [finish] at he
  split at he
  case isTrue  => contradiction
  case isFalse =>
    obtain rfl := List.mem_singleton.mp he
    exact Log.Notice.unbroken_message_of_source <| by simp [Log.Notice.source]

theorem isTidy_act (ha : Unbroken s.filter.allowed) (a : Action) :
    ∀ e ∈ (s.act a).events, e.IsTidy := by
  cases a
  case line l => exact isTidy_line ha l
  case finish => exact isTidy_finish s

theorem allowed_act : (s.act a).session.filter.allowed = s.filter.allowed := by
  cases a
  case finish => rfl
  case line l =>
    rw [act]
    cases h : s.decoder.decode (Text.chomp l)
    case error => rw [line_of_error h]
    case ok    => rw [line_of_ok h]; exact Filter.judge_allowed

-- The allowed text is the only text of the records that does not come from the stream, and it stays
-- the same.
theorem isTidy_events (ha : Unbroken s.filter.allowed) (as : List Action) :
    ∀ e ∈ s.events as, e.IsTidy := by
  induction as generalizing s
  case nil          => exact nofun
  case cons a as hi =>
    rw [events_cons]
    exact List.forall_mem_append.mpr ⟨isTidy_act ha a, hi (allowed_act.symm ▸ ha)⟩

end Session

-- A text of three parts, of which the one in the middle is a line for every reader: it starts after
-- a newline or at the very start, it ends before a newline, and no line ends within it.
structure Text.HasLine (t above line below : Text) : Prop where
  eq       : t = above ++ (line ++ '\n' :: below)
  starts   : above = [] ∨ above.getLast? = some '\n'
  unbroken : Unbroken line

namespace Event

theorem text_eq_nil_or (e : Event) (time : Text) :
    e.text time = [] ∨ (e.text time).getLast? = some '\n' := by
  cases e
  case echo    => exact .inl rfl
  case display => exact .inr List.getLast?_concat
  case log     => exact .inr List.getLast?_concat

theorem flatMap_text_eq_nil_or (es : List Event) (time : Text) :
    es.flatMap (text time) = [] ∨ (es.flatMap (text time)).getLast? = some '\n' := by
  induction es
  case nil          => exact .inl rfl
  case cons e es hi =>
    rw [List.flatMap_cons]
    cases hi
    case inl h =>
      rw [h, List.append_nil]
      exact e.text_eq_nil_or time
    case inr h => exact .inr <| by rw [List.getLast?_append, h]; rfl

end Event

namespace Console

-- Every record is a line of the diagnostic stream, whatever frames are displayed before it.
def IsTidy (c : Console) : Prop :=
  ∀ before n after, c.written = before ++ .log n :: after →
    Unbroken n.message ∧
      ∀ time, Unbroken time →
        Text.HasLine (c.diagnostics time) (before.flatMap <| Event.text time) (n.line time)
          (after.flatMap <| Event.text time)

theorem isTidy_of_written {c : Console} (h : ∀ e ∈ c.written, e.IsTidy) : c.IsTidy := by
  intro before n after hw
  have hn : Unbroken n.message := h (.log n) <| by simp [hw]
  refine ⟨hn, fun time ht => ⟨?eq, ?starts, ?unbroken⟩⟩
  case eq       => simp [diagnostics, hw, Event.text, Log.Notice.record, Log.Notice.line]
  case starts   => exact Event.flatMap_text_eq_nil_or before time
  case unbroken => exact Log.Notice.unbroken_line ht hn

theorem isTidy_performAll (setting : Option Text) (h : ∀ e ∈ es, e.IsTidy) :
    (empty.performAll setting es).IsTidy := by
  apply isTidy_of_written
  rw [written_performAll_empty]
  exact fun e he => h e <| List.mem_of_mem_filter he

end Console

theorem Process.isTidy_run (settings : Settings) (ha : Unbroken f.allowed)
    (setting : Option Text) (as : List Session.Action) :
    ((join settings f).run setting as).console.IsTidy := by
  rw [run_eq]
  exact Console.isTidy_performAll setting <| Session.isTidy_events ha as

end FrameFilter
