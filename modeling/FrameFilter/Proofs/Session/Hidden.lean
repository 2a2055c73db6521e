import FrameFilter.Proofs.Filter.History
import FrameFilter.Proofs.Session.Encoded

namespace FrameFilter

-- Frames that may stand for each other where the first of them has the outcome `isShown`: equal
-- ones, requests that are suppressed for the same tag, and responses with the same tag if they are
-- hidden.
inductive Alike (allowed : Text) (isShown : Option Bool) (t t' : Text) : Prop
  | same (h : t = t')
  | requests (hs : (Frame.ofText t).Suppresses allowed tag)
    (hs' : (Frame.ofText t').Suppresses allowed tag)
  | responses (ha : (Frame.ofText t).Answers tag) (ha' : (Frame.ofText t').Answers tag)
    (hh : isShown = some false)

-- Unless they are equal, both of them are hidden, for the same reason and with the same effect.
theorem Filter.judge_of_alike {f : Filter}
    (h : Alike f.allowed (some (f.judge (.ofText t)).1.isShown) t t') :
    t = t' ∨ (f.judge (.ofText t)).1.isShown = false ∧
      (f.judge (.ofText t)).1.reason = (f.judge (.ofText t')).1.reason ∧
      (f.judge (.ofText t)).2 = (f.judge (.ofText t')).2 := by
  cases h
  case same h => exact .inl h
  case requests hs hs' =>
    have ⟨_, _, _, hj⟩ := judge_of_suppresses hs
    have ⟨_, _, _, hj'⟩ := judge_of_suppresses hs'
    rw [hj, hj']
    exact .inr ⟨rfl, rfl, rfl⟩
  case responses ha ha' hh =>
    have hm := (isShown_judge_eq_false_iff ha).mp <| Option.some.inj hh
    have ⟨_, _, hj⟩ := judge_of_answers_of_mem ha hm
    have ⟨_, _, hj'⟩ := judge_of_answers_of_mem ha' hm
    rw [hj, hj']
    exact .inr ⟨rfl, rfl, rfl⟩

namespace Session

-- What can be told from a step without its output: the outcome, what it writes to the diagnostic
-- stream, and everything that the session knows after it.
def Step.seen (setting : Option Text) (time : Text) (t : Step) : Option Bool × Text × Session :=
  (t.isShown, t.events.flatMap (Event.diagnostics setting time), t.session)

variable {s : Session}

theorem seen_line_encodedLine (ht : Log.Terse setting) (hs : s.decoder = .empty m) (text : Text)
    (e : Text.Terminator) :
    (s.line (encodedLine text e)).seen setting time =
      (some (s.filter.judge (.ofText text)).1.isShown,
        if (s.filter.judge (.ofText text)).1.isShown then s.separator ++ '\n' :: text ++ ['\n']
        else [],
        { s with
          filter   := (s.filter.judge (.ofText text)).2
          counters := s.counters.addLine.addVerdict (s.filter.judge (.ofText text)).1 }) := by
  rw [line_encodedLine hs, Step.seen, List.flatMap_cons, flatMap_diagnostics_present ht]
  rfl

theorem seen_line_of_alike (ht : Log.Terse setting) (time : Text) (hs : s.decoder = .empty m)
    (h : Alike s.filter.allowed (s.line (encodedLine t e)).isShown t t') (e' : Text.Terminator) :
    (s.line (encodedLine t e)).seen setting time =
      (s.line (encodedLine t' e')).seen setting time := by
  rw [line_encodedLine hs] at h
  rw [seen_line_encodedLine ht hs, seen_line_encodedLine ht hs]
  cases Filter.judge_of_alike h
  case inl h => rw [h]
  case inr h =>
    have ⟨hv, hr, hf⟩ := h
    have hv' := (Verdict.isShown_congr hr).symm.trans hv
    rw [hv, hv', hf, Counters.addVerdict_congr _ hr]
    rfl

-- What is seen of a line decides what is seen of the lines after it.
theorem seen_trace_of_alike {input input' : List (Text × Text.Terminator)}
    (ht : Log.Terse setting) (time : Text) (hs : s.decoder = .empty m)
    (hl : input.length = input'.length)
    (h : ∀ (i : Nat) (l l' : Text × Text.Terminator), input[i]? = some l → input'[i]? = some l' →
      Alike s.filter.allowed
        ((s.trace ((encodedLines input).map .line))[i]?.bind Step.isShown) l.1 l'.1) :
    (s.trace (stream (encodedLines input))).map (Step.seen setting time) =
      (s.trace (stream (encodedLines input'))).map (Step.seen setting time) := by
  induction input generalizing s input'
  case nil =>
    cases List.length_eq_zero_iff.mp hl.symm
    rfl
  case cons l input hi =>
    cases input'
    case nil => contradiction
    case cons l' input' =>
      have he := seen_line_of_alike ht time hs (h 0 l l' rfl rfl) l'.2
      have hn := line_encodedLine hs l.1 l.2
      have hi := hi (s := (s.line (encodedLine l.1 l.2)).session) (by rw [hn]; exact hs)
        (Nat.succ.inj hl) fun i k k' hk hk' => by
          have := h (i + 1) k k' hk hk'
          rw [hn, Filter.judge_allowed, ← hn]
          exact this
      -- The session is part of what is seen, so both runs go on from the same one.
      have hd := congrArg (fun (_, _, s) => (s.trace (stream (encodedLines input'))).map
        (Step.seen setting time)) he
      exact congrArg₂ List.cons he <| hi.trans hd

theorem diagnostics_eq_flatMap_seen (s : Session) (setting : Option Text) (time : Text)
    (as : List Action) :
    s.diagnostics setting time as =
      ((s.trace as).map (Step.seen setting time)).flatMap (·.2.1) := by
  simp only [diagnostics, events, List.flatMap_assoc, List.flatMap_map, Step.seen]

-- Of a hidden frame nothing but its kind and its tag matters: not for what is shown, counted and
-- pending then or later, and not for the diagnostic stream.
theorem hidden_frames_unseen (settings : Settings) (filter : Filter) (setting : Option Text)
    (time : Text) (input input' : List (Text × Text.Terminator)) (ht : Log.Terse setting)
    (hl : input.length = input'.length)
    (h : ∀ (i : Nat) (l l' : Text × Text.Terminator), input[i]? = some l → input'[i]? = some l' →
      Alike filter.allowed
        (((join settings filter).trace ((encodedLines input).map .line))[i]?.bind Step.isShown)
        l.1 l'.1) :
    let s := join settings filter
    (s.trace (stream (encodedLines input))).map (Step.seen setting time) =
        (s.trace (stream (encodedLines input'))).map (Step.seen setting time) ∧
      s.diagnostics setting time (stream (encodedLines input)) =
        s.diagnostics setting time (stream (encodedLines input')) := by
  intro s
  have hr := seen_trace_of_alike ht time (s := s) rfl hl h
  rw [diagnostics_eq_flatMap_seen, diagnostics_eq_flatMap_seen]
  exact ⟨hr, congrArg _ hr⟩

-- The two runs differ in the endpoint, in the latency and in the body of what is hidden.
theorem hidden_frames_unseen_exchange :
    let s := join { separator := "-".toList } (.fresh "/api".toList)
    let input := [("1 t 5\nGET /x".toList, Text.Terminator.lineFeed),
      ("3 e\nok".toList, .absent), ("2 t 5 7\nkey".toList, .pair)]
    let input' := [("1 t\nPUT /secret HTTP/1.1".toList, Text.Terminator.pair),
      ("3 e\nok".toList, .absent), ("2 t".toList, .lineFeed)]
    s.diagnostics (some "warn".toList) [] (stream (encodedLines input)) =
        s.diagnostics (some "warn".toList) [] (stream (encodedLines input')) ∧
      s.diagnostics (some "warn".toList) [] (stream (encodedLines input')) =
        "-\n3 e\nok\n".toList := by
  intro s input input'
  have ht : Log.Terse (some "warn".toList) := by
    intro s
    cases s <;> decide
  have hs : (Frame.ofText "1 t 5\nGET /x".toList).Suppresses "/api".toList "t".toList := by decide
  have hs' : (Frame.ofText "1 t\nPUT /secret HTTP/1.1".toList).Suppresses "/api".toList
    "t".toList := by decide
  have ha : (Frame.ofText "2 t 5 7\nkey".toList).Answers "t".toList := by decide
  have ha' : (Frame.ofText "2 t".toList).Answers "t".toList := by decide
  have hh : (s.trace ((encodedLines input).map .line))[2]?.bind Step.isShown = some false := by
    decide
  refine ⟨(hidden_frames_unseen { separator := "-".toList } (.fresh "/api".toList) _ [] input input'
    ht rfl ?_).right, by decide⟩
  rintro (_ | _ | _ | i) l l' hi hi'
  · cases hi
    cases hi'
    exact .requests hs hs'
  · cases hi
    cases hi'
    exact .same rfl
  · cases hi
    cases hi'
    exact .responses ha ha' hh
  · cases hi

end Session
end FrameFilter
