import FrameFilter.Proofs.Command.Process
import FrameFilter.Proofs.Text.Newline

namespace FrameFilter

namespace Session

-- What an action is about. How a line is terminated does not count.
def Action.content? : Action → Option Text
  | line l => some (Text.chomp l)
  | finish => none

variable {s : Session} {as bs : List Action}

theorem act_congr (h : a.content? = b.content?) : s.act a = s.act b := by
  cases a <;> cases b
  case finish.finish => rfl
  case line.finish   => contradiction
  case finish.line   => contradiction
  case line.line     => simp only [act, line, Option.some.inj h]

theorem run_congr (h : as.map Action.content? = bs.map Action.content?) :
    s.trace as = s.trace bs ∧ s.after as = s.after bs := by
  induction as generalizing s bs
  case nil          => rw [List.map_eq_nil_iff.mp h.symm]; exact ⟨rfl, rfl⟩
  case cons a as hi =>
    cases bs
    case nil => contradiction
    case cons b bs =>
      have ⟨ha, has⟩ := List.cons.inj h
      have ⟨ht, hf⟩ := hi (s := (s.act b).session) has
      rw [trace, trace, after_cons, after_cons, act_congr ha, ht, hf]
      exact ⟨rfl, rfl⟩

theorem map_content?_stream (lines : List Text) :
    (stream lines).map Action.content? = (lines.map Text.chomp).map some ++ [none] := by
  simp [stream, Action.content?]

end Session

namespace Command

open Session (stream)

theorem process_congr (setting : Option Text) (o : Options)
    (h : (inputLines input).map Text.chomp = (inputLines input').map Text.chomp) :
    process setting o input = process setting o input' := by
  have hc : (stream <| inputLines input).map Session.Action.content? =
      (stream <| inputLines input').map Session.Action.content? := by
    rw [Session.map_content?_stream, Session.map_content?_stream, h]
  have ⟨ht, ha⟩ := Session.run_congr (s := .start o.settings) hc
  have he : events o input = events o input' := by simp only [events, Session.events, ht, ha]
  rw [process_eq, process_eq, ht, ha, he]

theorem inputLines_normalizeNewlines (input : Text) :
    inputLines (Text.normalizeNewlines input) = inputLines input := by
  rw [inputLines, Text.normalizeNewlines_of_not_mem <| Text.not_mem_normalizeNewlines input]
  rfl

theorem map_chomp_inputLines_terminated (input : Text) :
    (inputLines <| Text.terminated <| Text.normalizeNewlines input).map Text.chomp =
      (inputLines input).map Text.chomp := by
  have hn := Text.not_mem_normalizeNewlines input
  have ht : '\r' ∉ Text.terminated (Text.normalizeNewlines input) := by
    rw [Text.terminated, List.mem_append]
    split <;> simp [hn]
  rw [inputLines, Text.normalizeNewlines_of_not_mem ht, Text.map_chomp_lines_terminated hn]
  rfl

-- All that the program puts out is its input.
theorem output_process (setting : Option Text) (o : Options) (input : Text) :
    (process setting o input).console.output =
      Text.terminated (Text.normalizeNewlines input) := by
  have ho : (opening o).flatMap Event.output = [] := rfl
  have hs : ((Session.start o.settings).events (stream <| inputLines input)).flatMap Event.output =
      (inputLines input).flatMap (Text.chomp · ++ ['\n']) :=
    (Session.output_stream _ _).trans <| Session.output_lines _ _
  have hl := Text.flatMap_map_chomp_lines <| Text.not_mem_normalizeNewlines input
  rw [process_eq, Console.performAll_eq, Console.empty, List.nil_append, events,
    List.flatMap_append, List.flatMap_append, ho, flatMap_output_closing, hs, List.nil_append,
    List.append_nil, ← hl, List.flatMap_map]
  rfl

theorem output_run_stream (setting : Option Text) (settings : Settings) (filter : Filter)
    (lines : List Text) :
    ((Process.join settings filter).run setting (stream lines)).console.output =
      lines.flatMap (Text.chomp · ++ ['\n']) := by
  rw [Process.run_eq, Console.performAll_eq]
  exact (Session.output_stream _ _).trans <| Session.output_lines _ _

-- The program puts out its input and nothing else, with the ends of its lines made uniform,
-- whatever is asked of it. What it has put out it repeats.
theorem output_eq_input (h : Options.read arguments = .ok o) (setting : Option Text)
    (input : Text) :
    let normalized := Text.normalizeNewlines input
    let echoed := normalized ++
      if input ≠ [] ∧ normalized.getLast? ≠ some '\n' then ['\n'] else []
    (∃ p, execute setting arguments input = .ok p ∧
        status (execute setting arguments input) = 0 ∧
        p.console.output = echoed ∧
        execute setting arguments normalized = .ok p ∧
        execute setting arguments p.console.output = .ok p) ∧
      normalized = (Text.joinPairs input).map (fun c => if c = '\r' then '\n' else c) ∧
      ∀ settings filter lines,
        ((Process.join settings filter).run setting (stream lines)).console.output =
          lines.flatMap (Text.chomp · ++ ['\n']) := by
  intro normalized echoed
  have hx (input : Text) : execute setting arguments input = .ok (process setting o input) := by
    rw [execute_eq, h]
    rfl
  have he : echoed = Text.terminated normalized := by
    simp only [echoed, Text.terminated, ne_eq, normalized, Text.normalizeNewlines_eq_nil_iff]
  have ho : (process setting o input).console.output = echoed :=
    (output_process setting o input).trans he.symm
  have hn : process setting o normalized = process setting o input :=
    process_congr setting o <| by rw [inputLines_normalizeNewlines]
  have hr : process setting o echoed = process setting o input :=
    process_congr setting o <| he ▸ map_chomp_inputLines_terminated input
  refine ⟨⟨process setting o input, hx input, ?_, ho, ?_, ?_⟩, Text.normalizeNewlines_eq_map input,
    output_run_stream setting⟩
  case refine_1 => rw [hx input]; rfl
  case refine_2 => rw [hx normalized, hn]
  case refine_3 => rw [ho, hx echoed, hr]

-- The line ends are of all three kinds, the last line has none, and no line is hex.
theorem output_eq_input_mixed :
    let arguments := ["-p/x".toList, "--separator".toList, "--".toList, "--strict-hex".toList]
    let input := "a\r\rb\r\n\u2028\x0bc".toList
    ∃ p, execute (some "debug".toList) arguments input = .ok p ∧
      p.console.output = "a\n\nb\n\u2028\x0bc\n".toList ∧
      execute (some "debug".toList) arguments p.console.output = .ok p := by
  intro arguments input
  have h : Options.read arguments = .ok {
      settings := { allowed := "/x".toList, separator := "--".toList, mode := .strict } } := rfl
  have ⟨⟨p, hp, _, ho, _, hr⟩, _⟩ := output_eq_input h (some "debug".toList) input
  exact ⟨p, hp, ho, hr⟩

end Command
end FrameFilter
