import FrameFilter.Proofs.Command.Process
import FrameFilter.Proofs.Session.Records

namespace FrameFilter.Command

open Text (Unbroken)

theorem isTidy_opening (o : Options) : ∀ e ∈ opening o, e.IsTidy :=
  List.forall_mem_singleton.mpr <| Log.Notice.unbroken_message_of_source nofun

theorem isTidy_closing (o : Options) (c : Counters) : ∀ e ∈ closing o c, e.IsTidy := by
  intro e he
  have ⟨n, hn, hs⟩ := mem_closing o c e he
  exact hn ▸ Log.Notice.unbroken_message_of_source (hs ▸ nofun)

theorem isTidy_events (ha : Unbroken o.settings.allowed) (input : Text) :
    ∀ e ∈ events o input, e.IsTidy := by
  refine List.forall_mem_append.mpr ⟨List.forall_mem_append.mpr ⟨isTidy_opening o, ?_⟩, ?_⟩
  case refine_1 => exact Session.isTidy_events ha _
  case refine_2 => exact isTidy_closing o _

-- No frame can forge or tear a record. Whatever is in the lines, each message is on one line, and
-- so its record is a line of the diagnostic stream.
theorem records_on_one_line (setting : Option Text) :
    (∀ settings filter actions, Unbroken filter.allowed →
      ((Process.join settings filter).run setting actions).console.IsTidy) ∧
      ∀ arguments input o, Options.read arguments = .ok o → Unbroken o.settings.allowed →
        ∃ p, execute setting arguments input = .ok p ∧ p.console.IsTidy := by
  constructor
  case left  =>
    exact fun settings filter actions ha => Process.isTidy_run settings ha setting actions
  case right =>
    intro arguments input o h ha
    refine ⟨process setting o input, by rw [execute_eq, h]; rfl, ?_⟩
    rw [process_eq]
    exact Console.isTidy_performAll setting <| isTidy_events ha input

-- The line is the hex of a header with one token, a carriage return and a line separator.
theorem records_on_one_line_quoted :
    let p := (Process.join {} (.fresh "/api".toList)).run (some "debug".toList)
      [.line "780de280a8".toList]
    (∃ n after, p.console.written = .log n :: after ∧ Unbroken n.message ∧ n.message =
      "Showing malformed frame: header needs type and tag, got 1 token(s): 'x\\r\\u2028'".toList) ∧
      ∃ p, execute (some "debug".toList) ["--summary".toList] "780de280a8".toList = .ok p ∧
        p.console.IsTidy := by
  intro p
  have ⟨hr, he⟩ := records_on_one_line (some "debug".toList)
  have hw : p.console.written = [
      .log (.malformedFrame (.fewTokens 1 "x\r\u2028".toList)),
      .display "===================".toList "x\r\u2028".toList] := by rfl
  have ⟨hn, _⟩ := hr {} (.fresh "/api".toList) [.line "780de280a8".toList] (by decide) [] _ _ hw
  have ho : Options.read ["--summary".toList] = .ok { summary := true } := rfl
  exact ⟨⟨_, _, hw, hn, by decide +kernel⟩, he _ _ _ ho (by decide)⟩

end FrameFilter.Command
