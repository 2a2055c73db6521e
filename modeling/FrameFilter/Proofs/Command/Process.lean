import FrameFilter.Command.Run
import FrameFilter.Proofs.Session.Console

namespace FrameFilter.Command

open Session (stream)

-- The program at work under a log setting, from its first record to the end of its session.
def work (setting : Option Text) (o : Options) (input : Text) : Process :=
  let p := (Process.start o.settings).perform setting (opening o)
  p.run setting (stream <| inputLines input)

def process (setting : Option Text) (o : Options) (input : Text) : Process :=
  let p := work setting o input
  p.perform setting (closing o p.session.counters)

def execute (setting : Option Text) (arguments : List Text) (input : Text) :
    Except Stop Process :=
  return process setting (← Options.read arguments) input

theorem mem_closing (o : Options) (c : Counters) :
    ∀ e ∈ closing o c, ∃ n, e = .log n ∧ n.source = .command := by
  rw [closing]
  split
  case isTrue  => split <;> simp [Log.Notice.source]
  case isFalse => exact nofun

theorem flatMap_output_closing (o : Options) (c : Counters) :
    (closing o c).flatMap Event.output = [] := by
  refine List.flatMap_eq_nil_iff.mpr fun e he => ?_
  have ⟨n, hn, _⟩ := mem_closing o c e he
  rw [hn]
  rfl

theorem process_eq (setting : Option Text) (o : Options) (input : Text) :
    process setting o input = {
      session := (Session.start o.settings).after (stream <| inputLines input)
      answers := ((Session.start o.settings).trace (stream <| inputLines input)).map (·.isShown)
      console := Console.empty.performAll setting (events o input) } := by
  rw [events, Console.performAll_append, Console.performAll_append, process, work, Process.run_eq]
  rfl

theorem diagnostics_process (setting : Option Text) (o : Options) (input time : Text) :
    (process setting o input).console.diagnostics time =
      (events o input).flatMap (Event.diagnostics setting time) := by
  rw [process_eq]
  exact Console.diagnostics_performAll setting time _

theorem run_eq (arguments : List Text) (input : Text) :
    run arguments input = (Options.read arguments).map (events · input) := by
  rw [run]
  cases Options.read arguments <;> rfl

theorem execute_eq (setting : Option Text) (arguments : List Text) (input : Text) :
    execute setting arguments input = (Options.read arguments).map (process setting · input) := by
  rw [execute]
  cases Options.read arguments <;> rfl

end FrameFilter.Command
