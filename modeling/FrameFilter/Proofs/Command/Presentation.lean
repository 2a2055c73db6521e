import FrameFilter.Proofs.Command.Arguments
import FrameFilter.Proofs.Command.Process
import FrameFilter.Proofs.Session.Presentation

namespace FrameFilter.Command

theorem process_restrict (setting : Option Text) (o : Options) (input : Text) :
    process setting o input = (process Log.verbose o input).restrict setting := by
  rw [process_eq, process_eq, Process.restrict, ← Console.performAll_restrict]
  rfl

theorem map_withSeparator_closing (separator : Text) (o : Options) (c : Counters) :
    (closing o c).map (Event.withSeparator separator) = closing o c := by
  refine (List.map_congr_left fun e he => ?_).trans (List.map_id _)
  have ⟨n, hn, _⟩ := mem_closing o c e he
  rw [hn]
  rfl

theorem work_withSeparator (separator : Text) (setting : Option Text) (o : Options)
    (input : Text) :
    work setting (o.withSeparator separator) input =
      (work setting o input).withSeparator separator := by
  have ho := Process.perform_withSeparator setting separator (.start o.settings) (opening o)
  rw [work, work, ← Process.run_withSeparator, ← ho]
  rfl

theorem process_withSeparator (separator : Text) (setting : Option Text) (o : Options)
    (input : Text) :
    process setting (o.withSeparator separator) input =
      (process setting o input).withSeparator separator := by
  rw [process, process, work_withSeparator, ← Process.perform_withSeparator,
    map_withSeparator_closing]
  rfl

theorem process_eq_work (h : o.summary = false) (setting : Option Text) (input : Text) :
    process setting o input = work setting o input := by
  simp only [process, closing, h]
  rfl

-- The summary comes when all else is over.
theorem process_withSummary (h : o.summary = false) (setting : Option Text) (input : Text) :
    process setting (o.withSummary true) input = (process setting o input).append
      ((closing (o.withSummary true) (work setting o input).session.counters).filter
        (·.isWritten setting)) := by
  rw [process_eq_work h, ← Process.perform_eq_append <| flatMap_output_closing _ _]
  rfl

theorem execute_restrict (setting : Option Text) (arguments : List Text) (input : Text) :
    execute setting arguments input =
      (execute Log.verbose arguments input).map (Process.restrict setting) := by
  rw [execute_eq, execute_eq]
  cases Options.read arguments
  case error => rfl
  case ok o  => exact congrArg Except.ok <| process_restrict setting o input

-- Two lists of arguments that choose the same but for the separator, or are wrong in the same way.
theorem execute_withSeparator
    (h : (read arguments).map (List.filter (!·.isSeparator)) =
      (read arguments').map (List.filter (!·.isSeparator))) :
    ∃ separator, ∀ setting input, execute setting arguments' input =
      (execute setting arguments input).map (·.withSeparator separator) := by
  simp only [execute_eq, Options.read_eq]
  cases hr : read arguments <;> cases hr' : read arguments' <;> rw [hr, hr'] at h
  case error.error => cases h; exact ⟨[], fun _ _ => rfl⟩
  case error.ok    => contradiction
  case ok.error    => contradiction
  case ok.ok cs ds =>
    let separator := (Options.ofChoices ds).settings.separator
    have hu := Options.overrides_withSeparator separator
    have ho := hu.ofChoices_congr <| Except.ok.inj h
    refine ⟨separator, fun setting input => congrArg Except.ok ?_⟩
    calc process setting (.ofChoices ds) input
      _ = process setting (.withSeparator separator <| .ofChoices ds) input := rfl
      _ = process setting (.withSeparator separator <| .ofChoices cs) input := by rw [ho]
      _ = _ := process_withSeparator separator setting _ input

theorem process_append (h : o' = o ∨ o.summary = false ∧ o' = o.withSummary true)
    (setting : Option Text) (input : Text) :
    ∃ records, (∀ e ∈ records, ∃ n, e = .log n ∧ n.source.logger = "gortail.cli".toList) ∧
      process setting o' input = (process setting o input).append records := by
  cases h
  case inl h => exact ⟨[], nofun, by rw [h, Process.append_nil]⟩
  case inr h =>
    refine ⟨_, fun e he => ?_, h.right ▸ process_withSummary h.left setting input⟩
    have ⟨n, hn, hs⟩ := mem_closing _ _ e (List.mem_filter.mp he).left
    exact ⟨n, hn, by rw [hs]; rfl⟩

-- The wish may be added to arguments that are refused for other reasons.
theorem execute_append (h : Occurrences as cs) (bs : List Text) (setting : Option Text)
    (input : Text) :
    ∃ records, (∀ e ∈ records, ∃ n, e = .log n ∧ n.source.logger = "gortail.cli".toList) ∧
      execute setting (as ++ "--summary".toList :: bs) input =
        (execute setting (as ++ bs) input).map (·.append records) := by
  rw [execute_eq, execute_eq, Options.read_eq, Options.read_eq, read_append h, read_append h,
    read_cons_of_complete ofText_summary]
  cases read bs
  case error => exact ⟨[], nofun, rfl⟩
  case ok ds =>
    have ⟨records, hr, hp⟩ := process_append (Options.ofChoices_summary cs ds) setting input
    exact ⟨records, hr, congrArg Except.ok hp⟩

theorem diagnostics_execute (setting : Option Text) (arguments : List Text) (input time : Text) :
    (execute setting arguments input).map (·.console.diagnostics time) =
      (run arguments input).map (·.flatMap (Event.diagnostics setting time)) := by
  rw [execute_eq, run_eq]
  cases Options.read arguments
  case error => rfl
  case ok o  => exact congrArg Except.ok <| diagnostics_process setting o input time

-- However the log is set, the program does the same. A setting decides which of the records that
-- can be written are written, each in its place between the frames. A separator stands above the
-- frames and nowhere else, and the wish for a summary adds to the end of the log.
theorem presentation_apart :
    (∀ arguments input, Process.LogApart fun setting => execute setting arguments input) ∧
    (∀ settings filter as, Process.LogApart fun setting =>
      (.ok <| (Process.join settings filter).run setting as : Except Stop Process)) ∧
    (∀ (settings : Settings) filter as setting separator,
      (Process.join { settings with separator } filter).run setting as =
        ((Process.join settings filter).run setting as).withSeparator separator) ∧
    (∀ arguments arguments',
      (read arguments).map (List.filter (!·.isSeparator)) =
        (read arguments').map (List.filter (!·.isSeparator)) →
      ∃ separator, ∀ setting input, execute setting arguments' input =
        (execute setting arguments input).map (·.withSeparator separator)) ∧
    (∀ as bs cs setting input, Occurrences as cs → ∃ records,
      (∀ e ∈ records, ∃ n, e = .log n ∧ n.source.logger = "gortail.cli".toList) ∧
      execute setting (as ++ "--summary".toList :: bs) input =
        (execute setting (as ++ bs) input).map (·.append records)) ∧
    ∀ setting arguments input time,
      (execute setting arguments input).map (·.console.diagnostics time) =
        (run arguments input).map (·.flatMap (Event.diagnostics setting time)) := by
  refine ⟨fun arguments input => .of_restrict fun setting => ?_,
    fun settings filter as => .of_restrict fun setting => ?_,
    fun settings filter as setting separator => ?_,
    fun arguments arguments' => execute_withSeparator,
    fun as bs cs setting input h => execute_append h bs setting input, diagnostics_execute⟩
  case refine_1 => exact execute_restrict setting arguments input
  case refine_2 =>
    exact congrArg Except.ok <| Process.run_restrict setting (.join settings filter) as
  case refine_3 => exact Process.run_withSeparator setting separator (.join settings filter) as

-- The separator moves and is spelled in another way, and the wish for a summary comes after a value
-- that looks like an option.
theorem presentation_apart_spelling :
    let arguments  := ["--separator=".toList, "--strict-hex".toList]
    let arguments' := ["--strict-hex".toList, "--separator".toList, "-p".toList]
    let as := ["-p".toList, "--summary".toList]
    let bs := ["--lenient-hex".toList]
    (∃ separator, ∀ setting input, execute setting arguments' input =
      (execute setting arguments input).map (·.withSeparator separator)) ∧
    ∃ records, (∀ e ∈ records, ∃ n, e = .log n ∧ n.source.logger = "gortail.cli".toList) ∧
      execute none (as ++ "--summary".toList :: bs) [] =
        (execute none (as ++ bs) []).map (·.append records) := by
  intro arguments arguments' as bs
  have ⟨_, _, _, hs, ha, _⟩ := presentation_apart
  have h₁ : read arguments = .ok [.separator [], .mode .strict] := rfl
  have h₂ : read arguments' = .ok [.mode .strict, .separator "-p".toList] := rfl
  have h₃ : Occurrences as [.allow "--summary".toList] := .awaiting rfl .nil
  exact ⟨hs arguments arguments' <| by rw [h₁, h₂]; rfl, ha as bs _ none [] h₃⟩

end FrameFilter.Command
