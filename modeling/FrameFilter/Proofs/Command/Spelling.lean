import Mathlib.Data.List.Forall2
import Mathlib.Data.List.TakeDrop
import FrameFilter.Proofs.Command.Arguments
import FrameFilter.Proofs.Command.Process

namespace FrameFilter.Command

open Session (stream)

-- The words that name an option with a value, and those that name one without.
def valuedWords : List Text :=
  ["prefix".toList, "separator".toList]

def flagWords : List Text :=
  ["strict-hex".toList, "lenient-hex".toList, "summary".toList, "no-summary".toList]

-- The words that ask about the program.
def inquiryWords : List Text :=
  ["help".toList, "install-completion".toList, "show-completion".toList]

-- The arguments by which an option can be chosen. A value is free to look like anything, unless it
-- is empty, which it cannot be right after a letter.
inductive Spells : Choice → List Text → Prop
  | allow : Spells (.allow v) ["--prefix".toList, v]
  | allowJoined : Spells (.allow v) ["--prefix=".toList ++ v]
  | allowLetter : Spells (.allow v) ["-p".toList, v]
  | allowLetterJoined (h : v ≠ []) : Spells (.allow v) ["-p".toList ++ v]
  | separator : Spells (.separator v) ["--separator".toList, v]
  | separatorJoined : Spells (.separator v) ["--separator=".toList ++ v]
  | strict : Spells (.mode .strict) ["--strict-hex".toList]
  | lenient : Spells (.mode .lenient) ["--lenient-hex".toList]
  | summary : Spells (.summary true) ["--summary".toList]
  | noSummary : Spells (.summary false) ["--no-summary".toList]

-- The arguments that are wrong where an option can stand, and what is wrong with them.
inductive Wrong : Text → Fault → Prop
  | letter (hh : c ≠ '-') (hp : c ≠ 'p') : Wrong ('-' :: c :: t) (.unknown ('-' :: c :: t))
  | word (hn : word ∉ valuedWords ++ flagWords ++ inquiryWords) (he : '=' ∉ word) (hw : word ≠ []) :
    Wrong ("--".toList ++ word) (.unknown ("--".toList ++ word))
  | wordJoined (hn : word ∉ valuedWords ++ flagWords ++ inquiryWords) (he : '=' ∉ word) :
    Wrong ("--".toList ++ word ++ '=' :: v) (.unknown ("--".toList ++ word ++ '=' :: v))
  | flagJoined (hf : word ∈ flagWords ++ inquiryWords) :
    Wrong ("--".toList ++ word ++ '=' :: v) (.unwantedValue ("--".toList ++ word ++ '=' :: v))

-- The arguments that are no options. They are only complained about in the end.
inductive Stray : Text → Prop
  | positional (h : a.head? ≠ some '-') : Stray a
  | hyphen : Stray ['-']

-- The arguments that are not complete without another one.
def lacking : List Text :=
  ["--prefix".toList, "-p".toList, "--separator".toList]

namespace Choice

def allowed? : Choice → Option Text
  | allow t => some t
  | _       => none

def separator? : Choice → Option Text
  | separator t => some t
  | _           => none

def mode? : Choice → Option Hex.Mode
  | mode m => some m
  | _      => none

def summary? : Choice → Option Bool
  | summary b => some b
  | _         => none

-- What the last choice of a kind asks for, if there is one.
def last (kind : Choice → Option α) (default : α) (cs : List Choice) : α :=
  (cs.filterMap kind).getLast?.getD default

theorem last_cons (kind : Choice → Option α) (default : α) (c : Choice) (cs : List Choice) :
    last kind default (c :: cs) = last kind ((kind c).getD default) cs := by
  cases h : kind c
  case none   => simp [last, h]
  case some a => simp [last, h, List.getLast?_cons]

end Choice

theorem Spells.occurrences (h : Spells c as) : Occurrences as [c] := by
  cases h
  case allow             => exact .awaiting rfl .nil
  case allowJoined       => exact .complete rfl .nil
  case allowLetter       => exact .awaiting rfl .nil
  case separator         => exact .awaiting rfl .nil
  case separatorJoined   => exact .complete rfl .nil
  case strict            => exact .complete rfl .nil
  case lenient           => exact .complete rfl .nil
  case summary           => exact .complete rfl .nil
  case noSummary         => exact .complete rfl .nil
  case allowLetterJoined v h =>
    cases v
    case nil  => contradiction
    case cons => exact .complete rfl .nil

theorem Occurrences.append (h : Occurrences as cs) (h' : Occurrences bs ds) :
    Occurrences (as ++ bs) (cs ++ ds) := by
  induction h
  case nil              => exact h'
  case complete ha _ hi => exact .complete ha hi
  case awaiting ha _ hi => exact .awaiting ha hi

theorem occurrences_flatten (h : List.Forall₂ Spells cs spellings) :
    Occurrences spellings.flatten cs := by
  induction h
  case nil          => exact .nil
  case cons hs _ hi => exact hs.occurrences.append hi

namespace Argument

theorem ofText_word (hw : word ≠ []) : ofText ("--".toList ++ word) =
    match word.span (· != '=') with
    | (name, [])     => ofWord ("--".toList ++ word) name none
    | (name, _ :: v) => ofWord ("--".toList ++ word) name (some v) := by
  cases word
  case nil  => contradiction
  case cons => rfl

theorem any_inquiries_iff : inquiries.any (· = name) ↔ name ∈ inquiryWords := by
  simp only [List.any_eq_true, decide_eq_true_eq, exists_eq_right]
  rfl

theorem ofWord_of_not_mem (h : name ∉ valuedWords ++ flagWords ++ inquiryWords) (a : Text)
    (v : Option Text) : ofWord a name v = .wrong (.unknown a) := by
  have ⟨hn, hi⟩ := not_or.mp <| mt List.mem_append.mpr h
  have hi : ¬inquiries.any (· = name) := mt any_inquiries_iff.mp hi
  simp only [valuedWords, flagWords, List.cons_append, List.nil_append, List.mem_cons,
    List.not_mem_nil, or_false, not_or] at hn
  have ⟨h₁, h₂, h₃, h₄, h₅, h₆⟩ := hn
  rw [ofWord, if_neg h₁, if_neg h₂, if_neg h₃, if_neg h₄, if_neg h₅, if_neg h₆, if_neg hi]

theorem ofWord_eq_inquiry (h : ofWord a name v = .inquiry) : name ∈ inquiryWords ∧ v = none := by
  cases v <;> simp only [ofWord, ofWord.valued, ofWord.flag] at h <;> split_ifs at h
  exact ⟨any_inquiries_iff.mp ‹_›, rfl⟩

-- The name of an option ends before the first equals sign.
theorem span_of_not_mem (h : '=' ∉ word) (rest : Text) (hr : ∀ c ∈ rest.head?, c = '=') :
    (word ++ rest).span (· != '=') = (word, rest) := by
  have hw : ∀ c ∈ word, (c != '=') = true := fun c hc =>
    bne_iff_ne.mpr <| ne_of_mem_of_not_mem hc h
  rw [List.span_eq_takeWhile_dropWhile, List.takeWhile_append_of_pos hw,
    List.dropWhile_append_of_pos hw]
  cases rest
  case nil  => simp
  case cons => simp_all

theorem ofText_eq_inquiry (h : ofText a = .inquiry) :
    ∃ word ∈ inquiryWords, a = "--".toList ++ word := by
  revert h
  fun_cases ofText a <;> intro h
  case case2 word _ name hs =>
    rw [List.span_eq_takeWhile_dropWhile, Prod.mk.injEq] at hs
    have hw := List.takeWhile_append_dropWhile (p := (· != '=')) (l := word)
    rw [hs.left, hs.right, List.append_nil] at hw
    exact ⟨name, (ofWord_eq_inquiry h).left, by rw [hw]; rfl⟩
  case case3 => cases (ofWord_eq_inquiry h).right
  all_goals cases h

end Argument

theorem Stray.ofText_eq (h : Stray a) : Argument.ofText a = .positional := by
  cases h
  case positional h =>
    rw [Argument.ofText.eq_def]
    split <;> simp_all
  case hyphen => rfl

theorem Wrong.ofText_eq (h : Wrong a fault) : Argument.ofText a = .wrong fault := by
  cases h
  case letter hh hp =>
    rw [Argument.ofText.eq_def]
    split <;> simp_all
  case word word hn he hw =>
    have hs := Argument.span_of_not_mem he [] nofun
    rw [List.append_nil] at hs
    rw [Argument.ofText_word hw, hs]
    exact Argument.ofWord_of_not_mem hn _ _
  case wordJoined word v hn he =>
    have hs := Argument.span_of_not_mem he ('=' :: v) (by simp)
    rw [List.append_assoc, Argument.ofText_word (by simp), hs]
    exact Argument.ofWord_of_not_mem hn _ _
  case flagJoined word v hf =>
    simp only [flagWords, inquiryWords, List.cons_append, List.nil_append, List.mem_cons,
      List.not_mem_nil, or_false] at hf
    rcases hf with rfl | rfl | rfl | rfl | rfl | rfl | rfl <;> rfl

namespace Reading

theorem ofArguments_cons_of_wrong (h : Wrong a fault) (as : List Text) :
    ofArguments (a :: as) = .error fault := by
  rw [ofArguments.eq_def]
  simp only [h.ofText_eq]

theorem ofArguments_cons_of_stray (h : Stray a) (as : List Text) :
    ofArguments (a :: as) = (ofArguments as).map (pass a) := by
  rw [ofArguments.eq_def]
  simp only [h.ofText_eq]

theorem ofArguments_cons_of_inquiry (hw : word ∈ inquiryWords) (as : List Text) :
    ofArguments (("--".toList ++ word) :: as) =
      (ofArguments as).map (inquire ("--".toList ++ word)) := by
  have ha : Argument.ofText ("--".toList ++ word) = .inquiry := by
    simp only [inquiryWords, List.mem_cons, List.not_mem_nil, or_false] at hw
    rcases hw with rfl | rfl | rfl <;> rfl
  rw [ofArguments.eq_def]
  simp only [ha]

theorem ofArguments_of_occurrences (h : Occurrences as cs) (he : ending ∈ [[], ["--".toList]]) :
    ofArguments (as ++ ending) = .ok { choices := cs } := by
  have hr : ofArguments ending = .ok {} := by
    simp only [List.mem_cons, List.not_mem_nil, or_false] at he
    rcases he with rfl | rfl <;> rfl
  rw [ofArguments_append h, hr]
  simp only [Except.map, prepend, List.append_nil]

theorem settle_of_inquiry {r : Reading} (h : r.inquiries = q :: qs) :
    r.settle = .error (.answered q) := by
  rw [settle, h]

theorem settle_of_positional {r : Reading} (hi : r.inquiries = []) (h : r.positionals = a :: as) :
    r.settle = .error (.refused <| .positional a) := by
  rw [settle, hi, h]

theorem exists_of_map_eq_ok {e : Except Fault Reading} {f : Reading → Reading}
    (h : e.map f = .ok r) : ∃ r', e = .ok r' ∧ f r' = r := by
  cases e
  case error => cases h
  case ok    => exact ⟨_, rfl, Except.ok.inj h⟩

-- No inquiry comes out that has not been made.
theorem mem_of_mem_inquiries (h : ofArguments as = .ok r) (hq : q ∈ r.inquiries) :
    q ∈ as ∧ Argument.ofText q = .inquiry := by
  fun_induction ofArguments as generalizing r
  case case1 | case3 | case7 | case8 => cases h <;> contradiction
  case case2 hi | case6 hi =>
    obtain ⟨r, hr, rfl⟩ := exists_of_map_eq_ok h
    exact (hi hr hq).imp_left <| List.mem_cons_of_mem _
  case case4 hi =>
    obtain ⟨r, hr, rfl⟩ := exists_of_map_eq_ok h
    exact (hi hr hq).imp_left <| List.mem_cons_of_mem _ ∘ List.mem_cons_of_mem _
  case case5 ha hi =>
    obtain ⟨r, hr, rfl⟩ := exists_of_map_eq_ok h
    cases List.mem_cons.mp hq
    case inl hq =>
      subst hq
      exact ⟨List.mem_cons_self, ha⟩
    case inr hq => exact (hi hr hq).imp_left <| List.mem_cons_of_mem _

end Reading

namespace Options

-- Choices of different kinds do not get in each other's way.
theorem foldl_choose_eq (cs : List Choice) (o : Options) :
    cs.foldl choose o = {
      settings := {
        allowed   := Choice.last Choice.allowed? o.settings.allowed cs
        separator := Choice.last Choice.separator? o.settings.separator cs
        mode      := Choice.last Choice.mode? o.settings.mode cs }
      summary := Choice.last Choice.summary? o.summary cs } := by
  induction cs generalizing o
  case nil          => rfl
  case cons c cs hi =>
    rw [List.foldl_cons, hi]
    simp only [Choice.last_cons]
    cases c <;> rfl

theorem read_of_occurrences (h : Occurrences as cs) (he : ending ∈ [[], ["--".toList]]) :
    read (as ++ ending) = .ok (ofChoices cs) := by
  rw [read_eq, read_of_ok <| Reading.ofArguments_of_occurrences h he]
  rfl

end Options

-- The program ends at once, having read and written nothing about frames.
structure Stops (arguments : List Text) (stop : Stop) : Prop where
  execute : ∀ setting input, execute setting arguments input = .error stop
  run     : ∀ input, run arguments input = .error stop

structure Refuses (arguments : List Text) (fault : Fault) : Prop
    extends Stops arguments (.refused fault) where
  status : ∀ setting input, status (Command.execute setting arguments input) = 2

theorem Stops.of_read (h : read arguments = .error stop) : Stops arguments stop where
  execute setting input := by rw [execute_eq, Options.read_eq, h]; rfl
  run input             := by rw [run_eq, Options.read_eq, h]; rfl

theorem Refuses.of_stops (h : Stops arguments (.refused fault)) : Refuses arguments fault where
  toStops              := h
  status setting input := by rw [h.execute]; rfl

theorem Refuses.of_read (h : read arguments = .error (.refused fault)) : Refuses arguments fault :=
  .of_stops <| .of_read h

theorem read_append_of_error (h : Occurrences as cs) (hr : read bs = .error stop) :
    read (as ++ bs) = .error stop := by
  rw [read_append h, hr]
  rfl

theorem read_cons_of_wrong (h : Wrong a fault) (as : List Text) :
    read (a :: as) = .error (.refused fault) :=
  read_of_error <| Reading.ofArguments_cons_of_wrong h as

theorem read_singleton_of_lacking (h : a ∈ lacking) :
    read [a] = .error (.refused <| .missingValue a) := by
  simp only [lacking, List.mem_cons, List.not_mem_nil, or_false] at h
  rcases h with rfl | rfl | rfl <;> rfl

-- Without an inquiry, an argument that is no option is complained about, unless there is worse.
theorem exists_read_cons_of_stray (h : Stray a) (as : List Text) :
    ∃ stop, read (a :: as) = .error stop ∧
      ((∀ word ∈ inquiryWords, "--".toList ++ word ∉ as) → ∃ fault, stop = .refused fault) := by
  have ha := Reading.ofArguments_cons_of_stray h as
  cases hr : Reading.ofArguments as <;> rw [hr] at ha
  case error fault => exact ⟨_, read_of_error ha, fun _ => ⟨fault, rfl⟩⟩
  case ok r =>
    rw [read_of_ok ha]
    cases hi : r.inquiries
    case nil       => exact ⟨_, Reading.settle_of_positional hi rfl, fun _ => ⟨_, rfl⟩⟩
    case cons q qs =>
      refine ⟨_, Reading.settle_of_inquiry hi, fun hn => ?_⟩
      have ⟨hq, ha⟩ := Reading.mem_of_mem_inquiries hr <| hi ▸ List.mem_cons_self
      obtain ⟨word, hw, rfl⟩ := Argument.ofText_eq_inquiry ha
      exact absurd hq <| hn word hw

theorem read_cons_of_stray (h : Stray a) (hc : Occurrences as cs)
    (he : ending ∈ [[], ["--".toList]]) :
    read (a :: (as ++ ending)) = .error (.refused <| .positional a) := by
  rw [read_of_ok <| (Reading.ofArguments_cons_of_stray h _).trans <|
    congrArg _ <| Reading.ofArguments_of_occurrences hc he]
  rfl

theorem read_cons_of_inquiry (hw : word ∈ inquiryWords) (hc : Occurrences as cs)
    (he : ending ∈ [[], ["--".toList]]) :
    read (("--".toList ++ word) :: (as ++ ending)) = .error (.answered <| "--".toList ++ word) := by
  rw [read_of_ok <| (Reading.ofArguments_cons_of_inquiry hw _).trans <|
    congrArg _ <| Reading.ofArguments_of_occurrences hc he]
  rfl

-- What the program puts out and writes about frames is what its session does. Around that there is
-- a record of the options, and the summary.
theorem process_eq_run (setting : Option Text) (o : Options) (input : Text) :
    let p := (Process.start o.settings).run setting (stream <| inputLines input)
    process setting o input = { p with console := {
      output  := p.console.output
      written := (opening o).filter (·.isWritten setting) ++ p.console.written
        ++ (closing o p.session.counters).filter (·.isWritten setting) } } := by
  intro p
  have ho : (opening o).flatMap Event.output = [] := rfl
  simp only [process_eq, p, Process.run_eq, Console.performAll_eq, events, List.flatMap_append,
    List.filter_append, ho, flatMap_output_closing, List.nil_append, List.append_nil]
  rfl

theorem filter_opening_of_terse (h : Log.Terse setting) (o : Options) :
    (opening o).filter (·.isWritten setting) = [] := by
  have hn := Log.Notice.not_isAdmitted_of_debug h
    (n := .options o.settings.allowed o.settings.mode) rfl
  simp [opening, Event.isWritten, hn]

-- A question about the program is answered where an option can stand, and nothing is run.
theorem inquiry_answered (h : List.Forall₂ Spells cs spellings) (hw : word ∈ inquiryWords)
    (he : ending ∈ [[], ["--".toList]]) (n : Nat) :
    let inquiry := "--".toList ++ word
    let arguments := (spellings.take n).flatten ++ inquiry :: ((spellings.drop n).flatten ++ ending)
    Stops arguments (.answered inquiry) ∧
      ∀ setting input, status (execute setting arguments input) = 0 := by
  intro inquiry arguments
  have ht := occurrences_flatten <| List.forall₂_take n h
  have hd := occurrences_flatten <| List.forall₂_drop n h
  have hs : Stops arguments (.answered inquiry) :=
    .of_read <| read_append_of_error ht <| read_cons_of_inquiry hw hd he
  exact ⟨hs, fun setting input => by rw [hs.execute]; rfl⟩

-- However its options are spelled, the program does what the last choice of each kind asks for. An
-- argument that does not belong among them is not passed over, wherever it stands, and neither is
-- an option that is left without its value. Only for an argument that is no option can a question
-- after it make up.
theorem options_reach_run (h : List.Forall₂ Spells cs spellings) :
    let o : Options := {
      settings := {
        allowed   := Choice.last Choice.allowed? "/api".toList cs
        separator := Choice.last Choice.separator? "===================".toList cs
        mode      := Choice.last Choice.mode? .lenient cs }
      summary := Choice.last Choice.summary? false cs }
    (∀ ending ∈ [[], ["--".toList]], ∀ setting input,
      let arguments := spellings.flatten ++ ending
      let p := (Process.start o.settings).run setting (stream <| inputLines input)
      status (execute setting arguments input) = 0 ∧
      execute setting arguments input = .ok { p with console := {
        output  := p.console.output
        written := (opening o).filter (·.isWritten setting) ++ p.console.written
          ++ (closing o p.session.counters).filter (·.isWritten setting) } }) ∧
    (∀ setting, Log.Terse setting → (opening o).filter (·.isWritten setting) = []) ∧
    (∀ n a fault after, Wrong a fault →
      Refuses ((spellings.take n).flatten ++ a :: after) fault) ∧
    (∀ n a, Stray a → ∀ ending ∈ [[], ["--".toList]],
      Refuses ((spellings.take n).flatten ++ a :: ((spellings.drop n).flatten ++ ending))
        (.positional a)) ∧
    (∀ n a after, Stray a →
      let arguments := (spellings.take n).flatten ++ a :: after
      (∃ stop, Stops arguments stop) ∧
      ((∀ word ∈ inquiryWords, "--".toList ++ word ∉ after) → ∃ fault, Refuses arguments fault)) ∧
    ∀ a ∈ lacking, Refuses (spellings.flatten ++ [a]) (.missingValue a) := by
  intro o
  have ho : Options.ofChoices cs = o := Options.foldl_choose_eq cs {}
  have hc := occurrences_flatten h
  have ht (n : Nat) := occurrences_flatten <| List.forall₂_take n h
  have hd (n : Nat) := occurrences_flatten <| List.forall₂_drop n h
  refine ⟨fun ending he setting input => ?accepted, fun setting ht => filter_opening_of_terse ht o,
    fun n a fault after ha => .of_read ?wrong, fun n a ha ending he => .of_read ?stray,
    fun n a after ha => ?strayBefore, fun a ha => .of_read ?lacking⟩
  case accepted =>
    have hx : execute setting (spellings.flatten ++ ending) input =
        .ok (process setting o input) := by
      rw [execute_eq, Options.read_of_occurrences hc he, ho]
      rfl
    exact ⟨by rw [hx]; rfl, hx.trans <| congrArg Except.ok <| process_eq_run setting o input⟩
  case wrong => exact read_append_of_error (ht n) <| read_cons_of_wrong ha after
  case stray => exact read_append_of_error (ht n) <| read_cons_of_stray ha (hd n) he
  case strayBefore =>
    have ⟨stop, hr, hf⟩ := exists_read_cons_of_stray ha after
    have hs := Stops.of_read <| read_append_of_error (ht n) hr
    refine ⟨⟨stop, hs⟩, fun hn => ?_⟩
    obtain ⟨fault, rfl⟩ := hf hn
    exact ⟨fault, .of_stops hs⟩
  case lacking => exact read_append_of_error hc <| read_singleton_of_lacking ha

-- Three of the values look like options, and one is empty. The hyphen comes after the first option.
theorem options_reach_run_lookalikes :
    let arguments := ["--separator=".toList, "-p=--strict-hex".toList, "--separator".toList,
      "--help".toList, "--summary".toList]
    let settings : Settings := {
      allowed   := "=--strict-hex".toList
      separator := "--help".toList
      mode      := .lenient }
    (∀ input, ∃ p,
      execute none (["-p".toList, "--".toList] ++ arguments ++ ["--".toList]) input = .ok p ∧
      p.session = (Session.start settings).after (stream <| inputLines input)) ∧
    Refuses (["-p".toList, "--".toList] ++ ['-'] :: arguments) (.positional ['-']) ∧
    Refuses (["-p".toList, "--".toList] ++ arguments ++ ["--prefix".toList])
      (.missingValue "--prefix".toList) := by
  intro arguments settings
  have hs : List.Forall₂ Spells [.allow "--".toList, .separator [], .allow "=--strict-hex".toList,
      .separator "--help".toList, .summary true] [["-p".toList, "--".toList],
      ["--separator=".toList], ["-p=--strict-hex".toList], ["--separator".toList, "--help".toList],
      ["--summary".toList]] :=
    .cons .allowLetter <| .cons (.separatorJoined (v := [])) <|
      .cons (.allowLetterJoined (v := "=--strict-hex".toList) (by decide)) <|
      .cons .separator <| .cons .summary .nil
  have ⟨hx, _, _, hw, _, hl⟩ := options_reach_run hs
  refine ⟨fun input => ?_, hw 1 _ .hyphen [] <| by decide, hl _ <| by decide⟩
  exact ⟨_, (hx _ (by decide) none input).right, congrArg Process.session <| Process.run_eq ..⟩

end FrameFilter.Command
