import FrameFilter.Proofs.Hex.Line
import FrameFilter.Proofs.Session.Outcome

namespace FrameFilter.Session

-- Whether a line is hex, apart from its terminator.
def isHex (line : Text) : Bool :=
  Hex.IsClean (Text.chomp line)

def addRefused (s : Session) (n : Nat) : Session :=
  { s with counters := s.counters.addRefused n }

-- What becomes of a line that could not be decoded: it is echoed and reported, and apart from that
-- it is only counted.
def refusal (s : Session) (l : Text) (fault : Hex.Fault) : Step where
  isShown := none
  events  := [.echo (Text.chomp l), .log (.undecodableLine (s.counters.read + 1) fault)]
  session := s.addRefused 1

-- What the world sees of a step.
def Step.visible (t : Step) : Option Bool × List Event :=
  (t.isShown, t.events)

variable {s : Session} {l : Text} {lines : List Text}

theorem addRefused_add : (s.addRefused m).addRefused n = s.addRefused (m + n) := by
  simp [addRefused, Counters.addRefused_add]

theorem decode_of_isHex (h : isHex l) : ∃ r, s.decoder.decode (Text.chomp l) = .ok r :=
  have hc : Hex.IsClean (Text.chomp l) := of_decide_eq_true h
  ⟨_, Hex.Decoder.decode_of_ok <| Hex.read_of_isClean s.decoder.mode hc⟩

theorem isSome_isShown_of_isHex (h : isHex l) : (s.line l).isShown.isSome := by
  have ⟨_, hd⟩ := decode_of_isHex (s := s) h
  rw [line_of_ok hd]
  rfl

theorem line_of_not_isHex (hs : s.decoder.mode = .strict) (h : ¬isHex l) :
    ∃ fault, Hex.read .strict (Text.chomp l) = .error fault ∧ s.line l = s.refusal l fault := by
  have hc : ¬Hex.IsClean (Text.chomp l) := fun hc => h <| decide_eq_true hc
  have ⟨fault, hr⟩ := Hex.exists_read_eq_error hc
  have hd := Hex.Decoder.decode_of_error (hs ▸ hr : Hex.read s.decoder.mode _ = _)
  refine ⟨fault, hr, ?_⟩
  rw [line_of_error hd, hs]
  rfl

-- No decision depends on the account of the lines before.
theorem line_addRefused (h : isHex l) (n : Nat) :
    (s.addRefused n).line l = { s.line l with session := (s.line l).session.addRefused n } := by
  have ⟨_, hd⟩ := decode_of_isHex (s := s) h
  have hd' : (s.addRefused n).decoder.decode (Text.chomp l) = _ := hd
  rw [line_of_ok hd, line_of_ok hd']
  simp [addRefused, Counters.addVerdict_addRefused]

theorem finish_addRefused (s : Session) (n : Nat) :
    (s.addRefused n).finish = { s.finish with session := s.finish.session.addRefused n } :=
  rfl

theorem after_addRefused (n : Nat) (h : ∀ l ∈ lines, isHex l) :
    (s.addRefused n).after (lines.map .line) = (s.after (lines.map .line)).addRefused n := by
  induction lines generalizing s
  case nil             => rfl
  case cons l lines hi =>
    have ⟨hl, hr⟩ := List.forall_mem_cons.mp h
    rw [List.map_cons, after_cons, act, line_addRefused hl]
    exact hi hr

theorem visible_trace_addRefused (n : Nat) (h : ∀ l ∈ lines, isHex l) :
    ((s.addRefused n).trace (lines.map .line)).map Step.visible =
      (s.trace (lines.map .line)).map Step.visible := by
  induction lines generalizing s
  case nil             => rfl
  case cons l lines hi =>
    have ⟨hl, hr⟩ := List.forall_mem_cons.mp h
    have hi := hi (s := (s.line l).session) hr
    simp only [List.map_cons, trace, act, line_addRefused hl, hi]
    rfl

theorem displayed_eq_flatMap_visible (s : Session) (as : List Action) :
    s.displayed as =
      ((s.trace as).map Step.visible).flatMap (·.2.filterMap Event.displayed?) := by
  simp [displayed, events, Step.visible, List.filterMap_flatMap, List.flatMap_map]

theorem displayed_addRefused (n : Nat) (h : ∀ l ∈ lines, isHex l) :
    (s.addRefused n).displayed (lines.map .line) = s.displayed (lines.map .line) := by
  rw [displayed_eq_flatMap_visible, visible_trace_addRefused n h, ← displayed_eq_flatMap_visible]

-- A strict session deals with a line in one of two ways, and both leave it strict.
@[elab_as_elim]
theorem strict_induction {motive : Session → List Text → Prop} (s : Session) (lines : List Text)
    (hs : s.decoder.mode = .strict) (nil : ∀ s, motive s [])
    (hex : ∀ s l lines, isHex l → motive (s.line l).session lines → motive s (l :: lines))
    (refused : ∀ s l lines fault, ¬isHex l → s.line l = s.refusal l fault →
      motive (s.addRefused 1) lines → motive s (l :: lines)) :
    motive s lines := by
  induction lines generalizing s
  case nil             => exact nil s
  case cons l lines hi =>
    by_cases h : isHex l
    case pos => exact hex s l lines h <| hi _ <| (line_mode s l).trans hs
    case neg =>
      obtain ⟨fault, _, hl⟩ := line_of_not_isHex hs h
      exact refused s l lines fault h hl <| hi _ hs

theorem isSome_isShown_trace (hs : s.decoder.mode = .strict) (lines : List Text) :
    (s.trace (lines.map .line)).map (·.isShown.isSome) = lines.map isHex := by
  refine strict_induction s lines hs ?nil ?hex ?refused
  case nil => exact fun _ => rfl
  case hex =>
    intro s l lines h hi
    have hl : (s.line l).isShown.isSome = isHex l := (isSome_isShown_of_isHex h).trans h.symm
    simp only [List.map_cons, trace, act, hl, hi]
  case refused =>
    intro s l lines fault h hl hi
    have hn : isHex l = false := eq_false_of_ne_true h
    simp only [List.map_cons, trace, act, hl, hn]
    exact congrArg _ hi

-- Without the lines that are refused, a run only has a smaller account.
theorem after_lines_of_strict (hs : s.decoder.mode = .strict) (lines : List Text) :
    s.after (lines.map .line) =
      (s.after ((lines.filter isHex).map .line)).addRefused (lines.countP (!isHex ·)) := by
  refine strict_induction s lines hs ?nil ?hex ?refused
  case nil => exact fun _ => rfl
  case hex =>
    intro s l lines h hi
    rw [List.map_cons, after_cons, act, hi, List.filter_cons_of_pos h,
      List.countP_cons_of_neg (by simp [h])]
    rfl
  case refused =>
    intro s l lines fault h hl hi
    have hk : ∀ l ∈ lines.filter isHex, isHex l := fun _ => List.of_mem_filter
    rw [List.map_cons, after_cons, act, hl, refusal, hi, after_addRefused 1 hk, addRefused_add,
      Nat.add_comm, List.filter_cons_of_neg h, List.countP_cons_of_pos (by simp [h])]

theorem visible_trace_of_strict (hs : s.decoder.mode = .strict) (lines : List Text) :
    ((s.trace (lines.map .line)).filter (·.isShown.isSome)).map Step.visible =
      (s.trace ((lines.filter isHex).map .line)).map Step.visible := by
  refine strict_induction s lines hs ?nil ?hex ?refused
  case nil => exact fun _ => rfl
  case hex =>
    intro s l lines h hi
    have hl : (s.line l).isShown.isSome := isSome_isShown_of_isHex h
    simp [List.filter_cons_of_pos h, trace, act, hl, hi]
  case refused =>
    intro s l lines fault h hl hi
    have hk : ∀ l ∈ lines.filter isHex, isHex l := fun _ => List.of_mem_filter
    simp only [List.map_cons, trace, act, hl, List.filter_cons_of_neg h]
    exact hi.trans <| visible_trace_addRefused 1 hk

theorem displayed_lines_of_strict (hs : s.decoder.mode = .strict) (lines : List Text) :
    s.displayed (lines.map .line) = s.displayed ((lines.filter isHex).map .line) := by
  refine strict_induction s lines hs ?nil ?hex ?refused
  case nil => exact fun _ => rfl
  case hex =>
    intro s l lines h hi
    rw [List.filter_cons_of_pos h, List.map_cons, List.map_cons, displayed_cons, displayed_cons]
    exact congrArg _ hi
  case refused =>
    intro s l lines fault h hl hi
    have hk : ∀ l ∈ lines.filter isHex, isHex l := fun _ => List.of_mem_filter
    rw [List.filter_cons_of_neg h, List.map_cons, displayed_cons, act, hl]
    exact hi.trans <| displayed_addRefused 1 hk

-- In strict mode the lines that are not hex are refused, and the others fare as if these had never
-- come, even between the octets of one character.
theorem strict_run_eq_hex_run (hs : s.decoder.mode = .strict) (lines : List Text) :
    let kept := lines.filter isHex
    let refused := lines.countP (!isHex ·)
    let steps := s.trace (lines.map .line)
    steps.map (·.isShown.isSome) = lines.map isHex ∧
      (steps.filter (·.isShown.isSome)).map Step.visible =
        (s.trace (kept.map .line)).map Step.visible ∧
      (∀ i l, lines[i]? = some l → ¬isHex l →
        ∃ (step : Step) (fault : Hex.Fault), steps[i]? = some step ∧
          Hex.read .strict (Text.chomp l) = .error fault ∧
          let notice := Log.Notice.undecodableLine (s.counters.read + i + 1) fault
          notice.level = .warning ∧ step.events = [.echo (Text.chomp l), .log notice]) ∧
      s.output (stream lines) = lines.flatMap (Text.chomp · ++ ['\n']) ∧
      s.displayed (stream lines) = s.displayed (stream kept) ∧
      s.after (lines.map .line) = (s.after (kept.map .line)).addRefused refused ∧
      s.after (stream lines) = (s.after (stream kept)).addRefused refused := by
  intro kept refused steps
  have ha := after_lines_of_strict hs lines
  refine ⟨isSome_isShown_trace hs lines, visible_trace_of_strict hs lines, ?_, ?_, ?_, ha, ?_⟩
  case refine_1 =>
    intro i l hi h
    have hn : (lines.map Action.line)[i]? = some (.line l) := by simp [hi]
    have hm := (mode_after_lines s (lines.take i)).trans hs
    have ⟨fault, hr, hl⟩ := line_of_not_isHex hm h
    have ht := getElem?_trace (s := s) hn
    have hlt : i < lines.length := (List.getElem?_eq_some_iff.mp hi).1
    rw [← List.map_take, act, hl, refusal, read_after_lines,
      List.length_take_of_le (Nat.le_of_lt hlt)] at ht
    exact ⟨_, fault, ht, hr, rfl, rfl⟩
  case refine_2 => rw [output_stream, output_lines]
  case refine_3 => rw [displayed_stream, displayed_stream, displayed_lines_of_strict hs]
  case refine_4 => rw [after_stream, after_stream, ha, finish_addRefused]

-- A line of an odd number of digits comes between the two octets of a character.
theorem strict_run_eq_hex_run_parted :
    let s := start { separator := "-".toList, mode := .strict }
    let lines := ["c3\n".toList, "a9a\r\n".toList, "a9\n".toList]
    (s.trace (lines.map .line)).map (·.isShown.isSome) = [true, false, true] ∧
      (∃ (step : Step) (fault : Hex.Fault), (s.trace (lines.map .line))[1]? = some step ∧
        step.events = [.echo "a9a".toList, .log (.undecodableLine 2 fault)]) ∧
      s.displayed (stream lines) = [("-".toList, []), ("-".toList, ['é'])] ∧
      (s.after (stream lines)).counters.undecodable = 1 := by
  intro s lines
  have ⟨hi, _, hr, _, hd, _, ha⟩ := strict_run_eq_hex_run (s := s) rfl lines
  have hk : lines.filter isHex = ["c3\n".toList, "a9\n".toList] := by decide
  have ⟨step, fault, hs, _, _, he⟩ := hr 1 "a9a\r\n".toList rfl (by decide)
  rw [hk] at hd
  refine ⟨hi.trans (by decide), ⟨step, fault, hs, he⟩, hd.trans (by decide), ?_⟩
  rw [ha]
  decide

end FrameFilter.Session
