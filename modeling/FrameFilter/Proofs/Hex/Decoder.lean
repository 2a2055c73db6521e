import FrameFilter.Hex.Decoder
import FrameFilter.Proofs.Utf8.Decoder

namespace FrameFilter.Hex.Decoder

-- What can be asked of a decoder.
inductive Call where
  | decode (line : Text)
  | flush
  deriving DecidableEq

-- The answer to a call and the decoder after it, which is the one before it if the line is refused.
def call (d : Decoder) : Call → Except Fault Text × Decoder
  | .decode line =>
    match d.decode line with
    | .ok (t, d)   => (.ok t, d)
    | .error fault => (.error fault, d)
  | .flush => (.ok d.flush.1, d.flush.2)

def answers (d : Decoder) : List Call → List (Except Fault Text)
  | []      => []
  | c :: cs => (d.call c).1 :: (d.call c).2.answers cs

def after (d : Decoder) (cs : List Call) : Decoder :=
  cs.foldl (call · · |>.2) d

-- What the calls give out that are not refused.
def texts (d : Decoder) (cs : List Call) : List Text :=
  (d.answers cs).filterMap Except.toOption

-- The octets of the lines that are not refused.
def octets (m : Mode) (lines : List Text) : Octets :=
  (lines.filterMap (read m · |>.toOption)).flatten

variable {d : Decoder} {m : Mode}

theorem decode_of_ok (h : read d.mode line = .ok bs) :
    d.decode line = .ok ((d.utf8.feed bs).1, { d with utf8 := (d.utf8.feed bs).2 }) := by
  simp [decode, h, bind, Except.bind, pure, Except.pure]

theorem decode_of_error (h : read d.mode line = .error fault) : d.decode line = .error fault := by
  simp [decode, h, bind, Except.bind]

theorem call_of_ok (h : read d.mode line = .ok bs) :
    d.call (.decode line) = (.ok (d.utf8.feed bs).1, { d with utf8 := (d.utf8.feed bs).2 }) := by
  simp [call, decode_of_ok h]

theorem call_of_error (h : read d.mode line = .error fault) :
    d.call (.decode line) = (.error fault, d) := by
  simp [call, decode_of_error h]

theorem call_mode : (d.call c).2.mode = d.mode := by
  cases c
  case flush       => rfl
  case decode line =>
    cases h : read d.mode line
    case ok    => rw [call_of_ok h]
    case error => rw [call_of_error h]

theorem after_cons : d.after (c :: cs) = (d.call c).2.after cs :=
  rfl

theorem after_append : d.after (as ++ bs) = (d.after as).after bs :=
  List.foldl_append

theorem after_mode : (d.after cs).mode = d.mode := by
  induction cs generalizing d
  case nil          => rfl
  case cons c cs hi => exact hi.trans call_mode

theorem answers_append : d.answers (as ++ bs) = d.answers as ++ (d.after as).answers bs := by
  induction as generalizing d
  case nil          => rfl
  case cons a as hi => simp [answers, after_cons, hi]

theorem sound_call (hd : d.utf8.Sound) (c : Call) : (d.call c).2.utf8.Sound := by
  cases c
  case flush       => exact .idle
  case decode line =>
    cases h : read d.mode line
    case ok    => rw [call_of_ok h]; exact hd.feed
    case error => rw [call_of_error h]; exact hd

theorem sound_after (hd : d.utf8.Sound) (cs : List Call) : (d.after cs).utf8.Sound := by
  induction cs generalizing d
  case nil          => exact hd
  case cons c cs hi => exact hi <| sound_call hd c

theorem octets_cons_of_ok (h : read m line = .ok bs) :
    octets m (line :: lines) = bs ++ octets m lines := by
  simp [octets, h, Except.toOption]

theorem octets_cons_of_error (h : read m line = .error fault) :
    octets m (line :: lines) = octets m lines := by
  simp [octets, h, Except.toOption]

theorem texts_cons_of_ok (h : (d.call c).1 = .ok t) :
    d.texts (c :: cs) = t :: (d.call c).2.texts cs := by
  rw [texts, answers, h]
  rfl

theorem texts_cons_of_error (h : (d.call c).1 = .error fault) :
    d.texts (c :: cs) = (d.call c).2.texts cs := by
  rw [texts, answers, h]
  rfl

theorem texts_flush : d.texts [.flush] = [d.utf8.release] :=
  rfl

theorem texts_append : d.texts (as ++ bs) = d.texts as ++ (d.after as).texts bs := by
  simp [texts, answers_append]

-- The calls for several lines are like one call for their octets.
theorem after_decode (d : Decoder) (lines : List Text) :
    d.after (lines.map .decode) = { d with utf8 := (d.utf8.feed (octets d.mode lines)).2 } := by
  induction lines generalizing d
  case nil => rfl
  case cons line lines hi =>
    rw [List.map_cons, after_cons, hi]
    cases h : read d.mode line
    case error => simp [call_of_error h, octets_cons_of_error h]
    case ok    => simp [call_of_ok h, octets_cons_of_ok h, Utf8.Decoder.feed_append]

theorem texts_decode (d : Decoder) (lines : List Text) :
    (d.texts (lines.map .decode)).flatten = (d.utf8.feed (octets d.mode lines)).1 := by
  induction lines generalizing d
  case nil => rfl
  case cons line lines hi =>
    cases h : read d.mode line
    case error =>
      have hc := call_of_error h
      rw [List.map_cons, texts_cons_of_error (by rw [hc]), hi, hc, octets_cons_of_error h]
    case ok =>
      have hc := call_of_ok h
      rw [List.map_cons, texts_cons_of_ok (by rw [hc]), List.flatten_cons, hi, hc,
        octets_cons_of_ok h, Utf8.Decoder.feed_append]

-- A call is refused exactly if its line cannot be read, whatever came before it.
theorem isOk_call_decode : (d.call (.decode line)).1.isOk = (read d.mode line).isOk := by
  cases h : read d.mode line
  case error => rw [call_of_error h]; rfl
  case ok    => rw [call_of_ok h]; rfl

theorem call_of_not_isOk (h : (read d.mode line).isOk = false) :
    (d.call (.decode line)).2 = d := by
  cases hr : read d.mode line
  case error => rw [call_of_error hr]
  case ok    => rw [hr] at h; contradiction

theorem isOk_answers_decode (d : Decoder) (lines : List Text) :
    (d.answers (lines.map .decode)).map (·.isOk) = lines.map (read d.mode · |>.isOk) := by
  induction lines generalizing d
  case nil => rfl
  case cons line lines hi =>
    rw [List.map_cons, answers, List.map_cons, List.map_cons, isOk_call_decode, hi, call_mode]

-- The lines that are refused could as well be left out.
theorem answers_decode_filter (d : Decoder) (lines : List Text) :
    d.answers ((lines.filter (read d.mode · |>.isOk)).map .decode) =
      (d.answers (lines.map .decode)).filter (·.isOk) := by
  induction lines generalizing d
  case nil => rfl
  case cons line lines hi =>
    have hc : (d.call (.decode line)).1.isOk = (read d.mode line).isOk := isOk_call_decode
    cases hr : (read d.mode line).isOk
    case false =>
      rw [List.map_cons, answers, List.filter_cons_of_neg (by simp [hr]),
        List.filter_cons_of_neg (by simp [hc, hr]), call_of_not_isOk hr, hi]
    case true  =>
      have hi := hi (d.call (.decode line)).2
      rw [call_mode] at hi
      rw [List.filter_cons_of_pos (by exact hr), List.map_cons, List.map_cons, answers, answers,
        List.filter_cons_of_pos (by rw [hc, hr]), hi]

theorem octets_filter (m : Mode) (lines : List Text) :
    octets m (lines.filter (read m · |>.isOk)) = octets m lines := by
  induction lines
  case nil => rfl
  case cons line lines hi =>
    cases h : read m line
    case error =>
      rw [List.filter_cons_of_neg (by rw [h]; exact Bool.false_ne_true), hi, octets_cons_of_error h]
    case ok =>
      rw [List.filter_cons_of_pos (by rw [h]; rfl), octets_cons_of_ok h, octets_cons_of_ok h, hi]

theorem eq_empty_of_held_eq_nil (hm : d.mode = m) (hh : d.utf8.held = []) : d = empty m := by
  have hi := Utf8.Decoder.held_eq_nil_iff.mp hh
  rw [empty, ← hm, ← hi]

theorem after_eq_empty (hb : before = [] ∨ before.getLast? = some .flush) :
    (empty m).after before = empty m := by
  cases hb
  case inl h => rw [h]; rfl
  case inr h =>
    have ⟨init, hi⟩ := List.getLast?_eq_some_iff.mp h
    rw [hi, after_append]
    exact congrArg empty after_mode

-- How octets are spread over lines does not matter: what is given out from one flush to the next is
-- the text of all their octets.
theorem texts_eq_decode_octets (m : Mode) (before : List Call) (lines : List Text)
    (hb : before = [] ∨ before.getLast? = some .flush) :
    let start := (empty m).after before
    let calls := lines.map Call.decode
    let accepted := lines.filter (read m · |>.isOk)
    (start.texts (calls ++ [.flush])).flatten = Utf8.decode (octets m lines) ∧
      (start.answers calls).map (·.isOk) = lines.map (read m · |>.isOk) ∧
      start.answers (accepted.map .decode) = (start.answers calls).filter (·.isOk) ∧
      start.after (accepted.map .decode) = start.after calls ∧
      start.after (calls ++ [.flush]) = empty m := by
  intro start calls accepted
  have hs : start = empty m := after_eq_empty hb
  clear_value start
  subst hs
  refine ⟨?_, isOk_answers_decode _ lines, answers_decode_filter _ lines, ?_, ?_⟩
  case refine_1 =>
    rw [texts_append, List.flatten_append, texts_decode, after_decode, texts_flush,
      List.flatten_singleton]
    exact Utf8.Decoder.Sound.idle.feed_append_release _
  case refine_2 =>
    have ho : octets m accepted = octets m lines := octets_filter m lines
    rw [after_decode, after_decode]
    exact ho ▸ rfl
  case refine_3 =>
    rw [after_append]
    exact congrArg empty after_mode

-- A refused line between the two octets of a character does not part them.
theorem texts_eq_decode_octets_refused :
    ((empty .strict).after [.decode "c3".toList, .flush]
        |>.texts [.decode "c3".toList, .decode "zz".toList, .decode "a9".toList, .flush]).flatten =
      ['é'] := by
  have ⟨h, _⟩ := texts_eq_decode_octets .strict [.decode "c3".toList, .flush]
    ["c3".toList, "zz".toList, "a9".toList] (.inr rfl)
  have ho : octets .strict ["c3".toList, "zz".toList, "a9".toList] = Utf8.encode ['é'] := by decide
  rw [ho, Utf8.decode_encode] at h
  exact h

end FrameFilter.Hex.Decoder
