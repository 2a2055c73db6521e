import FrameFilter.Proofs.Account.Balance
import FrameFilter.Proofs.Hex.Line
import FrameFilter.Proofs.Session.Outcome

namespace FrameFilter

namespace Session

-- What can happen to a session: an action of its own, or a change of its filter by others that use
-- it as well.
inductive Turn where
  | act (action : Action)
  | share (filter : Filter)

def turn (s : Session) : Turn → Session
  | .act a   => (s.act a).session
  | .share f => { s with filter := f }

def afterTurns (s : Session) (ts : List Turn) : Session :=
  ts.foldl turn s

-- The outcomes of the lines.
def outcomes (s : Session) : List Turn → List (Option Bool)
  | []                   => []
  | .act (.line l) :: ts => (s.line l).isShown :: (s.line l).session.outcomes ts
  | .act .finish :: ts   => s.finish.session.outcomes ts
  | .share f :: ts       => (s.turn (.share f)).outcomes ts

def displayedInTurns (s : Session) : List Turn → List (Text × Text)
  | []             => []
  | .act a :: ts   => (s.act a).displayed ++ (s.act a).session.displayedInTurns ts
  | .share f :: ts => (s.turn (.share f)).displayedInTurns ts

variable {s : Session}

theorem afterTurns_append : s.afterTurns (ts ++ us) = (s.afterTurns ts).afterTurns us :=
  List.foldl_append

theorem balanced_turn (h : s.counters.Balanced) (t : Turn) : (s.turn t).counters.Balanced := by
  cases t
  case share => exact h
  case act a =>
    cases a
    case line l => exact line_counters s l ▸ h.addOutcome _
    case finish => exact h.setPending _

theorem balanced_afterTurns (h : s.counters.Balanced) (ts : List Turn) :
    (s.afterTurns ts).counters.Balanced := by
  induction ts generalizing s
  case nil          => exact h
  case cons t ts hi => exact hi <| balanced_turn h t

theorem within_turn (s : Session) (t : Turn) : s.counters.Within (s.turn t).counters := by
  cases t
  case share => exact .refl _
  case act a =>
    cases a
    case line l => exact line_counters s l ▸ s.counters.within_addOutcome _
    case finish => exact s.counters.within_setPending _

theorem within_afterTurns (s : Session) (ts : List Turn) :
    s.counters.Within (s.afterTurns ts).counters := by
  induction ts generalizing s
  case nil          => exact .refl _
  case cons t ts hi => exact (within_turn s t).trans <| hi _

theorem counts_afterTurns (s : Session) (ts : List Turn) :
    let c := (s.afterTurns ts).counters
    c.shown = s.counters.shown + (s.outcomes ts).count (some true) ∧
      c.hidden = s.counters.hidden + (s.outcomes ts).count (some false) ∧
      c.undecodable = s.counters.undecodable + (s.outcomes ts).count none := by
  induction ts generalizing s
  case nil          => exact ⟨rfl, rfl, rfl⟩
  case cons t ts hi =>
    cases t
    case share f => exact hi _
    case act a =>
      cases a
      case finish => exact hi _
      case line l =>
        have ho : s.outcomes (.act (.line l) :: ts) =
          [(s.line l).isShown] ++ (s.line l).session.outcomes ts := rfl
        have hi := hi (s.line l).session
        rw [line_counters, Counters.shown_addOutcome, Counters.hidden_addOutcome,
          Counters.undecodable_addOutcome, ← line_isShown] at hi
        simp only [ho, List.count_append, ← Nat.add_assoc]
        exact hi

theorem length_displayedInTurns (s : Session) (ts : List Turn) :
    (s.displayedInTurns ts).length = (s.outcomes ts).count (some true) := by
  induction ts generalizing s
  case nil          => rfl
  case cons t ts hi =>
    cases t
    case share f => exact hi _
    case act a =>
      rw [displayedInTurns, List.length_append, hi]
      cases a
      case finish => rw [act, displayed_finish]; exact Nat.zero_add _
      case line l =>
        rw [outcomes, act, length_displayed_line, List.count_cons, Nat.add_comm]
        simp only [beq_iff_eq]

-- A lenient session decodes every line.
theorem not_mem_outcomes_of_lenient (h : s.decoder.mode = .lenient) (ts : List Turn) :
    none ∉ s.outcomes ts := by
  induction ts generalizing s
  case nil          => exact List.not_mem_nil
  case cons t ts hi =>
    cases t
    case share f => exact hi h
    case act a =>
      cases a
      case finish => exact hi h
      case line l =>
        have ⟨_, hr⟩ := Hex.exists_read_eq_ok (Text.chomp l)
        have hd := Hex.Decoder.decode_of_ok (h ▸ hr : Hex.read s.decoder.mode _ = _)
        have hl : none ≠ (s.line l).isShown := by
          rw [line_of_ok hd]
          exact (Option.some_ne_none _).symm
        exact List.not_mem_cons_of_ne_of_not_mem hl <| hi <| (line_mode s l).trans h

-- At any time the account of a session is balanced and agrees with the session's answers and with
-- what it has displayed, whatever the filter has been used for elsewhere.
theorem account_balanced (settings : Settings) (filter : Filter) (turns : List Turn) :
    let s := join settings filter
    let c := (s.afterTurns turns).counters
    let answers := s.outcomes turns
    c.Balanced ∧
      (∀ e ∈ c.reasons.entries, 0 < e.2 ∧ c.reasons.count e.1 = e.2) ∧
      c.malformed = c.reasons.count .malformed ∧
      c.shown = answers.count (some true) ∧
      c.hidden = answers.count (some false) ∧
      c.undecodable = answers.count none ∧
      c.shown = (s.displayedInTurns turns).length ∧
      (settings.mode = .lenient → c.undecodable = 0 ∧ none ∉ answers) ∧
      (∀ later, c.Within (s.afterTurns (turns ++ later)).counters) ∧
      (s.afterTurns (turns ++ [.act .finish])).counters =
        { c with pending := (s.afterTurns turns).filter.pending.size } := by
  intro s c answers
  have hb : c.Balanced := balanced_afterTurns .zero turns
  have ⟨hs, hh, hu⟩ := counts_afterTurns s turns
  have hz : s.counters = .zero := rfl
  simp only [hz, Counters.zero, Nat.zero_add] at hs hh hu
  refine ⟨hb, ?_, rfl, hs, hh, hu, ?_, ?_, ?_, ?_⟩
  case refine_1 => exact fun e he => ⟨hb.reasons.pos e he, hb.reasons.count_of_mem he⟩
  case refine_2 => exact hs.trans (length_displayedInTurns s turns).symm
  case refine_3 =>
    intro hm
    have hn := not_mem_outcomes_of_lenient (s := s) hm turns
    exact ⟨hu.trans <| List.count_eq_zero.mpr hn, hn⟩
  case refine_4 =>
    intro later
    rw [afterTurns_append]
    exact within_afterTurns _ later
  case refine_5 =>
    rw [afterTurns_append]
    rfl

-- A line is refused, and a response is hidden for a request that another session has seen.
theorem account_balanced_shared :
    let s := join { mode := .strict } (.fresh "/api".toList)
    let other := ((start {}).line <| Hex.writeText "1 t\nGET /x".toList).session
    let turns := [.act (.line "zz".toList), .share other.filter,
      .act (.line <| Hex.writeText "2 t".toList), .act .finish,
      .act (.line <| Hex.writeText "2 t".toList)]
    let c := (s.afterTurns turns).counters
    s.outcomes turns = [none, some false, some true] ∧ c.read = 3 ∧
      c.undecodable = 1 ∧ c.hidden = 1 ∧ (s.displayedInTurns turns).length = 1 := by
  intro s other turns c
  have ⟨hb, _, _, hs, hh, hu, hd, _⟩ := account_balanced { mode := .strict } (.fresh "/api".toList)
    turns
  have ho : s.outcomes turns = [none, some false, some true] := by decide
  have hs' : c.shown = 1 := hs.trans <| by rw [ho]; rfl
  have hh' : c.hidden = 1 := hh.trans <| by rw [ho]; rfl
  have hu' : c.undecodable = 1 := hu.trans <| by rw [ho]; rfl
  have hr : c.read = c.shown + c.hidden + c.undecodable := hb.read
  exact ⟨ho, by omega, hu', hh', hd.symm.trans hs'⟩

end Session
end FrameFilter
