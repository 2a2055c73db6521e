import FrameFilter.Text.Newline

namespace FrameFilter.Text

-- What may stand behind a line. The last line of an input may have none.
inductive Terminator where
  | absent
  | lineFeed
  | pair
  deriving DecidableEq

def Terminator.text : Terminator → Text
  | absent   => []
  | lineFeed => ['\n']
  | pair     => ['\r', '\n']

theorem chomp_append_terminator (e : Terminator) (hn : t.getLast? ≠ some '\n')
    (hr : t.getLast? ≠ some '\r') : chomp (t ++ e.text) = t := by
  cases e
  case absent   => simp [Terminator.text, chomp, dropFinal_of_ne hn, dropFinal_of_ne hr]
  case lineFeed => simp [Terminator.text, chomp, dropFinal_append, dropFinal_of_ne hr]
  case pair     =>
    have h : t ++ ['\r', '\n'] = (t ++ ['\r']) ++ ['\n'] := by simp
    rw [Terminator.text, h, chomp, dropFinal_append, dropFinal_append]

-- Each carriage return and line feed that belong together as the line feed alone.
def joinPairs : Text → Text
  | '\r' :: '\n' :: t => '\n' :: joinPairs t
  | c :: t            => c :: joinPairs t
  | []                => []

-- What all lines make together if the last one is terminated as well.
def terminated (t : Text) : Text :=
  t ++ if t ≠ [] ∧ t.getLast? ≠ some '\n' then ['\n'] else []

theorem normalizeNewlines_eq_map (t : Text) :
    normalizeNewlines t = (joinPairs t).map fun c => if c = '\r' then '\n' else c := by
  fun_induction normalizeNewlines t <;> simp_all [joinPairs]

theorem not_mem_normalizeNewlines (t : Text) : '\r' ∉ normalizeNewlines t := by
  rw [normalizeNewlines_eq_map, List.mem_map]
  rintro ⟨c, _, h⟩
  split at h <;> simp_all

theorem normalizeNewlines_of_not_mem (h : '\r' ∉ t) : normalizeNewlines t = t := by
  fun_induction normalizeNewlines t <;> simp_all

theorem normalizeNewlines_eq_nil_iff : normalizeNewlines t = [] ↔ t = [] := by
  fun_cases normalizeNewlines t <;> simp

theorem lines_eq_nil_iff : lines t = [] ↔ t = [] := by
  fun_cases lines t <;> simp

theorem dropFinal_cons (h : c ≠ d) (t : Text) : dropFinal d (c :: t) = c :: dropFinal d t := by
  cases t
  case nil      => simp [dropFinal, h]
  case cons a t =>
    simp only [dropFinal, List.getLast?_cons_cons, List.dropLast_cons_cons]
    split <;> rfl

theorem chomp_cons (hn : c ≠ '\n') (hr : c ≠ '\r') (t : Text) : chomp (c :: t) = c :: chomp t := by
  rw [chomp, dropFinal_cons hn, dropFinal_cons hr, chomp]

theorem terminated_cons : terminated (c :: t) =
    if t = [] ∧ c ≠ '\n' then [c, '\n'] else c :: terminated t := by
  cases t
  case nil      => by_cases h : c = '\n' <;> simp [terminated, h]
  case cons a t => simp [terminated]

theorem lines_cons_newline (t : Text) : lines ('\n' :: t) = ['\n'] :: lines t :=
  if_pos rfl

theorem lines_cons_of_ne (hc : c ≠ '\n') (h : lines t = l :: ls) :
    lines (c :: t) = (c :: l) :: ls := by
  rw [lines, if_neg hc, h]

theorem map_chomp_lines_singleton (hn : c ≠ '\n') (hr : c ≠ '\r') :
    (lines [c]).map chomp = [[c]] := by
  rw [lines, if_neg hn]
  exact congrArg ([·]) <| chomp_cons hn hr []

-- Whether the last line is terminated makes no difference to what the lines say.
theorem map_chomp_lines_terminated (h : '\r' ∉ t) :
    (lines (terminated t)).map chomp = (lines t).map chomp := by
  induction t
  case nil         => rfl
  case cons c t hi =>
    have hr : c ≠ '\r' := (List.ne_of_not_mem_cons h).symm
    have hi := hi <| List.not_mem_of_not_mem_cons h
    rw [terminated_cons]
    split
    case isTrue hs =>
      obtain ⟨rfl, hc⟩ := hs
      rw [lines_cons_of_ne hc (lines_cons_newline []), map_chomp_lines_singleton hc hr]
      exact congrArg ([·]) <| chomp_cons hc hr ['\n']
    case isFalse hs =>
      by_cases hc : c = '\n'
      case pos => rw [hc, lines_cons_newline, lines_cons_newline, List.map_cons, List.map_cons, hi]
      case neg =>
        have hn : t ≠ [] := fun hn => hs ⟨hn, hc⟩
        have hn' : terminated t ≠ [] := by simp [terminated, hn]
        have ⟨l, ls, hl⟩ := List.exists_cons_of_ne_nil <| mt lines_eq_nil_iff.mp hn
        have ⟨l', ls', hl'⟩ := List.exists_cons_of_ne_nil <| mt lines_eq_nil_iff.mp hn'
        rw [hl, hl', List.map_cons, List.map_cons] at hi
        have ⟨h₁, h₂⟩ := List.cons.inj hi
        rw [lines_cons_of_ne hc hl, lines_cons_of_ne hc hl', List.map_cons, List.map_cons,
          chomp_cons hc hr, chomp_cons hc hr, h₁, h₂]

-- Without carriage returns, taking off what ends the lines and putting a line feed behind each of
-- them only terminates the last one.
theorem flatMap_map_chomp_lines (h : '\r' ∉ t) :
    ((lines t).map chomp).flatMap (· ++ ['\n']) = terminated t := by
  induction t
  case nil         => rfl
  case cons c t hi =>
    have hr : c ≠ '\r' := (List.ne_of_not_mem_cons h).symm
    have hi := hi <| List.not_mem_of_not_mem_cons h
    rw [terminated_cons]
    split
    case isTrue hs =>
      obtain ⟨rfl, hc⟩ := hs
      rw [map_chomp_lines_singleton hc hr]
      rfl
    case isFalse hs =>
      by_cases hc : c = '\n'
      case pos => rw [hc, lines_cons_newline, List.map_cons, List.flatMap_cons, hi]; rfl
      case neg =>
        have hn : t ≠ [] := fun hn => hs ⟨hn, hc⟩
        have ⟨l, ls, hl⟩ := List.exists_cons_of_ne_nil <| mt lines_eq_nil_iff.mp hn
        rw [hl] at hi
        rw [lines_cons_of_ne hc hl, ← hi, List.map_cons, List.map_cons, chomp_cons hc hr]
        rfl

end FrameFilter.Text
