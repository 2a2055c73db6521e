namespace FrameFilter

-- Lengths, cuts and positions are counted in characters everywhere, so a text is the list of its
-- characters.
abbrev Text := List Char

namespace Text

-- The pieces between the characters that satisfy `p`. There is always a first piece, so it stands
-- apart from the others.
def cut (p : Char → Bool) : Text → Text × List Text
  | [] => ([], [])
  | c :: t =>
    let (piece, others) := cut p t
    if p c then ([], piece :: others) else (c :: piece, others)

def pieces (p : Char → Bool) (t : Text) : List Text :=
  let (piece, others) := cut p t
  piece :: others

variable {p : Char → Bool}

theorem pieces_nil : pieces p [] = [[]] :=
  rfl

theorem pieces_cons_pos (h : p c) : pieces p (c :: t) = [] :: pieces p t := by
  simp [pieces, cut, h]

theorem pieces_ne_nil : pieces p t ≠ [] := by
  simp [pieces]

theorem cut_of_forall_not (h : ∀ c ∈ t, p c = false) : cut p t = (t, []) := by
  induction t
  case nil         => rfl
  case cons c t hi => simp_all [cut]

-- The pieces of two texts around a separating character are the pieces of each.
theorem pieces_append_cons (h : p c) :
    pieces p (s ++ c :: t) = pieces p s ++ pieces p t := by
  induction s
  case nil         => simp [pieces_nil, pieces_cons_pos h]
  case cons d s hi =>
    simp [pieces] at hi
    simp [pieces, cut]
    split <;> simp_all

end Text

-- A closed range of code points. Classes of characters are lists of such ranges.
structure CharRange where
  first : Nat
  last  : Nat

namespace CharRange

def contains (r : CharRange) (c : Char) : Bool :=
  r.first ≤ c.toNat && c.toNat ≤ r.last

def anyContains (rs : List CharRange) (c : Char) : Bool :=
  rs.any (·.contains c)

theorem contains_iff {r : CharRange} : r.contains c ↔ r.first ≤ c.toNat ∧ c.toNat ≤ r.last := by
  simp [contains]

theorem anyContains_iff : anyContains rs c ↔ ∃ r ∈ rs, r.contains c := by
  simp [anyContains]

end CharRange

end FrameFilter
