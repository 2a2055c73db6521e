import FrameFilter.Command.Options

namespace FrameFilter.Command

-- Arguments that are options through and through, each with all that it needs, and what they ask
-- for. What comes after them is read as if nothing came before.
inductive Occurrences : List Text → List Choice → Prop
  | nil      : Occurrences [] []
  | complete : (Argument.ofText a = .complete c) → (Occurrences as cs) →
    Occurrences (a :: as) (c :: cs)
  | awaiting : (Argument.ofText a = .awaiting c) → (Occurrences as cs) →
    Occurrences (a :: v :: as) (c v :: cs)

namespace Reading

def prepend (cs : List Choice) (r : Reading) : Reading :=
  { r with choices := cs ++ r.choices }

theorem ofArguments_append (h : Occurrences as cs) (bs : List Text) :
    ofArguments (as ++ bs) = (ofArguments bs).map (prepend cs) := by
  induction h
  case nil =>
    cases h : ofArguments bs <;> rw [List.nil_append, h] <;> rfl
  case complete ha _ hi =>
    rw [List.cons_append, ofArguments.eq_def]
    simp only [ha, hi]
    cases ofArguments bs <;> rfl
  case awaiting ha _ hi =>
    rw [List.cons_append, List.cons_append, ofArguments.eq_def]
    simp only [ha, hi]
    cases ofArguments bs <;> rfl

theorem settle_prepend (cs : List Choice) (r : Reading) :
    (r.prepend cs).settle = r.settle.map (cs ++ ·) := by
  simp only [settle, prepend]
  cases r.inquiries
  case cons => rfl
  case nil  => cases r.positionals <;> rfl

end Reading

theorem read_of_error (h : Reading.ofArguments as = .error fault) :
    read as = .error (.refused fault) := by
  rw [read, h]
  rfl

theorem read_of_ok (h : Reading.ofArguments as = .ok r) : read as = r.settle := by
  rw [read, h]
  rfl

theorem read_append (h : Occurrences as cs) (bs : List Text) :
    read (as ++ bs) = (read bs).map (cs ++ ·) := by
  have ha := Reading.ofArguments_append h bs
  cases hb : Reading.ofArguments bs <;> rw [hb] at ha
  case error => rw [read_of_error ha, read_of_error hb]; rfl
  case ok r  => rw [read_of_ok ha, read_of_ok hb, r.settle_prepend]

theorem read_cons_of_complete (h : Argument.ofText a = .complete c) (as : List Text) :
    read (a :: as) = (read as).map (c :: ·) :=
  read_append (.complete h .nil) as

theorem ofText_summary : Argument.ofText "--summary".toList = .complete (.summary true) :=
  rfl

namespace Choice

def isSeparator : Choice → Bool
  | separator _ => true
  | _           => false

def isSummary : Choice → Bool
  | summary _ => true
  | _         => false

end Choice

namespace Options

def withSeparator (separator : Text) (o : Options) : Options :=
  { o with settings := { o.settings with separator } }

def withSummary (summary : Bool) (o : Options) : Options :=
  { o with summary }

theorem read_eq (arguments : List Text) :
    read arguments = (Command.read arguments).map ofChoices := by
  rw [read]
  cases Command.read arguments <;> rfl

-- An update that makes up for the choices of one kind, and does not interfere with the others.
structure Overrides (update : Options → Options) (p : Choice → Bool) : Prop where
  override : p c = true → ∀ o, update (choose o c) = update o
  commute  : p c = false → ∀ o, update (choose o c) = choose (update o) c

namespace Overrides

theorem foldl_choose (hu : Overrides update p) (cs : List Choice) (o : Options) :
    update (cs.foldl choose o) = (cs.filter (!p ·)).foldl choose (update o) := by
  induction cs generalizing o
  case nil          => rfl
  case cons c cs hi =>
    rw [List.foldl_cons, hi]
    cases h : p c
    case false => rw [hu.commute h, List.filter_cons_of_pos (by simp [h]), List.foldl_cons]
    case true  => rw [hu.override h, List.filter_cons_of_neg (by simp [h])]

-- The choices that it makes up for need not be made.
theorem ofChoices_congr (hu : Overrides update p) (h : cs.filter (!p ·) = ds.filter (!p ·)) :
    update (ofChoices cs) = update (ofChoices ds) := by
  rw [ofChoices, ofChoices, hu.foldl_choose, hu.foldl_choose, h]

end Overrides

theorem overrides_withSeparator (separator : Text) :
    Overrides (withSeparator separator) Choice.isSeparator where
  override {c} _ _ := by cases c <;> first | rfl | contradiction
  commute {c} _ _  := by cases c <;> first | rfl | contradiction

theorem overrides_withSummary (summary : Bool) :
    Overrides (withSummary summary) Choice.isSummary where
  override {c} _ _ := by cases c <;> first | rfl | contradiction
  commute {c} _ _  := by cases c <;> first | rfl | contradiction

theorem summary_foldl_choose (h : o.summary = true → o'.summary = true) (cs : List Choice) :
    (cs.foldl choose o).summary = true → (cs.foldl choose o').summary = true := by
  induction cs generalizing o o'
  case nil          => exact h
  case cons c cs hi =>
    refine hi ?_
    cases c
    case summary b => exact id
    all_goals exact h

-- Asking for the summary once more changes nothing about options other than that it may be wanted
-- now.
theorem ofChoices_summary (cs ds : List Choice) :
    let o := ofChoices (cs ++ ds)
    let o' := ofChoices (cs ++ .summary true :: ds)
    o' = o ∨ o.summary = false ∧ o' = o.withSummary true := by
  intro o o'
  have hs : o.summary = true → o'.summary = true := by
    simp only [o, o', ofChoices, List.foldl_append, List.foldl_cons]
    exact summary_foldl_choose (fun _ => rfl) ds
  have ho : o'.withSummary o'.summary = o.withSummary o'.summary :=
    (overrides_withSummary _).ofChoices_congr <| by simp [Choice.isSummary]
  have ho : o' = o.withSummary o'.summary := ho
  cases h : o.summary
  case true  => exact .inl <| ho.trans <| by rw [hs h, ← h]; rfl
  case false =>
    cases h' : o'.summary
    case true  => exact .inr ⟨rfl, h' ▸ ho⟩
    case false => exact .inl <| ho.trans <| by rw [h', ← h]; rfl

end Options
end FrameFilter.Command
