import FrameFilter.Proofs.Filter.History

namespace FrameFilter

-- An interleaving of two sequences is a list in which each element is labelled with its side.
inductive Side where
  | left
  | right
  deriving DecidableEq

-- The elements of one side, in their order.
def part (side : Side) : List (Side × α) → List α
  | []             => []
  | (s, a) :: rest => if s = side then a :: part side rest else part side rest

theorem part_cons_self {mixed : List (Side × α)} :
    part side ((side, a) :: mixed) = a :: part side mixed := by
  simp [part]

theorem part_cons_of_ne {mixed : List (Side × α)} (h : s ≠ side) :
    part side ((s, a) :: mixed) = part side mixed := by
  simp [part, h]

theorem mem_part : a ∈ part side mixed ↔ (side, a) ∈ mixed := by
  induction mixed
  case nil             => simp [part]
  case cons l mixed hi =>
    have ⟨s, b⟩ := l
    by_cases h : s = side
    case pos => subst h; simp [part_cons_self, hi]
    case neg => simp [part_cons_of_ne h, hi, Ne.symm h]

namespace Filter

def carriedTags (texts : List Text) : List Text :=
  texts.filterMap (Frame.ofText · |>.carriedTag?)

-- The same for all tags of a set.
structure AgreeOn (T : Text → Prop) (f g : Filter) : Prop where
  allowed : f.allowed = g.allowed
  pending : ∀ tag, T tag → (tag ∈ f.pending ↔ tag ∈ g.pending)

variable {f g : Filter} {T : Text → Prop} {frame : Frame}

theorem AgreeOn.refl : f.AgreeOn T f where
  allowed     := rfl
  pending _ _ := Iff.rfl

-- A verdict depends on the filter only by what is pending of the frame's own tag.
theorem AgreeOn.verdict_eq (h : f.AgreeOn T g) (hc : ∀ tag, frame.carriedTag? = some tag → T tag) :
    (f.judge frame).1 = (g.judge frame).1 :=
  verdict_congr h.allowed fun tag ha => h.pending tag <| hc tag ha.carriedTag?_eq

theorem AgreeOn.judge (h : f.AgreeOn T g) (frame : Frame) :
    (f.judge frame).2.AgreeOn T (g.judge frame).2 where
  allowed     := by rw [judge_allowed, judge_allowed, h.allowed]
  pending t ht := by rw [mem_pending_judge, mem_pending_judge, h.allowed, h.pending t ht]

theorem mem_pending_judge_of_not_carried (h : frame.carriedTag? ≠ some tag) :
    tag ∈ (f.judge frame).2.pending ↔ tag ∈ f.pending := by
  have hs : ¬frame.Suppresses f.allowed tag := mt Frame.Suppresses.carriedTag?_eq h
  have ha : ¬frame.Answers tag := mt Frame.Answers.carriedTag?_eq h
  simp [mem_pending_judge, hs, ha]

-- A frame that carries no tag of the set makes no difference.
theorem AgreeOn.judge_other (h : f.AgreeOn T g)
    (hc : ∀ tag, frame.carriedTag? = some tag → ¬T tag) : (f.judge frame).2.AgreeOn T g where
  allowed      := judge_allowed.trans h.allowed
  pending t ht := by
    have hn : frame.carriedTag? ≠ some t := fun he => hc t he ht
    rw [mem_pending_judge_of_not_carried hn, h.pending t ht]

-- The verdicts on an interleaving, each with the label of its frame.
def labelledVerdicts (f : Filter) (mixed : List (Side × Text)) : List (Side × Verdict) :=
  (mixed.map (·.1)).zip (f.verdicts (mixed.map (·.2)))

theorem labelledVerdicts_cons : f.labelledVerdicts ((s, text) :: mixed) =
    (s, (f.judge (.ofText text)).1) :: (f.judge (.ofText text)).2.labelledVerdicts mixed := by
  simp [labelledVerdicts, verdicts_cons]

-- As long as one side has the tags of a set to itself, its verdicts are those of a run of its own.
theorem AgreeOn.part_verdicts (h : f.AgreeOn T g) (side : Side) (mixed : List (Side × Text))
    (hc : ∀ s text tag, (s, text) ∈ mixed → (Frame.ofText text).carriedTag? = some tag →
      (T tag ↔ s = side)) :
    part side (f.labelledVerdicts mixed) = g.verdicts (part side mixed) ∧
      (f.after (mixed.map (·.2))).AgreeOn T (g.after (part side mixed)) := by
  induction mixed generalizing f g
  case nil => exact ⟨rfl, h⟩
  case cons l mixed hi =>
    have ⟨s, text⟩ := l
    have hl := fun tag => hc s text tag List.mem_cons_self
    have hr := fun s' text' tag hm => hc s' text' tag <| List.mem_cons_of_mem _ hm
    rw [labelledVerdicts_cons, List.map_cons, after_cons]
    by_cases hs : s = side
    case pos =>
      have ht := fun tag he => (hl tag he).mpr hs
      have ⟨hv, ha⟩ := hi (h.judge <| .ofText text) hr
      subst hs
      rw [part_cons_self, part_cons_self, verdicts_cons, after_cons, h.verdict_eq ht, hv]
      exact ⟨rfl, ha⟩
    case neg =>
      have ht := fun tag he => mt (hl tag he).mp hs
      have ⟨hv, ha⟩ := hi (h.judge_other ht) hr
      rw [part_cons_of_ne hs, part_cons_of_ne hs]
      exact ⟨hv, ha⟩

theorem mem_carriedTags_of_mem_pending {allowed : Text}
    (h : tag ∈ ((fresh allowed).after texts).pending) : tag ∈ carriedTags texts := by
  cases (mem_pending_after_iff_not_answered _ tag texts).mp h
  case inl hs =>
    have ⟨before, text, later, he, hs, _⟩ := hs
    have hm : text ∈ texts := by simp [he]
    exact List.mem_filterMap.mpr ⟨text, hm, hs.carriedTag?_eq⟩
  case inr hp => exact absurd hp.left TagSet.not_mem_empty

theorem mem_carriedTags_iff {texts : List Text} : tag ∈ carriedTags texts ↔
    ∃ text ∈ texts, (Frame.ofText text).carriedTag? = some tag :=
  List.mem_filterMap

theorem AgreeOn.part_verdicts_carried (f : Filter) (mixed : List (Side × Text)) (side : Side)
    (h : ∀ s, s ≠ side → (carriedTags (part side mixed)).Disjoint (carriedTags (part s mixed))) :
    part side (f.labelledVerdicts mixed) = f.verdicts (part side mixed) ∧
      (f.after (mixed.map (·.2))).AgreeOn (· ∈ carriedTags (part side mixed))
        (f.after (part side mixed)) := by
  apply AgreeOn.refl.part_verdicts
  intro s text tag hm hc
  have ht : tag ∈ carriedTags (part s mixed) := mem_carriedTags_iff.mpr ⟨text, mem_part.mpr hm, hc⟩
  constructor
  case mp =>
    intro hs
    by_contra hn
    exact h s hn hs ht
  case mpr => exact fun he => he ▸ ht

-- Frames that share no tag do not notice each other, however they are interleaved.
theorem verdicts_interleaving (allowed : Text) (mixed : List (Side × Text))
    (h : (carriedTags (part .left mixed)).Disjoint (carriedTags (part .right mixed))) :
    let f := fresh allowed
    let left := part .left mixed
    let right := part .right mixed
    part .left (f.labelledVerdicts mixed) = f.verdicts left ∧
      part .right (f.labelledVerdicts mixed) = f.verdicts right ∧
      (∀ tag, tag ∈ (f.after (mixed.map (·.2))).pending ↔
        tag ∈ (f.after left).pending ∨ tag ∈ (f.after right).pending) ∧
      ∀ tag, tag ∈ (f.after left).pending → tag ∉ (f.after right).pending := by
  intro f left right
  have ⟨hl, hal⟩ := AgreeOn.part_verdicts_carried f mixed .left fun
    | .left, hn  => absurd rfl hn
    | .right, _  => h
  have ⟨hr, har⟩ := AgreeOn.part_verdicts_carried f mixed .right fun
    | .left, _   => fun _ hr hl => h hl hr
    | .right, hn => absurd rfl hn
  refine ⟨hl, hr, fun tag => ⟨fun hp => ?_, ?_⟩, fun tag hp hq => ?_⟩
  case refine_1 =>
    have ⟨text, ht, hc⟩ := mem_carriedTags_iff.mp <| mem_carriedTags_of_mem_pending hp
    have ⟨⟨s, text⟩, hm, he⟩ := List.mem_map.mp ht
    subst he
    have ht : tag ∈ carriedTags (part s mixed) := mem_carriedTags_iff.mpr ⟨_, mem_part.mpr hm, hc⟩
    cases s
    case left  => exact .inl <| (hal.pending tag ht).mp hp
    case right => exact .inr <| (har.pending tag ht).mp hp
  case refine_2 =>
    rintro (hp | hp)
    · exact (hal.pending tag <| mem_carriedTags_of_mem_pending hp).mpr hp
    · exact (har.pending tag <| mem_carriedTags_of_mem_pending hp).mpr hp
  case refine_3 =>
    exact h (mem_carriedTags_of_mem_pending hp) (mem_carriedTags_of_mem_pending hq)

-- An event on the other side may have the tag as well.
theorem verdicts_interleaving_events :
    let f := fresh "/api".toList
    let mixed := [(Side.left, "1 a\nGET /x".toList), (.right, "1 b\nGET /x".toList),
      (.right, "3 a".toList), (.left, "2 a".toList), (.right, "2".toList)]
    (part .left (f.labelledVerdicts mixed)).map (·.isShown) = [false, false] ∧
      (part .right (f.labelledVerdicts mixed)).map (·.isShown) = [false, true, true] ∧
      "a".toList ∉ (f.after (mixed.map (·.2))).pending ∧
      "b".toList ∈ (f.after (mixed.map (·.2))).pending := by
  intro f mixed
  have hd : ∀ t ∈ carriedTags (part .left mixed), t ∉ carriedTags (part .right mixed) := by decide
  have ⟨hl, hr, hp, _⟩ := verdicts_interleaving "/api".toList mixed fun {t} => hd t
  rw [hl, hr, hp, hp]
  decide

end Filter
end FrameFilter
