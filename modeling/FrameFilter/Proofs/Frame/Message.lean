import FrameFilter.Frame.Basic

namespace FrameFilter

def Message.header : Message → Frame.Header
  | request h _ => h
  | response h  => h
  | event h     => h
  | unknown h   => h

namespace Frame

-- A request whose endpoint is not allowed.
def Suppresses (allowed tag : Text) (f : Frame) : Prop :=
  ∃ h e, f.header = .ok h ∧ h.type = 1 ∧ h.tag = tag ∧ f.target = .ok e ∧ ¬allowed <+: e

def Answers (tag : Text) (f : Frame) : Prop :=
  ∃ h, f.header = .ok h ∧ h.type = 2 ∧ h.tag = tag

instance : Decidable (Suppresses allowed tag f) :=
  match hh : f.header, he : f.target with
  | .ok h, .ok e =>
    decidable_of_iff (h.type = 1 ∧ h.tag = tag ∧ ¬allowed <+: e) <| by simp [Suppresses, hh, he]
  | .error _, _ => isFalse <| by simp [Suppresses, hh]
  | _, .error _ => isFalse <| by simp [Suppresses, he]

instance : Decidable (Answers tag f) :=
  match hh : f.header with
  | .ok h    => decidable_of_iff (h.type = 2 ∧ h.tag = tag) <| by simp [Answers, hh]
  | .error _ => isFalse <| by simp [Answers, hh]

-- The frames that a tag depends on.
def Concerns (allowed tag : Text) (f : Frame) : Prop :=
  f.Suppresses allowed tag ∨ f.Answers tag

instance : Decidable (Concerns allowed tag f) :=
  inferInstanceAs <| Decidable (_ ∨ _)

variable {f : Frame}

theorem Suppresses.tag_eq (hs : f.Suppresses allowed tag) (hs' : f.Suppresses allowed tag') :
    tag' = tag := by
  have ⟨_, _, hh, _, ht, _⟩ := hs
  have ⟨_, _, hh', _, ht', _⟩ := hs'
  cases hh.symm.trans hh'
  exact ht'.symm.trans ht

theorem Answers.tag_eq (ha : f.Answers tag) (ha' : f.Answers tag') : tag' = tag := by
  have ⟨_, hh, _, ht⟩ := ha
  have ⟨_, hh', _, ht'⟩ := ha'
  cases hh.symm.trans hh'
  exact ht'.symm.trans ht

theorem Suppresses.not_answers (hs : f.Suppresses allowed tag) : ¬f.Answers tag' := by
  have ⟨h, _, hh, h₁, _⟩ := hs
  intro ⟨h', hh', h₂, _⟩
  cases hh.symm.trans hh'
  omega

-- What a text allows, its beginnings allow as well.
theorem Suppresses.mono (h : allowed <+: narrower) (hs : f.Suppresses allowed tag) :
    f.Suppresses narrower tag := by
  have ⟨header, e, hh, ht, hg, he, ha⟩ := hs
  exact ⟨header, e, hh, ht, hg, he, mt h.trans ha⟩

theorem message_of_error (hh : f.header = .error fault) : f.message = .error fault := by
  simp [message, hh, bind, Except.bind]

theorem message_of_request (hh : f.header = .ok h) (ht : h.type = 1) :
    f.message = f.target.map (.request h) := by
  have hk : h.kind? = some .request := by rw [Header.kind?, ht]; rfl
  cases he : f.target
  all_goals simp [message, hh, hk, he, bind, Except.bind, pure, Except.pure, Except.map]

theorem message_of_response (hh : f.header = .ok h) (ht : h.type = 2) :
    f.message = .ok (.response h) := by
  have hk : h.kind? = some .response := by rw [Header.kind?, ht]; rfl
  simp [message, hh, hk, bind, Except.bind, pure, Except.pure]

theorem message_of_event (hh : f.header = .ok h) (ht : h.type = 3) :
    f.message = .ok (.event h) := by
  have hk : h.kind? = some .event := by rw [Header.kind?, ht]; rfl
  simp [message, hh, hk, bind, Except.bind, pure, Except.pure]

theorem message_of_unknown (hh : f.header = .ok h) (ht : h.type ∉ [1, 2, 3]) :
    f.message = .ok (.unknown h) := by
  have hk : h.kind? = none := by simp_all [Header.kind?, Kind.ofNumber?]
  simp [message, hh, hk, bind, Except.bind, pure, Except.pure]

-- What a frame is like that says what it says, or that is malformed.
inductive Outcome (f : Frame) : Except Fault Message → Prop
  | noHeader (hh : f.header = .error fault) : Outcome f (.error fault)
  | noTarget (hh : f.header = .ok h) (ht : h.type = 1) (he : f.target = .error fault) :
    Outcome f (.error fault)
  | request (hh : f.header = .ok h) (ht : h.type = 1) (he : f.target = .ok e) :
    Outcome f (.ok (.request h e))
  | response (hh : f.header = .ok h) (ht : h.type = 2) : Outcome f (.ok (.response h))
  | event (hh : f.header = .ok h) (ht : h.type = 3) : Outcome f (.ok (.event h))
  | unknown (hh : f.header = .ok h) (ht : h.type ∉ [1, 2, 3]) : Outcome f (.ok (.unknown h))

theorem outcome (f : Frame) : f.Outcome f.message := by
  cases hh : f.header
  case error => exact message_of_error hh ▸ .noHeader hh
  case ok h  =>
    by_cases h₁ : h.type = 1
    case pos =>
      rw [message_of_request hh h₁]
      cases he : f.target
      case error => exact .noTarget hh h₁ he
      case ok    => exact .request hh h₁ he
    by_cases h₂ : h.type = 2
    case pos => exact message_of_response hh h₂ ▸ .response hh h₂
    by_cases h₃ : h.type = 3
    case pos => exact message_of_event hh h₃ ▸ .event hh h₃
    case neg =>
      have ht : h.type ∉ [1, 2, 3] := by simp [h₁, h₂, h₃]
      exact message_of_unknown hh ht ▸ .unknown hh ht

theorem header_of_message (hm : f.message = .ok m) : f.header = .ok m.header := by
  cases hm ▸ f.outcome
  all_goals assumption

theorem target_of_message (hm : f.message = .ok (.request h e)) : f.target = .ok e := by
  cases hm ▸ f.outcome
  assumption

theorem suppresses_of_message (hm : f.message = .ok (.request h e)) (hn : ¬allowed <+: e) :
    f.Suppresses allowed h.tag := by
  cases hm ▸ f.outcome
  case request hh ht he => exact ⟨h, e, hh, ht, rfl, he, hn⟩

theorem answers_of_message (hm : f.message = .ok (.response h)) : f.Answers h.tag := by
  cases hm ▸ f.outcome
  case response hh ht => exact ⟨h, hh, ht, rfl⟩

theorem exists_message_eq_error_iff : (∃ fault, f.message = .error fault) ↔
    (∃ fault, f.header = .error fault) ∨
      ∃ h, f.header = .ok h ∧ h.type = 1 ∧ ∃ fault, f.target = .error fault := by
  constructor
  case mp =>
    intro ⟨fault, hm⟩
    cases hm ▸ f.outcome
    case noHeader hh       => exact .inl ⟨fault, hh⟩
    case noTarget hh ht he => exact .inr ⟨_, hh, ht, fault, he⟩
  case mpr =>
    rintro (⟨fault, hh⟩ | ⟨h, hh, ht, fault, he⟩)
    · exact ⟨fault, message_of_error hh⟩
    · exact ⟨fault, by rw [message_of_request hh ht, he]; rfl⟩

-- The tag of a request or a response. No other frame has a tag that matters, and neither has a
-- request without an endpoint.
def carriedTag? (f : Frame) : Option Text :=
  match f.message with
  | .ok (.request h _) => some h.tag
  | .ok (.response h)  => some h.tag
  | _                  => none

theorem Suppresses.carriedTag?_eq (hs : f.Suppresses allowed tag) : f.carriedTag? = some tag := by
  have ⟨h, e, hh, h₁, ht, he, _⟩ := hs
  have hm : f.message = .ok (.request h e) := (message_of_request hh h₁).trans <| by rw [he]; rfl
  simp [carriedTag?, hm, ht]

theorem Answers.carriedTag?_eq (ha : f.Answers tag) : f.carriedTag? = some tag := by
  have ⟨h, hh, h₂, ht⟩ := ha
  simp [carriedTag?, message_of_response hh h₂, ht]

end Frame
end FrameFilter
