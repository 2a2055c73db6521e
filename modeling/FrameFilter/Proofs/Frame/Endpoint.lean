import FrameFilter.Proofs.Filter.Judge
import FrameFilter.Proofs.Text.Token

namespace FrameFilter.Frame

abbrev IsPath (k : Text) : Prop :=
  ['/'] <+: k

-- Which of the tokens after the method is the endpoint: the first path, wherever it stands, and the
-- first of the tokens if none is a path.
inductive Selects : List Text → Text → Prop
  | path (hb : ∀ k ∈ before, ¬IsPath k) (hp : IsPath p) : Selects (before ++ p :: after) p
  | first (hn : ∀ k ∈ second :: others, ¬IsPath k) : Selects (second :: others) second

variable {line line' : Text} {ks : List Text}

theorem isPath_iff : isPath k ↔ IsPath k := by
  cases k <;> simp [isPath, IsPath, eq_comm]

theorem find?_isPath_eq_some_iff : ks.find? isPath = some p ↔
    IsPath p ∧ ∃ before after, ks = before ++ p :: after ∧ ∀ k ∈ before, ¬IsPath k := by
  simp [List.find?_eq_some_iff_append, ← isPath_iff]

theorem find?_isPath_eq_none_iff : ks.find? isPath = none ↔ ∀ k ∈ ks, ¬IsPath k := by
  simp [← isPath_iff]

theorem not_selects_nil : ¬Selects [] e := by
  intro hs
  generalize hk : [] = ks at hs
  cases hs
  case path  => simp at hk
  case first => simp at hk

theorem Selects.mem (hs : Selects ks e) : e ∈ ks := by
  cases hs
  case path  => exact List.mem_append_right _ List.mem_cons_self
  case first => exact List.mem_cons_self

theorem selects_iff :
    Selects (second :: others) e ↔ ((second :: others).find? isPath).getD second = e := by
  constructor
  case mp =>
    intro hs
    generalize hk : second :: others = ks at hs
    cases hs
    case path before after hb hp =>
      have hf := find?_isPath_eq_some_iff.mpr ⟨hp, before, after, rfl, hb⟩
      simp [hf]
    case first hn =>
      cases hk
      simp [find?_isPath_eq_none_iff.mpr hn]
  case mpr =>
    rintro rfl
    cases hf : (second :: others).find? isPath
    case none   => exact .first <| find?_isPath_eq_none_iff.mp hf
    case some p =>
      have ⟨hp, before, after, hk, hb⟩ := find?_isPath_eq_some_iff.mp hf
      exact hk ▸ .path hb hp

-- That the second token is looked at apart from the others makes no difference.
theorem endpoint_of_tokens (ht : Text.tokens line = method :: second :: others) :
    endpoint line = .ok (((second :: others).find? isPath).getD second) := by
  cases hp : isPath second <;> simp [endpoint, ht, hp]

theorem endpoint_of_few (hl : (Text.tokens line).length < 2) :
    endpoint line = .error (.noEndpoint line) := by
  match ht : Text.tokens line with
  | []          => simp [endpoint, ht]
  | [_]         => simp [endpoint, ht]
  | _ :: _ :: _ =>
    simp only [ht, List.length_cons] at hl
    omega

theorem endpoint_eq_ok_iff : endpoint line = .ok e ↔ Selects (Text.tokens line).tail e := by
  match ht : Text.tokens line with
  | []          => simp [endpoint_of_few, ht, not_selects_nil]
  | [_]         => simp [endpoint_of_few, ht, not_selects_nil]
  | _ :: _ :: _ => simp [endpoint_of_tokens ht, selects_iff]

theorem endpoint_of_path (ht : (Text.tokens line).tail = before ++ p :: after)
    (hb : ∀ k ∈ before, ¬IsPath k) (hp : IsPath p) : endpoint line = .ok p := by
  apply endpoint_eq_ok_iff.mpr
  rw [ht]
  exact .path hb hp

theorem endpoint_eq_error_iff :
    endpoint line = .error fault ↔ (Text.tokens line).length < 2 ∧ fault = .noEndpoint line := by
  match ht : Text.tokens line with
  | []          => simp [endpoint_of_few, ht, eq_comm]
  | [_]         => simp [endpoint_of_few, ht, eq_comm]
  | _ :: _ :: _ =>
    refine iff_of_false (by simp [endpoint_of_tokens ht]) fun h => ?_
    simp only [List.length_cons] at h
    omega

theorem exists_endpoint_eq_ok (hl : 2 ≤ (Text.tokens line).length) :
    ∃ e, endpoint line = .ok e := by
  cases he : endpoint line
  case ok e  => exact ⟨e, rfl⟩
  case error => exact absurd (endpoint_eq_error_iff.mp he).left <| Nat.not_lt_of_le hl

theorem isToken_of_endpoint (he : endpoint line = .ok e) : Text.IsToken e :=
  Text.isToken_of_mem_tokens <| List.mem_of_mem_tail (endpoint_eq_ok_iff.mp he).mem

-- Neither the blanks of a line nor its first token have a say.
theorem toOption_endpoint_congr (ht : (Text.tokens line').tail = (Text.tokens line).tail) :
    (endpoint line').toOption = (endpoint line).toOption := by
  have ho (line : Text) (e : Text) : (endpoint line).toOption = some e ↔ endpoint line = .ok e := by
    cases endpoint line <;> simp [Except.toOption]
  apply Option.ext
  intro e
  rw [ho, ho, endpoint_eq_ok_iff, endpoint_eq_ok_iff, ht]

theorem target_of_lines {f : Frame} (hl : f.lines[1]? = some line) : f.target = endpoint line := by
  obtain ⟨top, body⟩ := f
  cases body
  case nil  => simp [lines] at hl
  case cons => simp_all [lines, target]

theorem isToken_of_target {f : Frame} (ht : f.target = .ok e) : Text.IsToken e := by
  obtain ⟨top, body⟩ := f
  cases body
  case nil  => cases ht
  case cons => exact isToken_of_endpoint ht

theorem exists_target_eq_error_iff {f : Frame} : (∃ fault, f.target = .error fault) ↔
    ∀ line, f.lines[1]? = some line → (Text.tokens line).length < 2 := by
  cases hl : f.lines[1]?
  case none =>
    obtain ⟨top, body⟩ := f
    cases body
    case nil  => simp [target]
    case cons => simp [lines] at hl
  case some line => simp [target_of_lines hl, endpoint_eq_error_iff]

-- A request without a path is not shown if only paths are allowed.
theorem isShown_judge_iff_path {f : Filter} {frame : Frame} (ha : IsPath f.allowed)
    (hh : frame.header = .ok h) (h₁ : h.type = 1) (hl : frame.lines[1]? = some line)
    (h₂ : 2 ≤ (Text.tokens line).length) :
    (f.judge frame).1.isShown ↔
      ∃ before p after, (Text.tokens line).tail = before ++ p :: after ∧
        (∀ k ∈ before, ¬IsPath k) ∧ IsPath p ∧ f.allowed <+: p := by
  have ⟨e, he⟩ := exists_endpoint_eq_ok h₂
  rw [Filter.isShown_judge_of_request hh h₁ <| (target_of_lines hl).trans he]
  constructor
  case mp =>
    intro hf
    have hs := endpoint_eq_ok_iff.mp he
    generalize (Text.tokens line).tail = ks at hs
    cases hs
    case path hb hp => exact ⟨_, e, _, rfl, hb, hp, hf⟩
    case first hn   => exact absurd (ha.trans hf) <| hn e List.mem_cons_self
  case mpr =>
    intro ⟨before, p, after, ht, hb, hp, hf⟩
    cases he.symm.trans <| endpoint_of_path ht hb hp
    exact hf

-- The endpoint of a request is the first path after its method, or the token after it if there is
-- no path. Neither blanks nor the method nor what comes after the path matter. So a request is
-- judged by its first path alone, even if a later one is allowed.
theorem endpoint_first_path (line : Text) :
    ∃ ks, (∀ ks', Text.Holds ks' line ↔ ks' = ks) ∧
      (∀ fault, endpoint line = .error fault ↔ ks.length < 2 ∧ fault = .noEndpoint line) ∧
      (2 ≤ ks.length → ∃ e, endpoint line = .ok e) ∧
      (∀ e, endpoint line = .ok e ↔ Selects ks.tail e) ∧
      (∀ e, endpoint line = .ok e → e ∈ ks ∧ Text.IsToken e) ∧
      (∀ line' ks', Text.Holds ks' line' → ks'.tail = ks.tail →
        (endpoint line').toOption = (endpoint line).toOption) ∧
      (∀ before p after, ks.tail = before ++ p :: after → (∀ k ∈ before, ¬IsPath k) → IsPath p →
        ∀ line' method after', Text.Holds (method :: (before ++ p :: after')) line' →
          endpoint line' = .ok p ∧ endpoint line = .ok p) ∧
      ∀ (f : Filter) (text : Text) (h : Header), IsPath f.allowed →
        (ofText text).header = .ok h → h.type = 1 → (ofText text).lines[1]? = some line →
        2 ≤ ks.length →
        ((f.judge (.ofText text)).1.isShown ↔
          ∃ before p after, ks.tail = before ++ p :: after ∧ (∀ k ∈ before, ¬IsPath k) ∧
            IsPath p ∧ f.allowed <+: p) := by
  refine ⟨Text.tokens line, fun _ => Text.holds_iff.trans eq_comm, fun _ => endpoint_eq_error_iff,
    exists_endpoint_eq_ok, fun _ => endpoint_eq_ok_iff, ?token, ?tail, ?later,
    fun _ _ _ => isShown_judge_iff_path⟩
  case token =>
    intro e he
    exact ⟨List.mem_of_mem_tail (endpoint_eq_ok_iff.mp he).mem, isToken_of_endpoint he⟩
  case tail =>
    intro line' ks' hk ht
    cases hk.tokens_eq
    exact toOption_endpoint_congr ht
  case later =>
    intro before p after ht hb hp line' method after' hk
    exact ⟨endpoint_of_path (congrArg List.tail hk.tokens_eq) hb hp, endpoint_of_path ht hb hp⟩

-- The token after the method is no path, and of the two paths only the second one is allowed.
theorem endpoint_first_path_second_allowed :
    let line := "HDR GET /x /api\r".toList
    let f := Filter.fresh "/api".toList
    endpoint line = .ok "/x".toList ∧ endpoint "\u2003X\tGET  /x".toList = endpoint line ∧
      (f.judge (.ofText ("1 t\n".toList ++ line))).1.isShown = false := by
  intro line f
  have ⟨ks, hk, _, _, _, _, ht, hl, hs⟩ := endpoint_first_path line
  cases (hk _).mp <| Text.holds_iff.mpr (Eq.refl (Text.tokens line))
  have hb : ∀ k ∈ ["GET".toList], ¬IsPath k := by decide
  have ⟨he', he⟩ := hl ["GET".toList] "/x".toList ["/api".toList] (by decide) hb (by decide)
    "\u2003X\tGET  /x".toList "X".toList [] (Text.holds_iff.mpr (by decide))
  refine ⟨he, he'.trans he.symm, ?_⟩
  have hi := hs f ("1 t\n".toList ++ line) ⟨1, "t".toList, none, none⟩ (by decide) rfl rfl
    (by decide) (by decide)
  apply eq_false_of_ne_true
  intro hf
  have ⟨_, p, _, hp, hn, hp', ha⟩ := hi.mp hf
  cases he.symm.trans <| endpoint_of_path hp hn hp'
  exact absurd ha (by decide)

end FrameFilter.Frame
