import Mathlib.Data.List.Induction
import FrameFilter.Log.Registry

namespace FrameFilter.Log

-- The levels as a setting can name them, with their weights.
def namedLevels : List (Text × Nat) := [
    ("CRITICAL".toList, 50), ("FATAL".toList, 50), ("ERROR".toList, 40), ("WARNING".toList, 30),
    ("WARN".toList, 30), ("INFO".toList, 20), ("DEBUG".toList, 10), ("NOTSET".toList, 0)]

-- A logger is asked for, and this is the setting at the time.
structure Request where
  name    : Text
  setting : Option Text

namespace Request

def isFor (name : Text) (q : Request) : Bool :=
  Logger.nameOf q.name = Logger.nameOf name

-- The weight that a logger gets if this is the first time that it is asked for.
inductive Grants (q : Request) : Nat → Prop
  | named (hs : q.setting = some t) (hn : (t.upper, n) ∈ namedLevels) : Grants q n
  | command (hs : ∀ t ∈ q.setting, ∀ n, (t.upper, n) ∉ namedLevels)
    (hn : ".cli".toList <:+ q.name) : Grants q 20
  | library (hs : ∀ t ∈ q.setting, ∀ n, (t.upper, n) ∉ namedLevels)
    (hn : ¬".cli".toList <:+ q.name) : Grants q 30

end Request

namespace Level

theorem mem_namedLevels_iff : (t, n) ∈ namedLevels ↔ ∃ l, ofName? t = some l ∧ l.severity = n := by
  constructor
  case mp =>
    intro h
    simp only [namedLevels, List.mem_cons, Prod.mk.injEq, List.not_mem_nil, or_false] at h
    rcases h with ⟨rfl, rfl⟩ | ⟨rfl, rfl⟩ | ⟨rfl, rfl⟩ | ⟨rfl, rfl⟩ | ⟨rfl, rfl⟩ | ⟨rfl, rfl⟩ |
      ⟨rfl, rfl⟩ | ⟨rfl, rfl⟩
    all_goals exact ⟨_, rfl, rfl⟩
  case mpr =>
    intro ⟨l, hl, hn⟩
    subst hn
    rw [ofName?] at hl
    split at hl
    case isTrue ht => cases hl; rw [ht]; decide
    case isFalse =>
      split at hl
      case isTrue ht => cases hl; rw [ht]; decide
      case isFalse   =>
        have ht : l.name = t := by simpa using List.find?_some hl
        rw [← ht]
        cases l <;> decide

theorem ofName?_eq_none_iff : ofName? t = none ↔ ∀ n, (t, n) ∉ namedLevels := by
  simp [mem_namedLevels_iff, Option.eq_none_iff_forall_ne_some]

theorem severity_default {logger : Text} :
    (default logger).severity = if ".cli".toList <:+ logger then 20 else 30 := by
  simp only [default, List.isSuffixOf_iff_suffix]
  split <;> rfl

theorem configured_nameOf {logger : Text} :
    configured (Logger.nameOf logger) setting = configured logger setting := by
  rw [Logger.nameOf]
  split
  case isTrue h => rw [h]; rfl
  case isFalse  => rfl

end Level

namespace Request

variable {q : Request}

theorem grants_configured : q.Grants (Level.configured q.name q.setting).severity := by
  rw [Level.configured]
  cases hl : q.setting.bind fun t => Level.ofName? t.upper
  case some l =>
    have ⟨t, ht, hl⟩ := Option.bind_eq_some_iff.mp hl
    exact .named ht <| Level.mem_namedLevels_iff.mpr ⟨l, hl, rfl⟩
  case none =>
    have hs : ∀ t ∈ q.setting, ∀ n, (t.upper, n) ∉ namedLevels := fun t ht =>
      Level.ofName?_eq_none_iff.mp <| Option.bind_eq_none_iff.mp hl t ht
    rw [Option.getD_none, Level.severity_default]
    split
    case isTrue hn  => exact .command hs hn
    case isFalse hn => exact .library hs hn

theorem Grants.eq (h : q.Grants n) (h' : q.Grants m) : n = m := by
  cases h <;> cases h'
  case named.named t hs hn t' hs' hn' =>
    obtain rfl := Option.some.inj <| hs.symm.trans hs'
    have ⟨l, hl, hn⟩ := Level.mem_namedLevels_iff.mp hn
    have ⟨l', hl', hn'⟩ := Level.mem_namedLevels_iff.mp hn'
    obtain rfl := Option.some.inj <| hl.symm.trans hl'
    exact hn.symm.trans hn'
  case command.command | library.library => rfl
  all_goals grind

theorem grants_iff : q.Grants n ↔ (Level.configured q.name q.setting).severity = n where
  mp h  := grants_configured.eq h
  mpr h := h ▸ grants_configured

end Request

namespace Registry

variable {r : Registry}

-- The loggers after these requests, one at a time.
def after (r : Registry) (qs : List Request) : Registry :=
  qs.foldl (fun r q => r.obtain q.name q.setting) r

-- How often a record is written if it is given to the handlers of all of these loggers in turn.
def copies (r : Registry) : List Text → Nat
  | []            => 0
  | name :: route => r.copies route + (r.lookup name).handlers

theorem obtain_of_ready (h : (r.lookup name).handlers ≠ 0) : r.obtain name setting = r :=
  if_neg h

theorem lookup_congr (h : Logger.nameOf name = Logger.nameOf other) :
    r.lookup name = r.lookup other := by
  rw [lookup, lookup, h]

theorem lookup_obtain_of_bare (h : (r.lookup name).handlers = 0) :
    (r.obtain name setting).lookup name = (r.lookup name).attach setting := by
  have hn : ((r.lookup name).attach setting).name = Logger.nameOf name := name_lookup
  rw [obtain, if_pos h, lookup, List.find?_cons_of_pos (by simpa using hn), Option.getD_some]

theorem after_append_singleton :
    r.after (qs ++ [q]) = (r.after qs).obtain q.name q.setting :=
  List.foldl_append

-- Only the first request for a logger says what becomes of it.
theorem lookup_after : (empty.after qs).lookup name =
    match qs.find? (·.isFor name) with
    | none   => .bare (Logger.nameOf name)
    | some q => (Logger.bare <| Logger.nameOf name).attach q.setting := by
  induction qs using List.reverseRecOn
  case nil => exact lookup_empty
  case append_singleton qs q ih =>
    rw [after_append_singleton, List.find?_append]
    by_cases hq : q.isFor name
    case neg =>
      rw [lookup_obtain_of_ne (by simpa [Request.isFor, eq_comm] using hq), ih]
      simp [hq]
    case pos =>
      have hn : Logger.nameOf name = Logger.nameOf q.name := by
        simpa [Request.isFor, eq_comm] using hq
      rw [lookup_congr hn] at ih ⊢
      cases hf : qs.find? (·.isFor name)
      case none =>
        rw [hf] at ih
        rw [lookup_obtain_of_bare (by rw [ih]; rfl), ih]
        simp [hq]
      case some =>
        rw [hf] at ih
        rw [obtain_of_ready (by rw [ih]; exact Nat.one_ne_zero), ih]
        rfl

theorem handlers_after :
    ((empty.after qs).lookup name).handlers = if qs.any (·.isFor name) then 1 else 0 := by
  rw [lookup_after, ← List.isSome_find?]
  cases qs.find? (·.isFor name) <;> rfl

theorem copies_after (route : List Text) :
    (empty.after qs).copies route = route.countP fun name => qs.any (·.isFor name) := by
  induction route
  case nil                => rfl
  case cons name route ih => rw [copies, List.countP_cons, ih, handlers_after]

-- A logger has one handler and the level of its first request, whatever else is asked for before or
-- afterwards, so a record that passes several loggers is written once for each one of them that has
-- been asked for.
theorem logger_set_up_once (h : qs.find? (·.isFor name) = some q) :
    let r := empty.after qs
    let l := r.lookup name
    l.handlers = 1 ∧ (∀ n, l.level.severity = n ↔ q.Grants n) ∧
    (∀ more, (empty.after <| qs ++ more).lookup name = l) ∧
    (∀ setting, r.obtain name setting = r) ∧
    ∀ route, r.copies route = route.countP fun other => qs.any (·.isFor other) := by
  intro r l
  have hl : r.lookup name = (Logger.bare <| Logger.nameOf name).attach q.setting := by
    rw [lookup_after, h]
  have hn : Logger.nameOf q.name = Logger.nameOf name := by
    simpa [Request.isFor] using List.find?_some h
  have hh : l.handlers = 1 := congrArg Logger.handlers hl
  refine ⟨hh, fun n => ?level, fun more => ?later, fun setting => ?again, copies_after⟩
  case level =>
    rw [Request.grants_iff, ← Level.configured_nameOf, hn, congrArg Logger.level hl]
    rfl
  case later => rw [lookup_after, List.find?_append, h]; exact hl.symm
  case again => exact obtain_of_ready <| hh.trans_ne Nat.one_ne_zero

-- The one above all others is asked for under both of its names, and the first one once more when
-- the setting has changed.
theorem logger_set_up_once_despite_repetition :
    let qs : List Request := [
      ⟨"a.cli".toList, none⟩, ⟨"a".toList, some "debug".toList⟩,
      ⟨"a.cli.b".toList, some "10".toList⟩, ⟨[], some " info".toList⟩,
      ⟨"root".toList, some "error".toList⟩, ⟨"a.cli".toList, some "fatal".toList⟩]
    let l := (empty.after qs).lookup "a.cli".toList
    l.handlers = 1 ∧ l.level.severity = 20 ∧
    (empty.after qs).copies ["a.cli".toList, "a".toList, "root".toList] = 3 := by
  intro qs l
  have hf : qs.find? (·.isFor "a.cli".toList) = some ⟨"a.cli".toList, none⟩ := rfl
  have ⟨hh, hl, _, _, hc⟩ := logger_set_up_once hf
  have hg : (Request.mk "a.cli".toList none).Grants 20 := .command nofun ⟨['a'], rfl⟩
  exact ⟨hh, hl _ |>.mpr hg, (hc _).trans <| by decide⟩

end Registry
end FrameFilter.Log
