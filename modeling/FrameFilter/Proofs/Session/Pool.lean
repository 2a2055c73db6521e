import Mathlib.Algebra.BigOperators.Group.Finset.Piecewise
import Mathlib.Data.Fintype.BigOperators
import FrameFilter.Proofs.Filter.Ledger
import FrameFilter.Proofs.Session.Outcome

namespace FrameFilter

-- A number of sessions that use one filter between them.
structure Pool (n : Nat) where
  filter  : Filter
  members : Fin n → Session
  shared  : ∀ i, (members i).filter = filter

namespace Pool

def join (settings : Fin n → Settings) (filter : Filter) : Pool n where
  filter    := filter
  members i := .join (settings i) filter
  shared _  := rfl

-- What one of the sessions does to the filter holds for all of them.
def act (p : Pool n) (i : Fin n) (a : Session.Action) : Pool n :=
  let s := ((p.members i).act a).session
  { filter    := s.filter
    members j := if j = i then s else { p.members j with filter := s.filter }
    shared j  := by split <;> rfl }

def after (p : Pool n) : List (Fin n × Session.Action) → Pool n
  | []           => p
  | (i, a) :: as => (p.act i a).after as

def decision? (p : Pool n) (i : Fin n) : Session.Action → Option Decision
  | .line l => ((p.members i).verdict? l).map (Decision.mk p.filter.pending)
  | .finish => none

-- The decisions of the filter in their order, whoever has asked for them.
def decisions (p : Pool n) : List (Fin n × Session.Action) → List Decision
  | []           => []
  | (i, a) :: as => (p.decision? i a).toList ++ (p.act i a).decisions as

-- How often a reason has come up in all accounts together.
def total (p : Pool n) (r : Reason) : Nat :=
  ∑ i, (p.members i).counters.reasons.count r

variable {p : Pool n}

theorem total_join (settings : Fin n → Settings) (filter : Filter) (r : Reason) :
    (join settings filter).total r = 0 :=
  Finset.sum_eq_zero fun _ _ => rfl

theorem filter_act_line (p : Pool n) (i : Fin n) (l : Text) :
    (p.act i (.line l)).filter = (p.members i).nextFilter l :=
  Session.line_filter (p.members i) l

theorem ledger_act (h : Ledger (p.act i a).filter.pending ds s) :
    Ledger p.filter.pending ((p.decision? i a).toList ++ ds) s := by
  cases a
  case finish =>
    have hf : (p.act i .finish).filter = p.filter := p.shared i
    exact hf ▸ h
  case line l =>
    rw [filter_act_line, Session.nextFilter, p.shared i] at h
    rw [decision?, Session.verdict?, p.shared i]
    cases ht : (p.members i).text? l
    case none   => simpa [ht] using h
    case some t => rw [ht] at h; exact Ledger.judge h

theorem ledger_decisions (p : Pool n) (as : List (Fin n × Session.Action)) :
    Ledger p.filter.pending (p.decisions as) (p.after as).filter.pending := by
  induction as generalizing p
  case nil          => exact .nil
  case cons a as hi => exact ledger_act <| hi _

theorem counters_act_self (p : Pool n) (i : Fin n) (a : Session.Action) :
    ((p.act i a).members i).counters = ((p.members i).act a).session.counters :=
  congrArg Session.counters <| if_pos rfl

theorem counters_act_of_ne (p : Pool n) (a : Session.Action) (h : j ≠ i) :
    ((p.act i a).members j).counters = (p.members j).counters := by
  simp only [act, if_neg h]

theorem count_act_self (p : Pool n) (i : Fin n) (a : Session.Action) (r : Reason) :
    ((p.act i a).members i).counters.reasons.count r =
      (p.members i).counters.reasons.count r
        + ((p.decision? i a).toList.map (·.verdict.reason)).count r := by
  rw [counters_act_self]
  cases a
  case finish => rfl
  case line l =>
    rw [Session.act, Session.line_counters, Counters.count_addOutcome, decision?]
    cases (p.members i).verdict? l <;> rfl

theorem total_act (p : Pool n) (i : Fin n) (a : Session.Action) (r : Reason) :
    (p.act i a).total r =
      p.total r + ((p.decision? i a).toList.map (·.verdict.reason)).count r := by
  have hi := Finset.mem_univ i
  have ho : ∀ j ∈ Finset.univ.erase i, ((p.act i a).members j).counters.reasons.count r =
      (p.members j).counters.reasons.count r := fun j hj => by
    rw [counters_act_of_ne p a <| Finset.ne_of_mem_erase hj]
  rw [total, total, ← Finset.add_sum_erase _ _ hi, ← Finset.add_sum_erase _ _ hi,
    Finset.sum_congr rfl ho, count_act_self, Nat.add_right_comm]

theorem total_after (p : Pool n) (as : List (Fin n × Session.Action)) (r : Reason) :
    (p.after as).total r = p.total r + ((p.decisions as).map (·.verdict.reason)).count r := by
  induction as generalizing p
  case nil          => rfl
  case cons a as hi =>
    rw [after, hi, total_act, decisions, List.map_append, List.count_append, Nat.add_assoc]

theorem total_after_join (settings : Fin n → Settings) (filter : Filter)
    (as : List (Fin n × Session.Action)) (r : Reason) :
    ((join settings filter).after as).total r =
      (((join settings filter).decisions as).map (·.verdict.reason)).count r := by
  rw [total_after, total_join, Nat.zero_add]

-- Every hidden request has its tag pending still, or had it pending before, or has had its response
-- hidden, whichever sessions have seen the two.
theorem tag_accounting (settings : Fin n → Settings) (allowed : Text)
    (calls : List (Fin n × Session.Action)) :
    let start := join settings (.fresh allowed)
    let p := start.after calls
    let ds := start.decisions calls
    let requests := p.total .suppressedRequest
    let responses := p.total .suppressedResponse
    let repeated := (Decision.repeatedTags ds).length
    p.filter.pending.size + responses + repeated = requests ∧
      (Decision.requestTags ds).length = requests ∧
      (Decision.responseTags ds).length = responses ∧
      (∀ tag, (Decision.responseTags ds).count tag ≤ (Decision.requestTags ds).count tag) ∧
      (∀ i,
        let reported := ((p.act i .finish).members i).counters.pending
        reported + responses ≤ requests ∧ (reported + responses = requests ↔ repeated = 0)) ∧
      (∀ tag, tag ∈ p.filter.pending ↔ tag ∈ Decision.unansweredTags ds) ∧
      ((Decision.unansweredTags ds).Nodup →
        p.filter.pending.size = (Decision.unansweredTags ds).length) := by
  intro start p ds requests responses repeated
  have hl : Ledger .empty ds p.filter.pending := ledger_decisions start calls
  have hq : (Decision.requestTags ds).length = requests :=
    (Decision.length_filterMap_tag Verdict.isSome_requestTag? ds).trans (total_after_join ..).symm
  have hr : (Decision.responseTags ds).length = responses :=
    (Decision.length_filterMap_tag Verdict.isSome_responseTag? ds).trans (total_after_join ..).symm
  have ha : p.filter.pending.size + responses + repeated = requests := by
    rw [← hq, ← hr, hl.size_add, TagSet.size_empty, Nat.zero_add]
  refine ⟨ha, hq, hr, fun tag => ?_, fun i => ?_, hl.mem_iff_of_empty, hl.size_eq_length⟩
  case refine_1 => exact (hl.count_responseTags_le tag).trans_eq <| Nat.zero_add _
  case refine_2 =>
    have hp : ((p.act i .finish).members i).counters.pending = p.filter.pending.size := by
      rw [counters_act_self, ← p.shared i]
      rfl
    rw [hp]
    omega

-- A tag is asked for twice and answered once.
theorem tag_accounting_repeated :
    let start : Pool 2 := join (fun _ => {}) (.fresh "/api".toList)
    let calls := [(0, .line <| Hex.writeText "1 t\nGET /x".toList),
      (1, .line <| Hex.writeText "1 t\nGET /x".toList), (1, .line <| Hex.writeText "2 t".toList),
      (0, .line <| Hex.writeText "1 u\nGET /x".toList)]
    let ds := start.decisions calls
    let p := start.after calls
    Decision.unansweredTags ds = ["u".toList] ∧ p.filter.pending.size = 1 ∧
      p.total .suppressedRequest = p.total .suppressedResponse + 2 := by
  intro start calls ds p
  have hu : Decision.unansweredTags ds = ["u".toList] := by decide
  have hr : (Decision.repeatedTags ds).length = 1 := by decide
  have ⟨ha, _, _, _, _, _, hs⟩ := tag_accounting (fun _ => {}) "/api".toList calls
  -- The statement is about the same terms as `ha` and `hs` once the abbreviations are gone.
  simp only [p, ds, start] at hu hr ⊢
  have hp := hs <| hu ▸ List.nodup_singleton _
  rw [hu, List.length_singleton] at hp
  rw [hp, hr] at ha
  exact ⟨hu, hp, by omega⟩

end Pool
end FrameFilter
