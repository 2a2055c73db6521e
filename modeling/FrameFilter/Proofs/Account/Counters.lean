import FrameFilter.Account.Counters

namespace FrameFilter

namespace Tally

variable [DecidableEq α] {t : Tally α}

def ofList (as : List α) : Tally α :=
  as.foldl add empty

theorem count_foldl_add (as : List α) (a : α) :
    (as.foldl add t).count a = t.count a + as.count a := by
  induction as generalizing t
  case nil          => rfl
  case cons b as hi =>
    rw [List.foldl_cons, hi, count_add, List.count_cons]
    by_cases h : b = a
    case pos =>
      have hc : (b == a) = true := beq_iff_eq.mpr h
      rw [if_pos h, if_pos hc]
      omega
    case neg =>
      have hc : ¬(b == a) = true := fun hc => h <| beq_iff_eq.mp hc
      rw [if_neg h, if_neg hc]
      omega

theorem count_ofList (as : List α) (a : α) : (ofList as).count a = as.count a := by
  rw [ofList, count_foldl_add, count_empty, Nat.zero_add]

end Tally

namespace Counters

theorem addVerdict_congr (c : Counters) (h : v.reason = w.reason) :
    c.addVerdict v = c.addVerdict w := by
  simp only [addVerdict, Verdict.isShown_congr h, h]

-- A further line, with the verdict on it unless it could not be decoded.
def addOutcome (c : Counters) : Option Verdict → Counters
  | some v => c.addLine.addVerdict v
  | none   => c.addLine.addUndecodable

-- What one outcome adds to each of the counts.
theorem read_addOutcome (c : Counters) (v : Option Verdict) :
    (c.addOutcome v).read = c.read + 1 := by
  cases v <;> rfl

theorem shown_addOutcome (c : Counters) (v : Option Verdict) :
    (c.addOutcome v).shown = c.shown + [v.map (·.isShown)].count (some true) := by
  cases v
  case none   => rfl
  case some v => cases h : v.isShown <;> simp [addOutcome, addVerdict, addLine, h]

theorem hidden_addOutcome (c : Counters) (v : Option Verdict) :
    (c.addOutcome v).hidden = c.hidden + [v.map (·.isShown)].count (some false) := by
  cases v
  case none   => rfl
  case some v => cases h : v.isShown <;> simp [addOutcome, addVerdict, addLine, h]

theorem undecodable_addOutcome (c : Counters) (v : Option Verdict) :
    (c.addOutcome v).undecodable = c.undecodable + [v.map (·.isShown)].count none := by
  cases v <;> rfl

theorem count_addOutcome (c : Counters) (v : Option Verdict) (r : Reason) :
    (c.addOutcome v).reasons.count r =
      c.reasons.count r + (v.toList.map (·.reason)).count r := by
  cases v
  case none   => rfl
  case some v =>
    have hc : (c.addOutcome (some v)).reasons = c.reasons.add v.reason := rfl
    rw [hc, Tally.count_add]
    by_cases h : v.reason = r <;> simp [h]

-- Verdicts one after the other, each on a line of its own.
def addVerdicts (c : Counters) (vs : List Verdict) : Counters :=
  vs.foldl (·.addLine.addVerdict ·) c

theorem addVerdicts_cons {c : Counters} :
    c.addVerdicts (v :: vs) = (c.addLine.addVerdict v).addVerdicts vs :=
  rfl

theorem addVerdicts_eq (c : Counters) (vs : List Verdict) :
    c.addVerdicts vs = {
      read        := c.read + vs.length
      shown       := c.shown + vs.countP (·.isShown)
      hidden      := c.hidden + vs.countP (!·.isShown)
      undecodable := c.undecodable
      reasons     := (vs.map (·.reason)).foldl .add c.reasons
      pending     := c.pending } := by
  induction vs generalizing c
  case nil          => rfl
  case cons v vs hi =>
    rw [addVerdicts_cons, hi]
    cases h : v.isShown
    all_goals
      simp [addLine, addVerdict, h]
      omega

-- The account after a number of further lines that could not be decoded.
def addRefused (c : Counters) (n : Nat) : Counters :=
  { c with
    read        := c.read + n
    undecodable := c.undecodable + n }

variable {c : Counters}

theorem addRefused_add : (c.addRefused m).addRefused n = c.addRefused (m + n) := by
  simp [addRefused, Nat.add_assoc]

theorem addVerdict_addRefused :
    (c.addRefused n).addLine.addVerdict v = (c.addLine.addVerdict v).addRefused n := by
  simp [addRefused, addLine, addVerdict, Nat.add_right_comm]

end Counters
end FrameFilter
