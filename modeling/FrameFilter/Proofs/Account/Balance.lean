import FrameFilter.Proofs.Account.Counters

namespace FrameFilter

namespace Tally

-- Each thing is listed once, and only if it has come up.
structure Proper (t : Tally α) : Prop where
  nodup : (t.entries.map (·.1)).Nodup
  pos   : ∀ e ∈ t.entries, 0 < e.2

theorem Proper.empty : (Tally.empty : Tally α).Proper where
  nodup   := List.nodup_nil
  pos _ h := nomatch h

variable [DecidableEq α] {t : Tally α} {es : List (α × Nat)}

theorem mem_keys_go : b ∈ (add.go a es).map (·.1) ↔ b = a ∨ b ∈ es.map (·.1) := by
  induction es
  case nil          => simp [add.go]
  case cons e es hi =>
    simp only [add.go]
    split
    case isTrue h  => simp [h]
    case isFalse h => simp only [List.map_cons, List.mem_cons, hi, or_left_comm]

theorem nodup_keys_go (h : (es.map (·.1)).Nodup) : ((add.go a es).map (·.1)).Nodup := by
  induction es
  case nil          => exact List.pairwise_singleton ..
  case cons e es hi =>
    have ⟨hn, hes⟩ := List.nodup_cons.mp h
    simp only [add.go]
    split
    case isTrue     => exact h
    case isFalse ha =>
      have he : e.1 ∉ (add.go a es).map (·.1) := fun hm =>
        (mem_keys_go.mp hm).elim (ha ∘ Eq.symm) hn
      exact List.nodup_cons.mpr ⟨he, hi hes⟩

theorem pos_go (h : ∀ e ∈ es, 0 < e.2) : ∀ e ∈ add.go a es, 0 < e.2 := by
  induction es
  case nil          => simp [add.go]
  case cons e es hi =>
    obtain ⟨he, hes⟩ := List.forall_mem_cons.mp h
    simp only [add.go]
    split
    case isTrue  => exact List.forall_mem_cons.mpr ⟨Nat.succ_pos _, hes⟩
    case isFalse => exact List.forall_mem_cons.mpr ⟨he, hi hes⟩

theorem Proper.add (h : t.Proper) (a : α) : (t.add a).Proper where
  nodup := nodup_keys_go h.nodup
  pos   := pos_go h.pos

theorem count_go_of_mem (h : (es.map (·.1)).Nodup) (he : (a, n) ∈ es) : count.go a es = n := by
  induction es
  case nil          => contradiction
  case cons e es hi =>
    have ⟨hn, hes⟩ := List.nodup_cons.mp h
    simp only [count.go]
    cases he
    case head    => exact if_pos rfl
    case tail he =>
      have ha : a ≠ e.1 := fun ha => hn <| List.mem_map.mpr ⟨_, he, ha⟩
      exact (if_neg ha).trans <| hi hes he

-- What is listed with a thing is its count.
theorem Proper.count_of_mem (h : t.Proper) (he : (a, n) ∈ t.entries) : t.count a = n :=
  count_go_of_mem h.nodup he

end Tally

namespace Counters

-- The counts of an account agree with each other.
structure Balanced (c : Counters) : Prop where
  read    : c.read = c.shown + c.hidden + c.undecodable
  total   : c.reasons.total = c.shown + c.hidden
  hidden  : c.hidden =
    c.reasons.count .suppressedRequest + c.reasons.count .suppressedResponse
  shown   : c.shown =
    c.reasons.count .allowedEndpoint + c.reasons.count .event + c.reasons.count .malformed
      + c.reasons.count .unknownType + c.reasons.count .unmatchedResponse
  reasons : c.reasons.Proper

theorem Balanced.zero : Counters.zero.Balanced where
  read    := rfl
  total   := rfl
  hidden  := rfl
  shown   := rfl
  reasons := .empty

variable {c d : Counters}

theorem Balanced.addVerdict (h : c.Balanced) (v : Verdict) : (c.addLine.addVerdict v).Balanced := by
  have ⟨hr, ht, hh, hs, hp⟩ := h
  refine ⟨?read, ?total, ?hidden, ?shown, hp.add _⟩
  case total =>
    have : (c.reasons.add v.reason).total = c.reasons.total + 1 := Tally.total_add
    simp only [Counters.addVerdict, addLine]
    split <;> omega
  all_goals
    cases v
    all_goals
      simp only [Counters.addVerdict, addLine, Tally.count_add, Verdict.reason, Verdict.isShown,
        reduceCtorEq, Bool.false_eq_true, if_true, if_false]
      omega

theorem Balanced.addOutcome (h : c.Balanced) : (v : Option Verdict) → (c.addOutcome v).Balanced
  | some v => h.addVerdict v
  | none   => ⟨congrArg (· + 1) h.read, h.total, h.hidden, h.shown, h.reasons⟩

theorem Balanced.setPending (h : c.Balanced) (n : Nat) : (c.setPending n).Balanced :=
  ⟨h.read, h.total, h.hidden, h.shown, h.reasons⟩

-- No count of the first account is larger than that of the second.
structure Within (c d : Counters) : Prop where
  read        : c.read ≤ d.read
  shown       : c.shown ≤ d.shown
  hidden      : c.hidden ≤ d.hidden
  undecodable : c.undecodable ≤ d.undecodable
  reasons     : ∀ r, c.reasons.count r ≤ d.reasons.count r

theorem Within.refl (c : Counters) : c.Within c :=
  ⟨Nat.le_refl _, Nat.le_refl _, Nat.le_refl _, Nat.le_refl _, fun _ => Nat.le_refl _⟩

theorem Within.trans (h : c.Within d) (h' : d.Within e) : c.Within e where
  read        := Nat.le_trans h.read h'.read
  shown       := Nat.le_trans h.shown h'.shown
  hidden      := Nat.le_trans h.hidden h'.hidden
  undecodable := Nat.le_trans h.undecodable h'.undecodable
  reasons r   := Nat.le_trans (h.reasons r) (h'.reasons r)

theorem within_addOutcome (c : Counters) (v : Option Verdict) : c.Within (c.addOutcome v) where
  read        := c.read_addOutcome v ▸ Nat.le_add_right ..
  shown       := c.shown_addOutcome v ▸ Nat.le_add_right ..
  hidden      := c.hidden_addOutcome v ▸ Nat.le_add_right ..
  undecodable := c.undecodable_addOutcome v ▸ Nat.le_add_right ..
  reasons r   := c.count_addOutcome v r ▸ Nat.le_add_right ..

theorem within_setPending (c : Counters) (n : Nat) : c.Within (c.setPending n) :=
  ⟨Nat.le_refl _, Nat.le_refl _, Nat.le_refl _, Nat.le_refl _, fun _ => Nat.le_refl _⟩

end Counters
end FrameFilter
