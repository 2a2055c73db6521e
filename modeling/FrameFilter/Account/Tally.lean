namespace FrameFilter

-- How often each of some things has come up. Each thing that has is listed once, with its count.
structure Tally (α : Type) where
  entries : List (α × Nat)

namespace Tally

def empty : Tally α where
  entries := []

def total (t : Tally α) : Nat :=
  t.entries.foldr (·.2 + ·) 0

theorem total_empty : (empty : Tally α).total = 0 :=
  rfl

variable [DecidableEq α] {t : Tally α} {a b : α}

def count (t : Tally α) (a : α) : Nat :=
  go t.entries
where
  go : List (α × Nat) → Nat
    | []           => 0
    | (b, n) :: es => if a = b then n else go es

def add (t : Tally α) (a : α) : Tally α where
  entries := go t.entries
where
  go : List (α × Nat) → List (α × Nat)
    | []           => [(a, 1)]
    | (b, n) :: es => if a = b then (b, n + 1) :: es else (b, n) :: go es

theorem count_empty : (empty : Tally α).count a = 0 :=
  rfl

theorem total_add : (t.add a).total = t.total + 1 := by
  simp only [total, add]
  induction t.entries
  case nil => rfl
  case cons e es hi =>
    simp only [add.go]
    split
    case isTrue  => simp only [List.foldr_cons]; omega
    case isFalse => simp only [List.foldr_cons, hi]; omega

theorem count_add : (t.add a).count b = if a = b then t.count b + 1 else t.count b := by
  simp only [count, add]
  induction t.entries
  case nil          => by_cases h : a = b <;> simp [add.go, count.go, h, Ne.symm]
  case cons e es hi =>
    have ⟨c, n⟩ := e
    by_cases h₁ : a = c <;> by_cases h₂ : b = c <;> simp_all [add.go, count.go]
    case neg => simp [Ne.symm h₂]

end Tally
end FrameFilter
