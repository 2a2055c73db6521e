import FrameFilter.Text.Blank

namespace FrameFilter.Text

def IsToken (k : Text) : Prop :=
  k ≠ [] ∧ ∀ c ∈ k, isBlank c = false

instance : Decidable (IsToken k) :=
  decidable_of_iff (k ≠ [] ∧ k.all (!isBlank ·)) <| by simp [IsToken]

-- A text with these tokens in it, one after the other. A token ends at a blank or at the end of the
-- text, and starts after a blank or at the start.
inductive Holds : List Text → Text → Prop
  | nil : Holds [] []
  | blank (hc : isBlank c) (ht : Holds ks t) : Holds ks (c :: t)
  | token (hk : IsToken k) (he : ∀ c ∈ t.head?, isBlank c) (ht : Holds ks t) :
    Holds (k :: ks) (k ++ t)

variable {t : Text} {ks : List Text}

theorem tokens_cons (h : isBlank c) (t : Text) : tokens (c :: t) = tokens t :=
  tokens_append_cons (s := []) h

theorem tokens_append (hk : IsToken k) (he : ∀ c ∈ t.head?, isBlank c) :
    tokens (k ++ t) = k :: tokens t := by
  have ht := tokens_of_forall_not_blank hk.left hk.right
  cases t
  case nil      => rw [List.append_nil, ht]; rfl
  case cons c t =>
    have hc : isBlank c := he c rfl
    rw [tokens_append_cons hc, ht, tokens_cons hc]
    rfl

theorem Holds.tokens_eq (h : Holds ks t) : tokens t = ks := by
  induction h
  case nil                => rfl
  case blank hc _ hi      => rw [tokens_cons hc, hi]
  case token hk he _ hi   => rw [tokens_append hk he, hi]

theorem Holds.isToken (h : Holds ks t) : ∀ k ∈ ks, IsToken k := by
  induction h
  case nil              => exact nofun
  case blank hi         => exact hi
  case token hk _ _ hi  => exact List.forall_mem_cons.mpr ⟨hk, hi⟩

-- The first token can be made longer as long as no blank comes before it.
theorem Holds.cons_of_not_blank (hc : isBlank c = false) (h : Holds ks t) :
    ∃ ks', Holds ks' (c :: t) := by
  have hk : IsToken [c] := ⟨List.cons_ne_nil c [], by simp [hc]⟩
  cases h
  case nil =>
    exact ⟨_, .token hk (by simp) .nil⟩
  case blank hb ht =>
    exact ⟨_, .token hk (by simp [hb]) (.blank hb ht)⟩
  case token k t ks hk' he ht =>
    exact ⟨_, .token (k := c :: k) ⟨List.cons_ne_nil c k, by simpa [hc] using hk'.right⟩ he ht⟩

theorem exists_holds (t : Text) : ∃ ks, Holds ks t := by
  induction t
  case nil         => exact ⟨[], .nil⟩
  case cons c t hi =>
    have ⟨ks, ht⟩ := hi
    cases hc : isBlank c
    case true  => exact ⟨ks, .blank hc ht⟩
    case false => exact ht.cons_of_not_blank hc

-- Every text has exactly one list of tokens, which are its longest runs without blanks.
theorem holds_iff : Holds ks t ↔ tokens t = ks where
  mp  := Holds.tokens_eq
  mpr := fun h => by
    have ⟨ks', ht⟩ := exists_holds t
    exact (ht.tokens_eq.symm.trans h) ▸ ht

theorem isToken_of_mem_tokens (h : k ∈ tokens t) : IsToken k :=
  (holds_iff.mpr rfl).isToken k h

theorem Holds.append_of_blank (hs : ∀ c ∈ s, isBlank c) (h : Holds ks t) : Holds ks (s ++ t) := by
  induction s
  case nil         => exact h
  case cons c s hi =>
    have ⟨hc, hs⟩ := List.forall_mem_cons.mp hs
    exact .blank hc <| hi hs

theorem holds_of_blank (hs : ∀ c ∈ s, isBlank c) : Holds [] s := by
  simpa using Holds.nil.append_of_blank hs

-- Tokens one after the other, each with the gap before it.
def spread (parts : List (Text × Text)) : Text :=
  parts.flatMap fun (gap, k) => gap ++ k

theorem head?_spread_append {parts : List (Text × Text)}
    (hp : ∀ p ∈ parts, p.1 ≠ [] ∧ ∀ c ∈ p.1, isBlank c) (ha : ∀ c ∈ after, isBlank c) :
    ∀ c ∈ (spread parts ++ after).head?, isBlank c := by
  intro c hc
  cases parts
  case nil => exact ha c <| List.mem_of_head? hc
  case cons p parts =>
    have ⟨hn, hb⟩ := hp p List.mem_cons_self
    have ⟨d, gap, hg⟩ := List.exists_cons_of_ne_nil hn
    have hd : d = c := by simpa [spread, hg] using hc
    exact hb c <| by simp [hg, hd]

theorem holds_spread {parts : List (Text × Text)}
    (hp : ∀ p ∈ parts, p.1 ≠ [] ∧ ∀ c ∈ p.1, isBlank c) (hk : ∀ p ∈ parts, IsToken p.2)
    (ha : ∀ c ∈ after, isBlank c) :
    Holds (parts.map (·.2)) (spread parts ++ after) := by
  induction parts
  case nil => exact holds_of_blank ha
  case cons p parts hi =>
    have ⟨⟨_, hb⟩, hp⟩ := List.forall_mem_cons.mp hp
    have ⟨ht, hk⟩ := List.forall_mem_cons.mp hk
    have hs : spread (p :: parts) ++ after = p.1 ++ (p.2 ++ (spread parts ++ after)) := by
      simp [spread]
    rw [hs]
    exact .append_of_blank hb <| .token ht (head?_spread_append hp ha) <| hi hp hk

end FrameFilter.Text
