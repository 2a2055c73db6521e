import Mathlib.Data.Nat.Digits.Defs
import FrameFilter.Proofs.Text.Token
import FrameFilter.Text.Numeral

namespace FrameFilter.Numeral

-- Digits in writing and their values. There may be one underscore between two of them.
inductive Spells : Text → List Nat → Prop
  | last (hc : Text.IsDigit c d) : Spells [c] [d]
  | next (hc : Text.IsDigit c d) (ht : Spells t ds) : Spells (c :: t) (d :: ds)
  | parted (hc : Text.IsDigit c d) (ht : Spells t ds) : Spells (c :: '_' :: t) (d :: ds)

-- What digits are worth by their positions.
def positional (ds : List Nat) : Nat :=
  Nat.ofDigits 10 ds.reverse

-- Whole numbers in writing.
inductive Denotes : Text → Int → Prop
  | unsigned (hs : Spells t ds) (hl : ds.length ≤ 4300) : Denotes t (positional ds)
  | plus (hs : Spells t ds) (hl : ds.length ≤ 4300) : Denotes ('+' :: t) (positional ds)
  | minus (hs : Spells t ds) (hl : ds.length ≤ 4300) : Denotes ('-' :: t) (-positional ds)

-- The numbers that are not too long to be read.
def Fits (n : Int) : Prop :=
  (ofNat n.natAbs).length ≤ 4300

instance : Decidable (Fits n) :=
  inferInstanceAs <| Decidable (_ ≤ _)

theorem value_eq_positional (ds : List Nat) : value ds = positional ds := by
  rw [value, positional, Nat.ofDigits_eq_foldr, List.foldr_reverse]
  simp only [Nat.cast_id, Nat.add_comm]

theorem Spells.exists_cons (h : Spells t ds) :
    ∃ c u, t = c :: u ∧ c ≠ '_' ∧ c ≠ '+' ∧ c ≠ '-' := by
  have hc : ∃ c u d, t = c :: u ∧ Text.digit? c = some d := by
    simp only [Text.digit?_eq_some_iff]
    cases h
    case last hc     => exact ⟨_, _, _, rfl, hc⟩
    case next hc _   => exact ⟨_, _, _, rfl, hc⟩
    case parted hc _ => exact ⟨_, _, _, rfl, hc⟩
  obtain ⟨c, u, d, rfl, hc⟩ := hc
  refine ⟨c, u, rfl, ?_, ?_, ?_⟩
  all_goals
    rintro rfl
    cases hc

theorem digits?_eq_some_iff : digits? t = some ds ↔ Spells t ds := by
  constructor
  case mp =>
    intro h
    fun_induction digits? t generalizing ds
    case case1 => cases h
    case case2 c =>
      obtain ⟨d, hd, rfl⟩ := Option.map_eq_some_iff.mp h
      exact .last <| Text.digit?_eq_some_iff.mp hd
    case case3 c t hi =>
      simp only [Option.bind_eq_bind, Option.bind_eq_some_iff, pure, Option.some.injEq] at h
      obtain ⟨d, hd, ds, ht, rfl⟩ := h
      exact .parted (Text.digit?_eq_some_iff.mp hd) (hi ht)
    case case4 c t _ _ hi =>
      simp only [Option.bind_eq_bind, Option.bind_eq_some_iff, pure, Option.some.injEq] at h
      obtain ⟨d, hd, ds, ht, rfl⟩ := h
      exact .next (Text.digit?_eq_some_iff.mp hd) (hi ht)
  case mpr =>
    intro h
    induction h
    case last hc        => simp [digits?, Text.digit?_eq_some_iff.mpr hc]
    case parted hc _ hi => simp [digits?, Text.digit?_eq_some_iff.mpr hc, hi]
    case next c d t ds hc ht hi =>
      obtain ⟨e, u, rfl, hn, _⟩ := ht.exists_cons
      have hc := Text.digit?_eq_some_iff.mpr hc
      rw [digits?.eq_def]
      split <;> simp_all

theorem Spells.lt_ten (h : Spells t ds) : ∀ d ∈ ds, d < 10 := by
  induction h
  case last hc        => simpa using hc.lt_ten
  case next hc _ hi   => exact List.forall_mem_cons.mpr ⟨hc.lt_ten, hi⟩
  case parted hc _ hi => exact List.forall_mem_cons.mpr ⟨hc.lt_ten, hi⟩

-- Written anew, a number can only become shorter, by its leading zeros.
theorem Spells.length_ofNat_le (h : Spells t ds) : (ofNat (positional ds)).length ≤ ds.length := by
  have hl : 0 < ds.length := by cases h <;> simp
  have ht : ∀ d ∈ ds.reverse, d < 10 := by simpa using h.lt_ten
  have hp : positional ds < 10 ^ ds.length := by
    simpa [positional] using Nat.ofDigits_lt_base_pow_length (by decide) ht
  exact Nat.toDigits_length 10 _ _ hl hp

theorem Denotes.fits (h : Denotes t n) : Fits n := by
  cases h
  case unsigned hl hs => exact Nat.le_trans hs.length_ofNat_le hl
  case plus hs hl     => exact Nat.le_trans hs.length_ofNat_le hl
  case minus hs hl    =>
    rw [Fits, Int.natAbs_neg]
    exact Nat.le_trans hs.length_ofNat_le hl

theorem map_magnitude?_eq_some_iff {f : Nat → Int} : (magnitude? t).map f = some n ↔
    ∃ ds, Spells t ds ∧ ds.length ≤ 4300 ∧ f (positional ds) = n := by
  have hm (m : Nat) : magnitude? t = some m ↔
      ∃ ds, Spells t ds ∧ ds.length ≤ 4300 ∧ positional ds = m := by
    simp only [magnitude?, Option.bind_eq_bind, Option.bind_eq_some_iff, digits?_eq_some_iff,
      value_eq_positional, maxDigits, Option.ite_none_right_eq_some, Option.some.injEq]
  simp only [Option.map_eq_some_iff, hm]
  constructor
  case mp  => exact fun ⟨_, ⟨ds, hs, hl, hp⟩, hf⟩ => ⟨ds, hs, hl, hp ▸ hf⟩
  case mpr => exact fun ⟨ds, hs, hl, hf⟩ => ⟨_, ⟨ds, hs, hl, rfl⟩, hf⟩

theorem read?_minus (t : Text) :
    read? ('-' :: t) = (magnitude? t).map fun m : Nat => (-m : Int) := by
  rw [read?]
  cases magnitude? t <;> rfl

theorem read?_plus (t : Text) :
    read? ('+' :: t) = (magnitude? t).map fun m : Nat => (m : Int) := by
  rw [read?]
  cases magnitude? t <;> rfl

theorem read?_unsigned {t : Text} (hm : ∀ u, t ≠ '-' :: u) (hp : ∀ u, t ≠ '+' :: u) :
    read? t = (magnitude? t).map fun m : Nat => (m : Int) := by
  rw [read?.eq_3 t hm hp]
  cases magnitude? t <;> rfl

-- Reading finds exactly the numbers that are written as they should be.
theorem read?_eq_some_iff : read? t = some n ↔ Denotes t n := by
  constructor
  case mp =>
    intro h
    by_cases hm : ∃ u, t = '-' :: u
    case pos =>
      obtain ⟨u, rfl⟩ := hm
      rw [read?_minus] at h
      obtain ⟨ds, hs, hl, rfl⟩ := map_magnitude?_eq_some_iff.mp h
      exact .minus hs hl
    by_cases hp : ∃ u, t = '+' :: u
    case pos =>
      obtain ⟨u, rfl⟩ := hp
      rw [read?_plus] at h
      obtain ⟨ds, hs, hl, rfl⟩ := map_magnitude?_eq_some_iff.mp h
      exact .plus hs hl
    rw [read?_unsigned (not_exists.mp hm) (not_exists.mp hp)] at h
    obtain ⟨ds, hs, hl, rfl⟩ := map_magnitude?_eq_some_iff.mp h
    exact .unsigned hs hl
  case mpr =>
    intro h
    cases h
    case plus hs hl  => rw [read?_plus, map_magnitude?_eq_some_iff.mpr ⟨_, hs, hl, rfl⟩]
    case minus hs hl => rw [read?_minus, map_magnitude?_eq_some_iff.mpr ⟨_, hs, hl, rfl⟩]
    case unsigned hl hs =>
      have ⟨c, u, ht, _, hp, hm⟩ := hs.exists_cons
      rw [read?_unsigned (by simp [ht, hm]) (by simp [ht, hp])]
      exact map_magnitude?_eq_some_iff.mpr ⟨_, hs, hl, rfl⟩

theorem toNat_of_isDigit {c : Char} (h : c.isDigit) : 0x30 ≤ c.toNat ∧ c.toNat ≤ 0x39 := by
  simpa [Char.isDigit, UInt32.le_iff_toNat_le] using h

theorem isBlank_of_isDigit {c : Char} (h : c.isDigit) : Text.isBlank c = false := by
  have hd : ∀ n < 0x3a, 0x30 ≤ n → Text.isBlank (Char.ofNat n) = false := by decide
  have ⟨hl, hu⟩ := toNat_of_isDigit h
  have hc := hd c.toNat (Nat.lt_succ_of_le hu) hl
  rwa [Char.ofNat_toNat] at hc

theorem worth_of_isDigit {c : Char} (h : c.isDigit) : Text.IsDigit c (c.toNat - '0'.toNat) where
  zero   := ⟨'0'.toNat, List.mem_cons_self, (Nat.add_sub_of_le (toNat_of_isDigit h).left).symm⟩
  lt_ten := Nat.lt_succ_of_le <| Nat.sub_le_sub_right (toNat_of_isDigit h).right '0'.toNat

theorem spells_of_isDigit (hn : t ≠ []) (h : ∀ c ∈ t, c.isDigit) :
    Spells t (t.map fun c => c.toNat - '0'.toNat) := by
  induction t
  case nil         => contradiction
  case cons c t hi =>
    have ⟨hc, ht⟩ := List.forall_mem_cons.mp h
    cases t
    case nil  => exact .last <| worth_of_isDigit hc
    case cons => exact .next (worth_of_isDigit hc) (hi (List.cons_ne_nil _ _) ht)

theorem isDigit_of_mem_ofNat (h : c ∈ ofNat n) : c.isDigit :=
  Nat.isDigit_of_mem_toDigits (by decide) (by decide) h

theorem ofNat_ne_nil (n : Nat) : ofNat n ≠ [] :=
  List.ne_nil_of_length_pos Nat.length_toDigits_pos

theorem spells_ofNat (n : Nat) : Spells (ofNat n) ((ofNat n).map fun c => c.toNat - '0'.toNat) :=
  spells_of_isDigit (ofNat_ne_nil n) fun _ => isDigit_of_mem_ofNat

theorem positional_ofNat (n : Nat) :
    positional ((ofNat n).map fun c => c.toNat - '0'.toNat) = n := by
  rw [← value_eq_positional, value, List.foldl_map]
  exact Nat.ofDigitChars_toDigits (by decide) (by decide)

theorem magnitude?_ofNat (n : Nat) :
    magnitude? (ofNat n) = if (ofNat n).length ≤ 4300 then some n else none := by
  have hd := digits?_eq_some_iff.mpr <| spells_ofNat n
  simp only [magnitude?, hd, Option.bind_eq_bind, Option.bind_some, List.length_map, maxDigits,
    value_eq_positional, positional_ofNat]

-- What is written is read back, unless it is too long to be read at all.
theorem read?_ofInt (n : Int) : read? (ofInt n) = if Fits n then some n else none := by
  cases n
  case ofNat m =>
    have ⟨c, u, ht, _, hp, hm⟩ := (spells_ofNat m).exists_cons
    rw [ofInt, read?_unsigned (by simp [ht, hm]) (by simp [ht, hp]), magnitude?_ofNat,
      apply_ite (Option.map _)]
    rfl
  case negSucc m =>
    rw [ofInt, read?_minus, magnitude?_ofNat, apply_ite (Option.map _)]
    rfl

theorem denotes_ofInt (h : Fits n) : Denotes (ofInt n) n :=
  read?_eq_some_iff.mp <| (read?_ofInt n).trans <| if_pos h

theorem isToken_ofInt (n : Int) : Text.IsToken (ofInt n) := by
  have hd (m : Nat) : ∀ c ∈ ofNat m, Text.isBlank c = false := fun _ hc =>
    isBlank_of_isDigit <| isDigit_of_mem_ofNat hc
  cases n
  case ofNat m   => exact ⟨ofNat_ne_nil m, hd m⟩
  case negSucc m =>
    exact ⟨List.cons_ne_nil _ _, List.forall_mem_cons.mpr ⟨by decide, hd (m + 1)⟩⟩

end FrameFilter.Numeral
