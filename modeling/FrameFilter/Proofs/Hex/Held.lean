import FrameFilter.Proofs.Hex.Decoder
import FrameFilter.Proofs.Utf8.Ascii

namespace FrameFilter

namespace Utf8

-- Either nothing, or a first octet that asks for others, with some of them, but not all.
structure Unfinished (bs : Octets) : Prop where
  length_le  : bs.length ≤ 3
  lead       : ∀ b ∈ bs.head?, 0xc2 ≤ b ∧ b ≤ 0xf4
  continued  : ∀ b ∈ bs.tail, 0x80 ≤ b ∧ b ≤ 0xbf
  incomplete : ∀ c, ¬encode [c] <+: bs

theorem lead_bounds (h : followers b = some (r :: rs)) : 0xc2 ≤ b ∧ b ≤ 0xf4 := by
  revert h
  fun_cases followers b <;> intro h <;> cases h
  all_goals
    simp only [UInt8.lt_iff_toNat_lt, UInt8.le_iff_toNat_le, ← UInt8.toNat_inj,
      UInt8.reduceToNat] at *
    omega

theorem length_followers_le (h : followers b = some rs) : rs.length ≤ 3 := by
  revert h
  fun_cases followers b <;> intro h <;> cases h <;> decide

theorem forall_tail_contains_of_fits (hf : followers b = some (done ++ later)) (h : Fits done fs) :
    ∀ f ∈ fs, Band.tail.contains f := by
  have ht : ∀ r ∈ done, ∀ f, r.contains f → Band.tail.contains f := fun r hr f =>
    Band.tail_contains_of_mem_followers hf <| List.mem_append_left _ hr
  clear hf
  induction h
  case nil => exact nofun
  case cons hc _ hi =>
    have ⟨hr, hrs⟩ := List.forall_mem_cons.mp ht
    exact List.forall_mem_cons.mpr ⟨hr _ hc, hi hrs⟩

theorem Unfinished.nil : Unfinished [] where
  length_le    := Nat.zero_le _
  lead         := nofun
  continued    := nofun
  incomplete c := by
    have ⟨b, fs, he, _⟩ := exists_isCharacter_encodeChar c
    simp [encode, he]

-- Whether the octets are the right ones does not matter, if only there are too few of them.
theorem Unfinished.of_length_lt (hf : followers b = some rs) (hl : fs.length < rs.length)
    (ht : ∀ f ∈ fs, Band.tail.contains f) : Unfinished (b :: fs) where
  length_le := Nat.le_trans hl <| length_followers_le hf
  lead := by
    cases rs
    case nil  => contradiction
    case cons => simpa using lead_bounds hf
  continued f hm := by
    simpa [UInt8.le_iff_toNat_le] using Band.tail_contains_iff.mp <| ht f hm
  incomplete c hp := by
    have ⟨b', fs', he, ⟨rs', hf', hfit⟩, _⟩ := exists_isCharacter_encodeChar c
    simp only [encode, List.flatMap_cons, List.flatMap_nil, List.append_nil, he] at hp
    obtain ⟨rfl, hg⟩ := List.cons_prefix_cons.mp hp
    cases hf.symm.trans hf'
    have hle := hg.length_le
    rw [← hfit.length_eq] at hle
    exact Nat.not_le_of_lt hl hle

namespace Decoder

variable {d : Decoder}

theorem Sound.unfinished (hd : d.Sound) : Unfinished d.held := by
  cases hd
  case idle => exact .nil
  case begun done hf h =>
    refine .of_length_lt hf ?_ <| forall_tail_contains_of_fits hf h
    rw [← h.length_eq, List.length_append, List.length_cons]
    omega
  case surrogate ht _ =>
    have hf : followers 0xed = some [⟨0x80, 0x9f⟩, .tail] := rfl
    exact .of_length_lt hf Nat.one_lt_two <| by simpa using ht

theorem held_start_isSuffix (b : UInt8) : (start b).2.held <:+ [b] := by
  simp only [start]
  split
  case h_1 => exact List.nil_suffix
  case h_2 => exact List.nil_suffix
  case h_3 => exact List.suffix_rfl

-- Whatever an octet does, what is held after it goes back from it without a gap.
theorem Sound.held_push_isSuffix (hd : d.Sound) (b : UInt8) :
    (d.push b).2.held <:+ d.held ++ [b] := by
  cases hd.pushed b
  case holds hh _    => exact hh ▸ List.suffix_rfl
  case completes hp  => exact hp ▸ List.nil_suffix
  case restarts _ hp => exact hp ▸ (held_start_isSuffix b).trans (List.suffix_append ..)

theorem Sound.held_feed_isSuffix (hd : d.Sound) (bs : Octets) :
    (d.feed bs).2.held <:+ d.held ++ bs := by
  induction bs generalizing d
  case nil          => simp [feed_nil]
  case cons b bs hi =>
    have hp : (d.push b).2.held ++ bs <:+ d.held ++ [b] ++ bs :=
      List.suffix_append_self_iff.mpr <| hd.held_push_isSuffix b
    rw [List.append_assoc] at hp
    exact (hi hd.push).trans hp

theorem Sound.held_feed_of_lt (hd : d.Sound) (hb : b < 0x80) (bs : Octets) :
    (d.feed (bs ++ [b])).2.held = [] := by
  rw [hd.feed_append_cons_of_lt hb]
  rfl

-- What is held comes out as replacements and nothing else.
theorem exists_release_eq (d : Decoder) :
    ∃ n, d.release = List.replicate n replacement ∧ (0 < n ↔ d.held ≠ []) := by
  by_cases h : d.held = []
  case pos =>
    obtain rfl := held_eq_nil_iff.mp h
    exact ⟨0, rfl, by simp [h]⟩
  case neg =>
    have ⟨n, hn⟩ := exists_release_eq_replicate h
    exact ⟨n + 1, hn, by simp [h]⟩

end Decoder
end Utf8

namespace Hex.Decoder

-- The octets of all lines since the last flush that are not refused, with one more call.
def collect (m : Mode) (os : Octets) : Call → Octets
  | .decode line => os ++ (read m line).toOption.getD []
  | .flush       => []

def collected (m : Mode) (calls : List Call) : Octets :=
  calls.foldl (collect m) []

variable {d : Decoder}

theorem held_call_isSuffix (hd : d.utf8.Sound) (h : d.utf8.held <:+ os) (c : Call) :
    (d.call c).2.utf8.held <:+ collect d.mode os c := by
  cases c
  case flush       => exact List.nil_suffix
  case decode line =>
    cases hr : read d.mode line
    case error =>
      rw [call_of_error hr]
      simpa [collect, hr, Except.toOption] using h
    case ok bs =>
      have hs := (hd.held_feed_isSuffix bs).trans <| List.suffix_append_self_iff.mpr h
      rw [call_of_ok hr]
      simpa [collect, hr, Except.toOption] using hs

theorem held_after_isSuffix (hd : d.utf8.Sound) (h : d.utf8.held <:+ os) (calls : List Call) :
    (d.after calls).utf8.held <:+ calls.foldl (collect d.mode) os := by
  induction calls generalizing d os
  case nil => exact h
  case cons c calls hi =>
    have hc := hi (sound_call hd c) (held_call_isSuffix hd h c)
    rwa [call_mode] at hc

-- The octets that a decoder holds back are the last ones that it has been given since the last
-- flush, and too few for the character that they begin. They do not outlast an ASCII octet or a
-- flush, which gives out replacements for them.
theorem held_unfinished (m : Mode) (calls : List Call) :
    let d := (empty m).after calls
    d.utf8.held <:+ collected m calls ∧
      Utf8.Unfinished d.utf8.held ∧
      (∀ line bs b, read m line = .ok (bs ++ [b]) → b < 0x80 →
        (d.call (.decode line)).2.utf8.held = []) ∧
      (∀ line, read m line = .ok [] → d.call (.decode line) = (.ok [], d)) ∧
      (∀ line fault, read m line = .error fault → d.call (.decode line) = (.error fault, d)) ∧
      (d.call .flush).2 = empty m ∧
      ∃ n, (d.call .flush).1 = .ok (List.replicate n Utf8.replacement) ∧
        (0 < n ↔ d.utf8.held ≠ []) := by
  intro d
  have hm : d.mode = m := after_mode
  have hd : d.utf8.Sound := sound_after .idle calls
  have hs : d.utf8.held <:+ collected m calls :=
    held_after_isSuffix (d := empty m) .idle List.suffix_rfl calls
  have ⟨n, hr, hn⟩ := d.utf8.exists_release_eq
  clear_value d
  subst hm
  refine ⟨hs, hd.unfinished, ?_, ?_, ?_, rfl, n, congrArg Except.ok hr, hn⟩
  case refine_1 =>
    intro line bs b h hb
    rw [call_of_ok h]
    exact hd.held_feed_of_lt hb bs
  case refine_2 => exact fun line h => call_of_ok h
  case refine_3 => exact fun line fault h => call_of_error h

-- Three lines of which one is refused are not enough for a character, and the next goes back on it.
theorem held_unfinished_refused :
    let d := (empty .strict).after [.decode "41e2".toList, .decode "e".toList, .decode "82".toList]
    d.utf8.held = [0xe2, 0x82] ∧ d.utf8.held <:+ [0x41, 0xe2, 0x82] ∧
      (d.call (.decode "2e41".toList)).2.utf8.held = [] ∧
      d.call (.decode []) = (.ok [], d) ∧
      d.call (.decode "zz".toList) = (.error (.badDigit 'z'), d) ∧
      ∃ n, 0 < n ∧ (d.call .flush).1 = .ok (List.replicate n Utf8.replacement) := by
  intro d
  have ⟨hs, _, ha, he, hr, _, n, ht, hn⟩ := held_unfinished .strict
    [.decode "41e2".toList, .decode "e".toList, .decode "82".toList]
  have hh : d.utf8.held = [0xe2, 0x82] := by decide
  exact ⟨hh, hs, ha _ [0x2e] 0x41 (by decide) (by decide), he [] (by decide),
    hr _ _ (by decide), n, hn.mpr (by decide), ht⟩

end Hex.Decoder
end FrameFilter
