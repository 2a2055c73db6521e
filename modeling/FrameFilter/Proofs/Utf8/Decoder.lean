import FrameFilter.Proofs.Utf8.Encoding
import FrameFilter.Utf8.Decoder

namespace FrameFilter.Utf8

theorem bounds_of_mem_followers (h : followers b = some rs) :
    ∀ r ∈ rs, 0x80 ≤ r.first ∧ r.last ≤ 0xbf := by
  revert h
  fun_cases followers b <;> intro h <;> cases h <;> decide

theorem Band.tail_contains_of_mem_followers
    (h : followers b = some rs) (hr : r ∈ rs) (hc : r.contains c) : tail.contains c := by
  have ⟨hf, hl⟩ := bounds_of_mem_followers h r hr
  simp only [contains_iff, tail, UInt8.le_iff_toNat_le] at *
  exact ⟨Nat.le_trans hf hc.left, Nat.le_trans hc.right hl⟩

namespace Decoder

-- What is true of every decoder that has been idle: the held octets are the unfinished start of a
-- character, and the bands are those of the octets that it lacks.
inductive Sound : Decoder → Prop
  | idle : Sound idle
  | begun (done : List Band) (hf : followers lead = some (done ++ next :: later))
    (h : Fits done fs) : Sound (begun lead fs next later)
  | surrogate (ht : Band.tail.contains second) (hs : Band.contains ⟨0x80, 0x9f⟩ second = false) :
    Sound (surrogate second)

-- What an octet does to a decoder: it is held back with the others, or it completes a character, or
-- the held octets are released before it.
inductive Pushed (d : Decoder) (b : UInt8) : Prop
  | holds (ht : (d.push b).1 = []) (hh : (d.push b).2.held = d.held ++ [b])
    (hs : (d.push b).2.Sound)
  | completes (hd : d.held = lead :: fs) (hc : IsCharacter lead (fs ++ [b]))
    (hp : d.push b = ([charOf lead (fs ++ [b])], .idle))
  | restarts (hr : ∀ bs, decode (d.held ++ b :: bs) = d.release ++ decode (b :: bs))
    (hp : d.push b = d.restart b)

variable {d : Decoder}

theorem start_sound : (start b).2.Sound := by
  simp only [start]
  split
  case h_1   => exact .idle
  case h_2   => exact .idle
  case h_3 h => exact .begun [] h .nil

theorem decode_start (b : UInt8) (bs : Octets) :
    decode (b :: bs) = (start b).1 ++ decode ((start b).2.held ++ bs) := by
  simp only [start]
  split
  case h_1 h => simp [decode_cons_of_none h, held]
  case h_2 h => simpa [held] using decode_of_isCharacter bs ⟨_, h, .nil⟩
  case h_3 h => simp [held]

-- The octets of a surrogate are replaced one by one, since neither can start a character.
theorem decode_surrogate (ht : Band.tail.contains second)
    (hs : Band.contains ⟨0x80, 0x9f⟩ second = false) (bs : Octets) :
    decode (0xed :: second :: bs) = replacement :: replacement :: decode bs := by
  have h₁ : followers 0xed = some ([] ++ ⟨0x80, 0x9f⟩ :: [.tail]) := rfl
  have h₂ : followers second = none := by
    rw [Band.tail_contains_iff] at ht
    fun_cases followers second
    all_goals simp only [UInt8.lt_iff_toNat_lt, ← UInt8.toNat_inj, UInt8.reduceToNat] at *
    all_goals omega
  have h : decode (0xed :: ([] ++ second :: bs)) = replacement :: decode (second :: bs) :=
    decode_of_cut _ h₁ .nil <| by simpa using hs
  rw [← decode_cons_of_none h₂, ← h, List.nil_append]

theorem pushed_begun (done : List Band) (hf : followers lead = some (done ++ next :: later))
    (h : Fits done fs) (b : UInt8) : (begun lead fs next later).Pushed b := by
  by_cases hb : next.contains b
  case pos =>
    have hd : Fits (done ++ [next]) (fs ++ [b]) := List.rel_append h <| .cons hb .nil
    cases later
    case nil => exact .completes rfl ⟨_, hf, hd⟩ <| by simp [push, hb]
    case cons next later =>
      have hs : Sound (begun lead (fs ++ [b]) next later) := .begun _ (by simpa using hf) hd
      apply Pushed.holds <;> simp [push, hb, held, hs]
  case neg =>
    by_cases hl : lead = 0xed ∧ fs = [] ∧ Band.tail.contains b
    case pos =>
      obtain ⟨h₁, h₂, h₃⟩ := hl
      subst h₁ h₂
      cases h
      cases hf
      have hs := Sound.surrogate h₃ <| eq_false_of_ne_true hb
      apply Pushed.holds <;> simp [push, hb, held, h₃, hs]
    case neg =>
      refine .restarts (fun bs => ?_) <| by simp [push, hb, hl]
      exact decode_of_cut _ hf h <| by simpa using hb

theorem Sound.pushed (hd : d.Sound) (b : UInt8) : d.Pushed b := by
  cases hd
  case idle            => exact .restarts (fun _ => rfl) rfl
  case begun done hf h => exact pushed_begun done hf h b
  case surrogate ht hs => exact .restarts (fun _ => decode_surrogate ht hs _) rfl

theorem Sound.push (hd : d.Sound) : (d.push b).2.Sound := by
  cases hd.pushed b
  case holds hs     => exact hs
  case completes hp => exact hp ▸ .idle
  case restarts hp  => exact hp ▸ start_sound

theorem Sound.feed (hd : d.Sound) : (d.feed bs).2.Sound := by
  induction bs generalizing d
  case nil          => exact hd
  case cons b bs hi => exact hi hd.push

theorem Sound.decode_push (hd : d.Sound) (b : UInt8) (bs : Octets) :
    decode (d.held ++ b :: bs) = (d.push b).1 ++ decode ((d.push b).2.held ++ bs) := by
  cases hd.pushed b
  case holds ht hh _ => simp [ht, hh]
  case completes hd hc hp =>
    have := decode_of_isCharacter bs hc
    simp_all [held]
  case restarts hr hp =>
    rw [hr, hp, decode_start]
    simp [restart]

theorem Sound.decode_held (hd : d.Sound) : decode d.held = d.release := by
  cases hd
  case idle => exact decode_nil
  case begun done hf h =>
    have := decode_of_cut [] hf h
    simpa [held, release, decode_nil] using this
  case surrogate ht hs =>
    have := decode_surrogate ht hs []
    simpa [held, release, decode_nil] using this

-- However octets are cut into portions, they are decoded as if they came at once: what is given out
-- portion by portion and at the end is the text of all octets.
theorem Sound.feed_append_release (hd : d.Sound) (bs : Octets) :
    (d.feed bs).1 ++ (d.feed bs).2.release = decode (d.held ++ bs) := by
  induction bs generalizing d
  case nil          => simp [feed_nil, hd.decode_held]
  case cons b bs hi => rw [hd.decode_push, ← hi hd.push, feed_cons, List.append_assoc]

theorem Sound.push_of_lt (hd : d.Sound) (hb : b < 0x80) : d.push b = d.restart b := by
  cases hd
  case idle            => rfl
  case surrogate       => rfl
  case begun next later fs done hf _ =>
    have ht : Band.tail.contains b = false := by
      simp [Band.contains, Band.tail, UInt8.not_le.mpr hb]
    have hm : next ∈ done ++ next :: later := by simp
    have hn := mt (Band.tail_contains_of_mem_followers hf hm) (ne_true_of_eq_false ht)
    simp [Decoder.push, hn, ht]

theorem feed_idle_cons :
    idle.feed (b :: bs) = ((start b).1 ++ ((start b).2.feed bs).1, ((start b).2.feed bs).2) :=
  rfl

-- An ASCII octet is never part of another character, so the octets before it only come out in
-- front.
theorem Sound.feed_cons_of_lt (hd : d.Sound) (hb : b < 0x80) (bs : Octets) :
    d.feed (b :: bs) =
      (d.release ++ (Decoder.idle.feed (b :: bs)).1, (Decoder.idle.feed (b :: bs)).2) := by
  rw [feed_idle_cons, feed_cons, hd.push_of_lt hb]
  simp [restart]

theorem feed_begun (lead : UInt8) (fs bs : Octets) (h : Fits (next :: later) gs) :
    (begun lead fs next later).feed (gs ++ bs) =
      (charOf lead (fs ++ gs) :: (idle.feed bs).1, (idle.feed bs).2) := by
  induction later generalizing fs next gs
  case nil =>
    cases h
    case cons h hg =>
      cases hg
      simp [feed_cons, push, h]
  case cons r rs hi =>
    cases h
    case cons h hg => simp [feed_cons, push, h, hi _ hg]

theorem feed_of_isCharacter (bs : Octets) (h : IsCharacter b fs) :
    idle.feed (b :: (fs ++ bs)) = (charOf b fs :: (idle.feed bs).1, (idle.feed bs).2) := by
  have ⟨rs, hf, hr⟩ := h
  cases rs
  case nil =>
    cases hr
    simp [feed_idle_cons, start, hf]
  case cons r rs =>
    have hs : start b = ([], begun b [] r rs) := by simp [start, hf]
    rw [feed_idle_cons, hs, feed_begun b [] bs hr]
    rfl

theorem feed_encode_append (t : Text) (bs : Octets) :
    idle.feed (encode t ++ bs) = (t ++ (idle.feed bs).1, (idle.feed bs).2) := by
  induction t
  case nil         => rfl
  case cons c t hi =>
    have ⟨b, fs, he, hc, hb⟩ := exists_isCharacter_encodeChar c
    have ha : encode (c :: t) ++ bs = b :: (fs ++ (encode t ++ bs)) := by simp [encode, he]
    rw [ha, feed_of_isCharacter _ hc, hb, hi, List.cons_append]

theorem feed_encode (t : Text) : idle.feed (encode t) = (t, idle) := by
  have h := feed_encode_append t []
  rwa [List.append_nil, feed_nil, List.append_nil] at h

theorem exists_release_eq_replicate (h : d.held ≠ []) :
    ∃ n, d.release = List.replicate (n + 1) replacement := by
  cases d
  case idle      => exact absurd rfl h
  case begun     => exact ⟨0, rfl⟩
  case surrogate => exact ⟨1, rfl⟩

end Decoder

theorem decode_encode (t : Text) : decode (encode t) = t := by
  have h := Decoder.Sound.idle.feed_append_release (encode t)
  simpa [Decoder.feed_encode, Decoder.release, Decoder.held] using h.symm

end FrameFilter.Utf8
