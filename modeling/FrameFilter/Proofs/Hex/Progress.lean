import FrameFilter.Proofs.Hex.Decoder
import FrameFilter.Proofs.Hex.Line

namespace FrameFilter

namespace Utf8

-- The longest beginning of a text that so many octets suffice for.
structure IsLongest (t : Text) (n : Nat) (u : Text) : Prop where
  isPrefix : u <+: t
  fits     : (encode u).length ≤ n
  longest  : ∀ v, v <+: t → (encode v).length ≤ n → v <+: u

theorem encode_isPrefix (h : u <+: t) : encode u <+: encode t := by
  have ⟨v, hv⟩ := h
  exact ⟨encode v, by rw [← hv, encode_append]⟩

-- Octets that end within the first part, or have all of it and go on in the second.
theorem isPrefix_append_cases {as bs cs : Octets} (h : bs <+: as ++ cs) :
    (bs <+: as ∧ bs ≠ as) ∨ ∃ ds, bs = as ++ ds ∧ ds <+: cs := by
  cases List.prefix_or_prefix_of_prefix h (List.prefix_append as cs)
  case inl hb =>
    by_cases he : bs = as
    case pos => exact .inr ⟨[], by simp [he], List.nil_prefix⟩
    case neg => exact .inl ⟨hb, he⟩
  case inr ha =>
    obtain ⟨ds, rfl⟩ := ha
    exact .inr ⟨ds, rfl, (List.prefix_append_right_inj as).mp h⟩

namespace Decoder

-- The octets of a character are held back until the last one comes.
theorem feed_begun_of_isPrefix (lead : UInt8) (fs : Octets) (h : Fits (next :: later) gs)
    (hp : as <+: gs) (hn : as ≠ gs) :
    ((begun lead fs next later).feed as).1 = [] ∧
      ((begun lead fs next later).feed as).2.held = lead :: (fs ++ as) := by
  induction as generalizing fs next later gs
  case nil => simp [feed_nil, held]
  case cons a as hi =>
    cases h
    case cons g gs hr hg =>
      obtain ⟨rfl, ht⟩ := List.cons_prefix_cons.mp hp
      have hne : as ≠ gs := by simpa using hn
      cases hg
      case nil        => exact absurd (List.prefix_nil.mp ht) hne
      case cons r g rs gs hb hg =>
        have hi := hi (fs ++ [a]) (.cons hb hg) ht hne
        simpa [feed_cons, push, hr] using hi

theorem feed_of_isPrefix (h : IsCharacter b fs) (hp : as <+: b :: fs) (hn : as ≠ b :: fs) :
    (idle.feed as).1 = [] ∧ (idle.feed as).2.held = as := by
  have ⟨rs, hf, hr⟩ := h
  cases as
  case nil => exact ⟨rfl, rfl⟩
  case cons a as =>
    obtain ⟨rfl, ht⟩ := List.cons_prefix_cons.mp hp
    have hne : as ≠ fs := by simpa using hn
    cases hr
    case nil        => exact absurd (List.prefix_nil.mp ht) hne
    case cons r g rs gs hb hg =>
      have hs : start a = ([], begun a [] r rs) := by simp only [start, hf]
      simpa [feed_idle_cons, hs] using feed_begun_of_isPrefix a [] (.cons hb hg) ht hne

-- Wherever an encoding is cut, what has been given out and what is held back are the octets up to
-- the cut.
theorem encode_feed_append_held (h : bs <+: encode t) :
    encode (idle.feed bs).1 ++ (idle.feed bs).2.held = bs := by
  induction t generalizing bs
  case nil => rw [List.prefix_nil.mp h]; rfl
  case cons c t hi =>
    have ⟨b, fs, he, hc, hb⟩ := exists_isCharacter_encodeChar c
    have ha : encode (c :: t) = b :: fs ++ encode t := by simp [encode, he]
    cases isPrefix_append_cases (ha ▸ h)
    case inl hp =>
      obtain ⟨ht, hh⟩ := feed_of_isPrefix hc hp.left hp.right
      rw [ht, hh]
      rfl
    case inr hp =>
      obtain ⟨ds, rfl, hp⟩ := hp
      have hd : encode [c] = b :: fs := by simp [encode, he]
      rw [List.cons_append, feed_of_isCharacter ds hc, hb, ← List.singleton_append, encode_append,
        hd, List.append_assoc, hi hp]
      rfl

theorem feed_isLongest (h : bs <+: encode t) : IsLongest t bs.length (idle.feed bs).1 where
  isPrefix := by
    obtain ⟨cs, hc⟩ := h
    have ht : (idle.feed (bs ++ cs)).1 = t := by rw [hc, feed_encode]
    rw [feed_append] at ht
    exact ⟨_, ht⟩
  fits := by
    have hl := congrArg List.length <| encode_feed_append_held h
    rw [List.length_append] at hl
    omega
  longest v hv hl := by
    obtain ⟨ds, rfl⟩ := List.prefix_of_prefix_length_le (encode_isPrefix hv) h hl
    rw [feed_encode_append]
    exact List.prefix_append v _

end Decoder
end Utf8

namespace Hex

theorem octets_write (m : Mode) (chunks : List Octets) :
    Decoder.octets m (chunks.map write) = chunks.flatten := by
  induction chunks
  case nil => rfl
  case cons c cs hi =>
    rw [List.map_cons, Decoder.octets_cons_of_ok (read_write m c), hi, List.flatten_cons]

namespace Decoder

theorem isOk_of_mem_answers_write (d : Decoder) (chunks : List Octets)
    (h : a ∈ d.answers ((chunks.map write).map .decode)) : a.isOk := by
  have hm := List.mem_map_of_mem (f := (·.isOk)) h
  rw [isOk_answers_decode] at hm
  have ⟨line, hl, ha⟩ := List.mem_map.mp hm
  obtain ⟨c, -, rfl⟩ := List.mem_map.mp hl
  exact ha.symm.trans <| congrArg _ (read_write d.mode c)

-- A text whose octets are spread over lines comes out as fast as it can: after each line it is
-- given out up to the last character that is complete, and what is missing is held back.
theorem texts_isLongest (m : Mode) (t : Text) (chunks : List Octets)
    (h : chunks.flatten = Utf8.encode t) :
    let lines := chunks.map write
    let calls k := (lines.take k).map Call.decode
    (∀ k,
      (∀ a ∈ (empty m).answers (calls k), a.isOk) ∧
        let given := ((empty m).texts (calls k)).flatten
        let octets := (chunks.take k).flatten
        Utf8.IsLongest t octets.length given ∧
          Utf8.encode given ++ ((empty m).after (calls k)).utf8.held = octets) ∧
      ((empty m).after (lines.map .decode)).call .flush = (.ok [], empty m) := by
  intro lines calls
  refine ⟨fun k => ?_, ?_⟩
  case refine_1 =>
    have hp : (chunks.take k).flatten <+: Utf8.encode t :=
      ⟨(chunks.drop k).flatten, by rw [← h, ← List.flatten_append, List.take_append_drop]⟩
    have hl : lines.take k = (chunks.take k).map write := List.map_take.symm
    simp only [calls, hl]
    refine ⟨fun a ha => isOk_of_mem_answers_write _ _ ha, ?_⟩
    rw [texts_decode, after_decode, octets_write]
    exact ⟨Utf8.Decoder.feed_isLongest hp, Utf8.Decoder.encode_feed_append_held hp⟩
  case refine_2 =>
    rw [after_decode, octets_write, h]
    have hf : (Utf8.Decoder.idle.feed (Utf8.encode t)).2 = .idle := by rw [Utf8.Decoder.feed_encode]
    exact congrArg (fun e => call ⟨m, e⟩ .flush) hf

-- The third line completes one character and begins the next.
theorem texts_isLongest_third_line :
    let calls := [.decode "c3".toList, .decode [], .decode "a9e2".toList]
    let given := ((empty .strict).texts calls).flatten
    Utf8.IsLongest ['é', '€'] 3 given ∧
      Utf8.encode given ++ ((empty .strict).after calls).utf8.held = [0xc3, 0xa9, 0xe2] ∧
      ((empty .strict).after (calls ++ [.decode "82ac".toList])).call .flush =
        (.ok [], empty .strict) := by
  have ⟨hk, hf⟩ := texts_isLongest .strict ['é', '€'] [[0xc3], [], [0xa9, 0xe2], [0x82, 0xac]]
    (by decide)
  have ⟨_, hl, hh⟩ := hk 3
  exact ⟨hl, hh, hf⟩

end Decoder
end Hex
end FrameFilter
