import FrameFilter.Frame.Basic
import FrameFilter.Proofs.Hex.Decoder
import FrameFilter.Proofs.Hex.RoundTrip
import FrameFilter.Proofs.Utf8.Ascii

namespace FrameFilter.Frame

theorem lines_ofText_decode (bs : Octets) :
    (ofText (Utf8.decode bs)).lines = (bs.splitOn 0x0a).map Utf8.decode := by
  rw [lines_ofText]
  exact Utf8.pieces_decode (c := 0x0a) (by decide) bs

theorem body_ofText_feed {d d' : Utf8.Decoder} (hd : d.Sound) (hd' : d'.Sound) (bs : Octets) :
    (ofText (d.feed bs).1).body = (ofText (d'.feed bs).1).body :=
  hd.cut_feed hd' (c := 0x0a) (by decide) bs

-- Octets that are not well-formed cannot hide the end of a line, neither those of the frame nor
-- those that are left over from the lines before it.
theorem lines_eq_decode_segments (h : Hex.read mode line = .ok bs)
    (h' : Hex.read mode' line = .ok bs') (calls calls' : List Hex.Decoder.Call) :
    let d := (Hex.Decoder.empty mode).after calls
    let d' := (Hex.Decoder.empty mode').after calls'
    (∃ t, Hex.readText mode line = .ok t ∧
        (ofText t).lines = (bs.splitOn 0x0a).map Utf8.decode) ∧
      (∃ t t' e e', d.decode line = .ok (t, e) ∧ d'.decode line = .ok (t', e') ∧
        (ofText t).body = (ofText t').body ∧
        ((∃ b ∈ bs, b < 0x80) → e.utf8 = e'.utf8 ∧ (mode = mode' → e = e'))) ∧
      (∀ c < 0x80, ∀ as bs,
        Utf8.decode (as ++ c :: bs) = Utf8.decode as ++ Char.ofNat c.toNat :: Utf8.decode bs) ∧
      ∀ line, ∃ bs, Hex.read .lenient line = .ok bs := by
  intro d d'
  have hm : d.mode = mode := Hex.Decoder.after_mode
  have hm' : d'.mode = mode' := Hex.Decoder.after_mode
  have hs : d.utf8.Sound := Hex.Decoder.sound_after .idle calls
  have hs' : d'.utf8.Sound := Hex.Decoder.sound_after .idle calls'
  cases Hex.read_congr h h'
  refine ⟨⟨_, Hex.readText_eq h, lines_ofText_decode bs⟩, ⟨_, _, _, _,
    Hex.Decoder.decode_of_ok (hm ▸ h), Hex.Decoder.decode_of_ok (hm' ▸ h'),
    body_ofText_feed hs hs' bs, ?state⟩, fun c hc => Utf8.decode_append_cons_of_lt hc,
    Hex.exists_read_eq_ok⟩
  case state =>
    intro ⟨b, hb, hc⟩
    have he := hs.feed_eq_of_mem hs' hc hb
    exact ⟨he, fun hq => by rw [hm, hm', hq, he]⟩

-- In one of the two states the first octet of the line completes a character, and in the other it
-- is replaced. The last octet is held back in both.
theorem lines_eq_decode_segments_completed :
    let line := "ac0a2fc3".toList
    let d := (Hex.Decoder.empty .strict).after [.decode "e282".toList]
    let d' := (Hex.Decoder.empty .lenient).after [.decode "c3".toList, .flush]
    ∃ t t' e e', d.decode line = .ok (t, e) ∧ d'.decode line = .ok (t', e') ∧
      (ofText t).top = ['€'] ∧ (ofText t').top = [Utf8.replacement] ∧
      (ofText t).body = (ofText t').body ∧ e.utf8 = e'.utf8 := by
  intro line d d'
  have h (m : Hex.Mode) : Hex.read m line = .ok [0xac, 0x0a, 0x2f, 0xc3] := by cases m <;> decide
  have ⟨_, ⟨t, t', e, e', hd, hd', hb, he⟩, _⟩ := lines_eq_decode_segments (h .strict) (h .lenient)
    [.decode "e282".toList] [.decode "c3".toList, .flush]
  have ht : (d.decode line).map (fun (t, _) => (ofText t).top) = .ok ['€'] := by decide
  have ht' : (d'.decode line).map (fun (t, _) => (ofText t).top) = .ok [Utf8.replacement] := by
    decide
  have ⟨hu, _⟩ := he ⟨0x0a, by decide, by decide⟩
  rw [hd] at ht
  rw [hd'] at ht'
  exact ⟨t, t', e, e', hd, hd', Except.ok.inj ht, Except.ok.inj ht', hb, hu⟩

end FrameFilter.Frame
