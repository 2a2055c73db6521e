import FrameFilter.Log.Notice
import FrameFilter.Proofs.Text.Unbroken

namespace FrameFilter

open Text

theorem Frame.Fault.unbroken_message (f : Frame.Fault) : Unbroken f.message := by
  cases f
  case fewTokens n l => exact .append (.framed <| unbroken_ofNat n) (unbroken_quote l)
  case badKind k     => exact .labelled <| unbroken_quote k
  case noRequestLine => decide
  case noEndpoint l  => exact .labelled <| unbroken_quote l

theorem Hex.Fault.unbroken_message (f : Hex.Fault) : Unbroken f.message := by
  cases f
  case oddLength n => exact .framed <| unbroken_ofNat n
  case badDigit c  => exact .labelled <| unbroken_quote [c]

namespace Report

theorem unbroken_field (hn : Unbroken name) (hv : Unbroken value) : Unbroken (field name value) :=
  .append (.cons (by decide) hn) (.cons (by decide) <| .cons (by decide) <| .cons (by decide) hv)

theorem unbroken_object (h : ∀ f ∈ fields, Unbroken f.1 ∧ Unbroken f.2) :
    Unbroken (object fields) := by
  refine .append (.cons (by decide) <| .intercalate (by decide) ?_) (by decide)
  intro t ht
  have ⟨f, hf, he⟩ := List.mem_map.mp ht
  exact he ▸ unbroken_field (h f hf).left (h f hf).right

theorem unbroken_ofReasons (t : Tally Reason) : Unbroken (ofReasons t) := by
  apply unbroken_object
  intro f hf
  have ⟨r, _, he⟩ := List.mem_map.mp hf
  have hr : Unbroken r.name := by cases r <;> decide
  exact he ▸ ⟨hr, unbroken_ofNat _⟩

theorem unbroken_ofCounters (c : Counters) : Unbroken (ofCounters c) := by
  apply unbroken_object
  simp only [List.forall_mem_cons]
  refine ⟨⟨?_, unbroken_ofNat _⟩, ⟨?_, unbroken_ofNat _⟩, ⟨?_, unbroken_ofNat _⟩,
    ⟨?_, unbroken_ofNat _⟩, ⟨?_, unbroken_ofNat _⟩, ⟨?_, unbroken_ofNat _⟩,
    ⟨?_, unbroken_ofReasons _⟩, nofun⟩
  all_goals decide

end Report

namespace Log

theorem Level.unbroken_name (l : Level) : Unbroken l.name := by
  cases l <;> decide

theorem Source.unbroken_logger (s : Source) : Unbroken s.logger := by
  cases s <;> decide

namespace Notice

-- The texts that a message holds as they are. Others are quoted in it.
def unquoted : Notice → List Text
  | suppressedRequest h e allowed => [h.tag, e, allowed]
  | suppressedResponse h          => [h.tag]
  | _                             => []

-- A message breaks only where a text does that it holds unquoted.
theorem unbroken_message {n : Notice} (h : ∀ t ∈ n.unquoted, Unbroken t) :
    Unbroken n.message := by
  cases n
  case droppedDigit n      => exact .framed <| unbroken_ofNat n
  case malformedFrame f    => exact .labelled f.unbroken_message
  case undecodableLine n f => exact .append (.framed <| unbroken_ofNat n) f.unbroken_message
  case discarded n         => exact .framed <| unbroken_ofNat n
  case undecodableLines n  => exact .labelled <| unbroken_ofNat n
  case summary c           => exact .labelled <| Report.unbroken_ofCounters c
  case processed c =>
    have hr := unbroken_ofNat c.read
    have hs := unbroken_ofNat c.shown
    have hh := unbroken_ofNat c.hidden
    exact .extended (.extended (.framed hr) hs) hh
  case options allowed mode =>
    have hm : Unbroken (if mode = .strict then "True".toList else "False".toList) := by
      cases mode <;> decide
    exact .extended (.framed <| unbroken_quote allowed) hm
  case suppressedRequest header e allowed =>
    simp only [unquoted, List.forall_mem_cons] at h
    have ⟨ht, he, ha, _⟩ := h
    exact .append (.extended (.framed ht) he) ha
  case suppressedResponse header =>
    have ht : Unbroken header.tag := h _ List.mem_cons_self
    have hl : Unbroken ((header.latency.map Numeral.ofInt).getD "None".toList) := by
      cases header.latency
      case none   => decide
      case some n => exact unbroken_ofInt n
    exact .extended (.framed ht) hl

-- Only the filter does not quote what it takes from the input.
theorem unbroken_message_of_source {n : Notice} (h : n.source ≠ .filter) : Unbroken n.message := by
  apply unbroken_message
  cases n
  case suppressedRequest  => exact absurd rfl h
  case suppressedResponse => exact absurd rfl h
  all_goals exact nofun

-- A record without the newline that ends it.
def line (n : Notice) (time : Text) : Text :=
  " | ".toList.intercalate [time, n.level.name, n.source.logger, n.message]

theorem unbroken_line {n : Notice} (ht : Unbroken time) (hm : Unbroken n.message) :
    Unbroken (n.line time) := by
  apply Unbroken.intercalate (by decide)
  simp only [List.forall_mem_cons]
  exact ⟨ht, n.level.unbroken_name, n.source.unbroken_logger, hm, nofun⟩

end Notice
end Log
end FrameFilter
