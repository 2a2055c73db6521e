import FrameFilter.Utf8.Basic

namespace FrameFilter.Utf8

-- Decodes octets that arrive in portions. What ends a portion is held back if the octets to come
-- can complete it to a character.
--
-- The start of a surrogate (ED and an octet from A0 on) is held back as well. It is ill-formed
-- whatever follows, but it is only replaced when something does, or when the text ends.
inductive Decoder where
  | idle
  | begun (lead : UInt8) (followers : Octets) (next : Band) (later : List Band)
  | surrogate (second : UInt8)
  deriving DecidableEq

namespace Decoder

def held : Decoder → Octets
  | idle            => []
  | begun b fs _ _  => b :: fs
  | surrogate b     => [0xed, b]

-- The text of the held octets if none of the octets to come belongs to them.
def release : Decoder → Text
  | idle         => []
  | begun ..     => [replacement]
  | surrogate _  => [replacement, replacement]

-- Takes an octet with which something new starts.
def start (b : UInt8) : Text × Decoder :=
  match followers b with
  | none           => ([replacement], idle)
  | some []        => ([charOf b []], idle)
  | some (r :: rs) => ([], begun b [] r rs)

def restart (d : Decoder) (b : UInt8) : Text × Decoder :=
  let (t, e) := start b
  (d.release ++ t, e)

def push : Decoder → UInt8 → Text × Decoder
  | begun lead fs r rs, b =>
    if r.contains b then
      match rs with
      | []      => ([charOf lead (fs ++ [b])], idle)
      | r :: rs => ([], begun lead (fs ++ [b]) r rs)
    else if lead = 0xed ∧ fs = [] ∧ Band.tail.contains b then ([], surrogate b)
    else restart (begun lead fs r rs) b
  | d, b => d.restart b

def feed (d : Decoder) : Octets → Text × Decoder
  | [] => ([], d)
  | b :: bs =>
    let (t₁, d₁) := d.push b
    let (t₂, d₂) := d₁.feed bs
    (t₁ ++ t₂, d₂)

-- Ends the text.
def flush (d : Decoder) : Text × Decoder :=
  (d.release, idle)

variable {d : Decoder}

theorem feed_nil : d.feed [] = ([], d) :=
  rfl

theorem feed_cons :
    d.feed (b :: bs) = ((d.push b).1 ++ ((d.push b).2.feed bs).1, ((d.push b).2.feed bs).2) :=
  rfl

-- Where the octets are cut into portions does not matter.
theorem feed_append :
    d.feed (as ++ bs) =
      ((d.feed as).1 ++ ((d.feed as).2.feed bs).1, ((d.feed as).2.feed bs).2) := by
  induction as generalizing d
  case nil          => simp [feed_nil]
  case cons a as hi => simp [feed_cons, hi]

theorem flush_idle : idle.flush = ([], idle) :=
  rfl

theorem held_eq_nil_iff : d.held = [] ↔ d = idle := by
  cases d <;> simp [held]

end Decoder
end FrameFilter.Utf8
