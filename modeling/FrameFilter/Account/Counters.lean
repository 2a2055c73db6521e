import FrameFilter.Filter.Verdict
import FrameFilter.Account.Tally

namespace FrameFilter

-- The account of a session. The pending tags are those of the filter when the session was last
-- finished.
structure Counters where
  read        : Nat
  shown       : Nat
  hidden      : Nat
  undecodable : Nat
  reasons     : Tally Reason
  pending     : Nat

namespace Counters

def zero : Counters where
  read        := 0
  shown       := 0
  hidden      := 0
  undecodable := 0
  reasons     := .empty
  pending     := 0

def malformed (c : Counters) : Nat :=
  c.reasons.count .malformed

def addLine (c : Counters) : Counters :=
  { c with read := c.read + 1 }

def addUndecodable (c : Counters) : Counters :=
  { c with undecodable := c.undecodable + 1 }

def addVerdict (c : Counters) (v : Verdict) : Counters :=
  { c with
    shown   := if v.isShown then c.shown + 1 else c.shown
    hidden  := if v.isShown then c.hidden else c.hidden + 1
    reasons := c.reasons.add v.reason }

def setPending (c : Counters) (n : Nat) : Counters :=
  { c with pending := n }

end Counters
end FrameFilter
