import FrameFilter.Hex.Line
import FrameFilter.Utf8.Decoder

namespace FrameFilter.Hex

-- Reads lines whose octets are the portions of one text.
structure Decoder where
  mode : Mode
  utf8 : Utf8.Decoder
  deriving DecidableEq

namespace Decoder

def empty (m : Mode) : Decoder where
  mode := m
  utf8 := .idle

-- A refused line leaves no trace, so there is no decoder in that case but the one before.
def decode (d : Decoder) (line : Text) : Except Fault (Text × Decoder) := do
  let (t, utf8) := d.utf8.feed (← read d.mode line)
  return (t, { d with utf8 })

def flush (d : Decoder) : Text × Decoder :=
  let (t, utf8) := d.utf8.flush
  (t, { d with utf8 })

end Decoder
end FrameFilter.Hex
