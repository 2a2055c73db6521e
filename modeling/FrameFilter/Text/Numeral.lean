import FrameFilter.Text.Digit

namespace FrameFilter

-- Whole numbers as they are written in a header. They are written in ASCII without leading zeros,
-- but read in the digits of any script, with an optional sign and with single underscores between
-- digits.
namespace Numeral

def ofNat (n : Nat) : Text :=
  Nat.toDigits 10 n

def ofInt : Int → Text
  | .ofNat n   => ofNat n
  | .negSucc n => '-' :: ofNat (n + 1)

-- A longer numeral is not read, whatever its value: leading zeros count.
def maxDigits : Nat :=
  4300

def digits? : Text → Option (List Nat)
  | []            => none
  | [c]           => (Text.digit? c).map ([·])
  | c :: '_' :: t => do return (← Text.digit? c) :: (← digits? t)
  | c :: t        => do return (← Text.digit? c) :: (← digits? t)

def value (ds : List Nat) : Nat :=
  ds.foldl (10 * · + ·) 0

def magnitude? (t : Text) : Option Nat := do
  let ds ← digits? t
  if ds.length ≤ maxDigits then some (value ds) else none

def read? : Text → Option Int
  | '-' :: t => (magnitude? t).map (-·)
  | '+' :: t => (magnitude? t).map (·)
  | t        => (magnitude? t).map (·)

end Numeral
end FrameFilter
