import FrameFilter.Hex.Pair
import FrameFilter.Text.Numeral
import FrameFilter.Text.Quoted
import FrameFilter.Utf8.Decode

namespace FrameFilter.Hex

-- What to do with a line that is not hex: make the best of it or refuse it.
inductive Mode where
  | lenient
  | strict
  deriving DecidableEq

inductive Fault where
  | oddLength (length : Nat)
  | badDigit (c : Char)
  deriving DecidableEq

def Fault.message : Fault → Text
  | oddLength n => "odd-length hex line (".toList ++ Numeral.ofNat n ++ " characters)".toList
  | badDigit c  => "invalid hex character ".toList ++ Text.quote [c]

-- The octets of a text of digits.
def clean : Text → Octets
  | c :: d :: t => UInt8.ofNat (value ([c, d].filterMap digit?)) :: clean t
  | _           => []

-- The octets of any text, each from two characters.
def pairwise : Text → Octets
  | c :: d :: t => pairValue [c, d] :: pairwise t
  | _           => []

-- Leaves out the last character if its pair is not complete.
def evenPart (t : Text) : Text :=
  t.take (t.length - t.length % 2)

def read (m : Mode) (t : Text) : Except Fault Octets :=
  if m = .strict ∧ t.length % 2 = 1 then
    .error (.oddLength t.length)
  else
    match m, (evenPart t).find? (!isDigit ·) with
    | _, none          => .ok (clean (evenPart t))
    | .strict, some c  => .error (.badDigit c)
    | .lenient, some _ => .ok (pairwise (evenPart t))

-- Whether reading a line leaves out its last character.
def drops (m : Mode) (t : Text) : Bool :=
  m = .lenient && t.length % 2 == 1

def readText (m : Mode) (t : Text) : Except Fault Text := do
  return Utf8.decode (← read m t)

def writeText (t : Text) : Text :=
  write (Utf8.encode t)

end FrameFilter.Hex
