import FrameFilter.Hex.Digit

namespace FrameFilter.Hex

-- What may stand before a lenient number: the Unicode spaces and line ends without U+0085, and the
-- byte order mark. These are not the blanks that part tokens.
def paddings : List CharRange := [
    ⟨0x9, 0xd⟩, ⟨0x20, 0x20⟩, ⟨0xa0, 0xa0⟩, ⟨0x1680, 0x1680⟩, ⟨0x2000, 0x200a⟩, ⟨0x2028, 0x2029⟩,
    ⟨0x202f, 0x202f⟩, ⟨0x205f, 0x205f⟩, ⟨0x3000, 0x3000⟩, ⟨0xfeff, 0xfeff⟩]

def isPadding (c : Char) : Bool :=
  CharRange.anyContains paddings c

def takeSign : Text → Bool × Text
  | '-' :: t => (true, t)
  | '+' :: t => (false, t)
  | t        => (false, t)

def dropRadixMark : Text → Text
  | '0' :: 'x' :: t => t
  | '0' :: 'X' :: t => t
  | t               => t

-- Whatever stands for a pair of digits has a value: after the padding, a sign and a radix mark the
-- longest run of digits counts, and the rest does not. No digits are worth nothing, and negative
-- values wrap.
def pairValue (t : Text) : UInt8 :=
  let (isNegative, t) := takeSign (t.dropWhile isPadding)
  let n := UInt8.ofNat (value (((dropRadixMark t).takeWhile isDigit).filterMap digit?))
  if isNegative then -n else n

end FrameFilter.Hex
