import FrameFilter.Text.Basic

namespace FrameFilter

abbrev Octets := List UInt8

namespace Utf8

-- A closed range of octets.
structure Band where
  first : UInt8
  last  : UInt8
  deriving DecidableEq

def Band.contains (r : Band) (b : UInt8) : Bool :=
  r.first ≤ b && b ≤ r.last

-- The octets that continue a character.
def Band.tail : Band :=
  ⟨0x80, 0xbf⟩

-- The octets that have to follow a first octet, one band for each. The second octet is bounded more
-- tightly than the others where that excludes overlong forms, surrogates and values above 10FFFF.
-- No character starts with an octet for which this is `none`.
def followers (b : UInt8) : Option (List Band) :=
  if b < 0x80 then some []
  else if b < 0xc2 then none
  else if b < 0xe0 then some [.tail]
  else if b = 0xe0 then some [⟨0xa0, 0xbf⟩, .tail]
  else if b = 0xed then some [⟨0x80, 0x9f⟩, .tail]
  else if b < 0xf0 then some [.tail, .tail]
  else if b = 0xf0 then some [⟨0x90, 0xbf⟩, .tail, .tail]
  else if b < 0xf4 then some [.tail, .tail, .tail]
  else if b = 0xf4 then some [⟨0x80, 0x8f⟩, .tail, .tail]
  else none

-- The bits of a first octet that belong to the character.
def leadBits (b : UInt8) : Nat :=
  if b < 0x80 then b.toNat
  else if b < 0xe0 then b.toNat % 0x20
  else if b < 0xf0 then b.toNat % 0x10
  else b.toNat % 0x08

-- The character that a first octet and all its followers encode.
def charOf (b : UInt8) (followers : Octets) : Char :=
  Char.ofNat (followers.foldl (fun n f => 0x40 * n + f.toNat % 0x40) (leadBits b))

-- Stands for what is not the encoding of a character.
def replacement : Char :=
  '\uFFFD'

def encode (t : Text) : Octets :=
  t.flatMap String.utf8EncodeChar

theorem encode_nil : encode [] = [] :=
  rfl

theorem encode_append : encode (s ++ t) = encode s ++ encode t :=
  List.flatMap_append

theorem followers_of_lt (h : b < 0x80) : followers b = some [] := by
  simp [followers, h]

end Utf8
end FrameFilter
