import FrameFilter.Utf8.Basic

namespace FrameFilter.Hex

-- The value of an ASCII hex digit in either case.
def digit? (c : Char) : Option Nat :=
  if '0' ≤ c ∧ c ≤ '9' then some (c.toNat - '0'.toNat)
  else if 'a' ≤ c ∧ c ≤ 'f' then some (c.toNat - 'a'.toNat + 10)
  else if 'A' ≤ c ∧ c ≤ 'F' then some (c.toNat - 'A'.toNat + 10)
  else none

def isDigit (c : Char) : Bool :=
  (digit? c).isSome

def value (ds : List Nat) : Nat :=
  ds.foldl (16 * · + ·) 0

-- Two lower-case digits for each octet.
def write (bs : Octets) : Text :=
  bs.flatMap fun b => [Nat.digitChar (b.toNat / 16), Nat.digitChar (b.toNat % 16)]

theorem write_nil : write [] = [] :=
  rfl

theorem write_append : write (as ++ bs) = write as ++ write bs :=
  List.flatMap_append

theorem length_write : (write bs).length = 2 * bs.length := by
  induction bs
  case nil => rfl
  case cons => simp_all [write]; omega

end FrameFilter.Hex
