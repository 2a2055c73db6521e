import FrameFilter.Utf8.Basic

namespace FrameFilter.Utf8

-- How many of the octets fall into the bands, one after the other from the first.
def reach : List Band → Octets → Nat
  | r :: rs, b :: bs => if r.contains b then reach rs bs + 1 else 0
  | _, _             => 0

theorem reach_le_length : reach rs bs ≤ rs.length := by
  fun_induction reach rs bs
  case case1 hi => exact Nat.succ_le_succ hi
  all_goals exact Nat.zero_le _

-- The text of octets that are all there. A first octet is replaced together with the followers that
-- it has, up to the first octet that cannot follow: one replacement for each longest start of a
-- character that is not completed, and one for each octet that starts no character.
def decode : Octets → Text
  | [] => []
  | b :: bs =>
    match followers b with
    | none => replacement :: decode bs
    | some rs =>
      let n := reach rs bs
      (if n = rs.length then charOf b (bs.take n) else replacement) :: decode (bs.drop n)
termination_by bs => bs.length
decreasing_by
  all_goals
    simp only [List.length_cons, List.length_drop]
    omega

theorem decode_nil : decode [] = [] := by
  simp [decode]

theorem decode_cons_of_lt (h : b < 0x80) : decode (b :: bs) = Char.ofNat b.toNat :: decode bs := by
  simp [decode, followers_of_lt h, reach, charOf, leadBits, h]

end FrameFilter.Utf8
