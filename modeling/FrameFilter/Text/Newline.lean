import FrameFilter.Text.Basic

namespace FrameFilter.Text

-- A line may end in a line feed, a carriage return, or a carriage return and a line feed. All three
-- become a line feed.
def normalizeNewlines : Text → Text
  | '\r' :: '\n' :: t => '\n' :: normalizeNewlines t
  | '\r' :: t         => '\n' :: normalizeNewlines t
  | c :: t            => c :: normalizeNewlines t
  | []                => []

-- The lines of a text, each with the line feed that ends it. The last one may have none.
def lines : Text → List Text
  | [] => []
  | c :: t =>
    if c = '\n' then ['\n'] :: lines t
    else
      match lines t with
      | []      => [[c]]
      | l :: ls => (c :: l) :: ls

def dropFinal (c : Char) (t : Text) : Text :=
  if t.getLast? = some c then t.dropLast else t

-- A line without its terminator, which is a line feed, a carriage return, or the pair of them.
def chomp (t : Text) : Text :=
  dropFinal '\r' (dropFinal '\n' t)

theorem flatten_lines (t : Text) : (lines t).flatten = t := by
  fun_induction lines t <;> simp_all

theorem dropFinal_append (c : Char) (t : Text) : dropFinal c (t ++ [c]) = t := by
  simp [dropFinal]

theorem dropFinal_of_ne {t : Text} (h : t.getLast? ≠ some c) : dropFinal c t = t := by
  simp [dropFinal, h]

end FrameFilter.Text
