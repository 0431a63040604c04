/-
Line ends of one kind.

A file may end its lines with a carriage return, a line feed, or both.  It is read with
every line end as one line feed, so that positions count each line end once.
-/
namespace ZonePlan.Text

/-- The text with every line end written as a line feed. -/
def unifyLineEnds : List Char → List Char
  | [] => []
  | '\r' :: '\n' :: rest => '\n' :: unifyLineEnds rest
  | '\r' :: rest => '\n' :: unifyLineEnds rest
  | c :: rest => c :: unifyLineEnds rest

end ZonePlan.Text
