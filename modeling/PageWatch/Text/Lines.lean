/-!
# Lines of a text

A line ends at a line feed; a carriage return right before that line feed is part
of the line's end. What follows the last line feed is a line only if it is not
empty, and there a carriage return is an ordinary character.
-/

namespace PageWatch.Text

def lines : List Char → List (List Char)
  | [] => []
  | '\n' :: rest => [] :: lines rest
  | '\r' :: '\n' :: rest => [] :: lines rest
  | c :: rest =>
    match lines rest with
    | [] => [[c]]
    | first :: more => (c :: first) :: more

/-- Only the empty text has no line. -/
theorem lines_eq_nil_iff {text : List Char} : lines text = [] ↔ text = [] := by
  fun_cases lines text <;> simp

end PageWatch.Text
