/-!
# Line ends

Texts end their lines by a line feed, a carriage return, or both in that order.
-/

namespace CallForm.Text

/-- A text with each of its line ends written as a line feed. -/
def unifyLineEnds : List Char → List Char
  | [] => []
  | '\r' :: '\n' :: rest => '\n' :: unifyLineEnds rest
  | '\r' :: rest => '\n' :: unifyLineEnds rest
  | c :: rest => c :: unifyLineEnds rest

end CallForm.Text
