import CallForm.Json

/-!
# Values given to options

An option of the command line is given a text, or it is left without one although its
place is taken.  The latter happens where its value is written as two dashes, in the releases
whose rules `CommandLine.Event` follows.  A place without a text counts as the empty text where
it is read, and is shown as what it is.

A text is a sequence of characters, so a lone surrogate cannot stand in it.  Sources that hold
one, which only an argument of the command line can give, are outside of this library.
-/

namespace CallForm

/-- What an option is given: a text, or a place without one. -/
inductive Given where
  | text (s : String)
  | nothing
  deriving DecidableEq

namespace Given

/-- The text that is read. -/
def toText : Given → String
  | text s => s
  | nothing => ""

/-- How what is given is shown. -/
def shown : Given → String
  | text s => s
  | nothing => "[]"

/-- The record of what is given. -/
def toJson : Given → Json
  | text s => .string s
  | nothing => .array []

end Given

end CallForm
