import CallForm.Json
import CallForm.Text.Quoted

/-!
# Tokens

A token has a kind and a text.  The text of a parenthesis, a name or a number is what
stands in the source; the text of a string is what its quoted form denotes.  Tokens
may also be made by hand, so a text is not bound to its kind.
-/

namespace CallForm

/-- The four kinds of token. -/
inductive TokenKind where
  | paren
  | name
  | number
  | string
  deriving DecidableEq

/-- The word for a kind. -/
def TokenKind.word : TokenKind → String
  | .paren => "paren"
  | .name => "name"
  | .number => "number"
  | .string => "string"

/-- The word for a kind, in capitals. -/
def TokenKind.capitals : TokenKind → String
  | .paren => "PAREN"
  | .name => "NAME"
  | .number => "NUMBER"
  | .string => "STRING"

/-- A token: its kind and its text. -/
structure Token where
  kind : TokenKind
  text : String
  deriving DecidableEq

/-- Whether a token is the parenthesis with the given text. -/
def Token.isParen (t : Token) (text : String) : Bool :=
  t.kind = .paren && t.text = text

/-- The line that lists a token: its kind in capitals, a space and its text. -/
def Token.line (t : Token) : String :=
  t.kind.capitals ++ " " ++ t.text

/-- The record of a token. -/
def Token.toJson (t : Token) : Json :=
  .object [("type", .string t.kind.word), ("value", .string t.text)]

/-- A token shown with its text between quotes. -/
def Token.shown (t : Token) : String :=
  "Token(" ++ t.kind.capitals ++ ", " ++ Text.quoted t.text ++ ")"

end CallForm
