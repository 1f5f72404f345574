import CallForm.Text.CodePoint

/-!
# Quoted texts of JSON

`Json.quote` puts a text between double quotes.  The quote, the backslash, the control
characters and surrogates are escaped; a `Repertoire` says whether other characters
beyond ASCII stand as they are or are escaped by their UTF-16 units.
-/

namespace CallForm.Json

/-- Which characters a quoted text may show as they are. -/
inductive Repertoire where
  /-- The printing characters of ASCII, from the space to the tilde. -/
  | ascii
  /-- Every character from the space on. -/
  | unicode

/-- Whether a character may stand as it is. -/
def Repertoire.shows : Repertoire → Char → Bool
  | ascii, c => ' ' ≤ c && c ≤ '~'
  | unicode, c => ' ' ≤ c

/-- The UTF-16 units of a character: one for the first plane, two for the others. -/
def units (c : Char) : List Nat :=
  if c.toNat < 0x10000 then [c.toNat]
  else [0xD800 + (c.toNat - 0x10000) / 0x400, 0xDC00 + (c.toNat - 0x10000) % 0x400]

/-- The escape of a UTF-16 unit, with four hexadecimal digits in lower case. -/
def escapeUnit (n : Nat) : List Char :=
  ['\\', 'u', (n / 0x1000 % 16).digitChar, (n / 0x100 % 16).digitChar,
    (n / 0x10 % 16).digitChar, (n % 16).digitChar]

/-- How a character is written between the quotes. -/
def escape (shown : Repertoire) (c : Char) : List Char :=
  match c with
  | '"' => ['\\', '"']
  | '\\' => ['\\', '\\']
  | '\n' => ['\\', 'n']
  | '\r' => ['\\', 'r']
  | '\t' => ['\\', 't']
  | '\x08' => ['\\', 'b']
  | '\x0c' => ['\\', 'f']
  | c => if shown.shows c then [c] else (units c).flatMap escapeUnit

/-- How a code point is written between the quotes. -/
def escapePoint (shown : Repertoire) : Text.CodePoint → List Char
  | .char c => escape shown c
  | p => escapeUnit p.toNat

/-- A text between double quotes. -/
def quote (shown : Repertoire) (text : List Text.CodePoint) : List Char :=
  '"' :: text.flatMap (escapePoint shown) ++ ['"']

end CallForm.Json
