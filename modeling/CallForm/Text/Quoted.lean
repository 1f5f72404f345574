import CallForm.Text.CodePoint
import CallForm.Text.Printable

/-!
# Texts between quotes

`quoted` shows a text so that every character of it can be told: between single
quotes, or between double quotes if it holds a single quote and no double one, with
the quote, the backslash and all that cannot be printed escaped.
-/

namespace CallForm.Text

/-- The quote around a text. -/
def quoteFor (text : List CodePoint) : Char :=
  if text.contains (.char '\'') && !text.contains (.char '"') then '"' else '\''

/-- The last `width` hexadecimal digits of a number, in lower case. -/
def hexDigits : Nat → Nat → List Char
  | 0, _ => []
  | width + 1, n => hexDigits width (n / 16) ++ [(n % 16).digitChar]

/-- The escape of a code point by its number, in the shortest of three widths. -/
def codeEscape (n : Nat) : List Char :=
  if n < 0x100 then '\\' :: 'x' :: hexDigits 2 n
  else if n < 0x10000 then '\\' :: 'u' :: hexDigits 4 n
  else '\\' :: 'U' :: hexDigits 8 n

/-- How a character is shown between the given quotes. -/
def escaped (quote c : Char) : List Char :=
  if c = quote ∨ c = '\\' then ['\\', c]
  else if c = '\n' then ['\\', 'n']
  else if c = '\r' then ['\\', 'r']
  else if c = '\t' then ['\\', 't']
  else if isPrintable c then [c]
  else codeEscape c.toNat

/-- How a code point is shown between the given quotes. -/
def escapedPoint (quote : Char) : CodePoint → List Char
  | .char c => escaped quote c
  | p => codeEscape p.toNat

/-- A text between quotes, as characters. -/
def quotedChars (text : List CodePoint) : List Char :=
  let quote := quoteFor text
  quote :: text.flatMap (escapedPoint quote) ++ [quote]

/-- A text between quotes. -/
def quoted (text : List CodePoint) : String :=
  String.ofList (quotedChars text)

end CallForm.Text
