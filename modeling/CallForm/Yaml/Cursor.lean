/-!
# Places in a YAML text

A cursor is what is left of a text together with the place where that begins: its
line, its column, and the number of characters before it.  Columns decide the
structure of a block, so moving a cursor keeps count of them.
-/

namespace CallForm.Yaml

/-- Whether a character ends a line. -/
def isBreak (c : Char) : Bool :=
  c = '\n' || c = '\r' || c = '\x85' || c = '\u2028' || c = '\u2029'

/-- Whether a character separates words on a line. -/
def isBlank (c : Char) : Bool :=
  c = ' ' || c = '\t'

/-- Whether a text ends, or its line does. -/
def endsLine : List Char → Bool
  | [] => true
  | c :: _ => isBreak c

/-- Whether a text ends, or its line or word does. -/
def endsWord : List Char → Bool
  | [] => true
  | c :: _ => isBreak c || isBlank c

/-- Whether a text ends, or its line does, or a space follows; a tabulator is neither. -/
def endsField : List Char → Bool
  | [] => true
  | c :: _ => isBreak c || c = ' '

/-- What is left of a text, and where it begins. -/
structure Cursor where
  rest : List Char
  index : Nat
  line : Nat
  column : Nat

namespace Cursor

/-- The cursor at the beginning of a text. -/
def ofText (text : List Char) : Cursor :=
  ⟨text, 0, 0, 0⟩

/-- The cursor behind the next character.  A line ends once for a carriage return and
the line feed after it, and a byte order mark takes no column. -/
def next (c : Cursor) : Cursor :=
  match c.rest with
  | [] => c
  | '\r' :: '\n' :: rest => ⟨'\n' :: rest, c.index + 1, c.line, c.column + 1⟩
  | ch :: rest =>
    if isBreak ch then ⟨rest, c.index + 1, c.line + 1, 0⟩
    else ⟨rest, c.index + 1, c.line, if ch = '\ufeff' then c.column else c.column + 1⟩

/-- The cursor behind the next `n` characters. -/
def skip (c : Cursor) : Nat → Cursor
  | 0 => c
  | n + 1 => c.next.skip n

/-- The characters at the front that satisfy `p`, and the cursor behind them. -/
def takeWhile (p : Char → Bool) (c : Cursor) : List Char × Cursor :=
  let taken := c.rest.takeWhile p
  (taken, c.skip taken.length)

/-- The cursor behind the characters at the front that satisfy `p`. -/
def skipWhile (p : Char → Bool) (c : Cursor) : Cursor :=
  (c.takeWhile p).2

/-- The next character. -/
def peek (c : Cursor) : Option Char :=
  c.rest.head?

/-- The line break at the cursor as one character, and the cursor behind it.  The breaks
of a line and of a paragraph are kept, and all others are line feeds. -/
def lineBreak? (c : Cursor) : Option (Char × Cursor) :=
  match c.rest with
  | '\r' :: '\n' :: _ => some ('\n', c.skip 2)
  | ch :: _ =>
    if ch = '\u2028' ∨ ch = '\u2029' then some (ch, c.next)
    else if isBreak ch then some ('\n', c.next)
    else none
  | [] => none

/-- Whether a separator of documents stands at the cursor. -/
def atSeparator (c : Cursor) : Bool :=
  match c.rest with
  | '-' :: '-' :: '-' :: rest => endsWord rest
  | '.' :: '.' :: '.' :: rest => endsWord rest
  | _ => false

/-- The cursor behind a comment, if one begins here. -/
def skipComment (c : Cursor) : Cursor :=
  if c.peek = some '#' then c.skipWhile (!isBreak ·) else c

end Cursor

end CallForm.Yaml
