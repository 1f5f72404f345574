import CallForm.Json.Reader
import CallForm.Yaml.Cursor
import CallForm.Yaml.Flaw

/-!
# Texts in YAML

The text of a scalar can be written plain, between single or double quotes, or as a
block of lines.  Except in a literal block, a single line break within a text becomes
a space and each empty line a line feed.

Each function takes the cursor behind the characters that introduce the text, gives
the text and the cursor behind it, and bounds the number of its steps by `fuel`.
-/

namespace CallForm.Yaml

/-- The text of a line break and of the breaks of the empty lines after it. -/
def fold (first : Char) (others : List Char) : List Char :=
  if first ≠ '\n' then first :: others
  else if others.isEmpty then [' ']
  else others

/-! ### Plain texts -/

/-- The characters at the front that belong to a plain text: a blank or a line break ends
it, and a colon before one; within brackets, a colon before a bracket or a comma ends
it as well, and so does a bracket, a comma or a question mark. -/
def plainWord (inFlow : Bool) : List Char → List Char
  | [] => []
  | c :: rest =>
    if isBlank c ∨ isBreak c then []
    else if c = ':' ∧ (endsWord rest ∨ inFlow ∧ rest.head?.any (",[]\x7b\x7d".contains ·)) then []
    else if inFlow ∧ ",?[]\x7b\x7d".contains c then []
    else c :: plainWord inFlow rest

/-- The space between the words of a plain text: its text, empty where the text ends, the
cursor behind it, and whether it holds a line break. -/
structure Gap where
  text : List Char
  cursor : Cursor
  broken : Bool

/-- The breaks of empty lines, and the cursor behind them and the spaces after them;
nothing if a separator of documents comes up. -/
def emptyLines : Nat → Cursor → Option (List Char) × Cursor
  | 0, c => (none, c)
  | fuel + 1, c =>
    let c := c.skipWhile (· = ' ')
    match c.lineBreak? with
    | none => (some [], c)
    | some (b, c) =>
      if c.atSeparator then (none, c)
      else
        let (more, c) := emptyLines fuel c
        (more.map (b :: ·), c)

/-- The gap at the cursor. -/
def gap (c : Cursor) : Gap :=
  let (spaces, c) := c.takeWhile (· = ' ')
  match c.lineBreak? with
  | none => ⟨spaces, c, false⟩
  | some (b, c) =>
    if c.atSeparator then ⟨[], c, true⟩
    else
      match emptyLines (c.rest.length + 1) c with
      | (none, c) => ⟨[], c, true⟩
      | (some more, c) => ⟨fold b more, c, true⟩

/-- The rest of a plain text from the given gap on, and the gap behind it.  Outside
brackets a line of it begins in the column `least` or behind it. -/
def plainFrom (inFlow : Bool) (least : Int) : Nat → Gap → List Char × Gap
  | 0, g => ([], g)
  | fuel + 1, g =>
    let word := plainWord inFlow g.cursor.rest
    if word.isEmpty ∨ g.cursor.peek = some '#' then ([], g)
    else
      let next := gap (g.cursor.skip word.length)
      if next.text.isEmpty ∨ !inFlow ∧ next.cursor.column < least then (g.text ++ word, next)
      else
        let (more, last) := plainFrom inFlow least fuel next
        (g.text ++ word ++ more, last)

/-- The plain text at the cursor, and the gap behind it. -/
def plainText (inFlow : Bool) (least : Int) (c : Cursor) : List Char × Gap :=
  plainFrom inFlow least (c.rest.length + 1) ⟨[], c, false⟩

/-! ### Quoted texts -/

/-- What a backslash and `c` stand for between double quotes. -/
def meaning? (c : Char) : Option Char :=
  match c with
  | '0' => some '\x00'
  | 'a' => some '\x07'
  | 'b' => some '\x08'
  | 't' => some '\t'
  | '\t' => some '\t'
  | 'n' => some '\n'
  | 'v' => some '\x0b'
  | 'f' => some '\x0c'
  | 'r' => some '\r'
  | 'e' => some '\x1b'
  | ' ' => some ' '
  | '"' => some '"'
  | '\\' => some '\\'
  | '/' => some '/'
  | 'N' => some '\x85'
  | '_' => some '\xa0'
  | 'L' => some '\u2028'
  | 'P' => some '\u2029'
  | _ => none

/-- How many hexadecimal digits follow a backslash and `c`. -/
def codeWidth? (c : Char) : Option Nat :=
  match c with
  | 'x' => some 2
  | 'u' => some 4
  | 'U' => some 8
  | _ => none

/-- The code point whose code has the given hexadecimal digits. -/
def ofHex (ds : List Char) : Except Flaw Text.CodePoint := do
  let code ← present (ds.foldlM (fun n c => do return n * 16 + (← Json.hexDigit? c)) 0)
  match Text.CodePoint.ofNat? code with
  | some p => return p
  | none => throw (.scalar (if code < 0x80000000 then .noCodePoint else .noCode))

/-- The breaks of empty lines within quotes, and the cursor behind them and the blanks
after them; nothing if a separator of documents comes up. -/
def quotedEmptyLines? : Nat → Cursor → Option (List Char × Cursor)
  | 0, _ => none
  | fuel + 1, c =>
    if c.atSeparator then none
    else
      let c := c.skipWhile isBlank
      match c.lineBreak? with
      | none => some ([], c)
      | some (b, c) => do
        let (more, c) ← quotedEmptyLines? fuel c
        return (b :: more, c)

/-- The rest of a text between double or single quotes, up to its closing quote. -/
def quotedFrom (double : Bool) : Nat → Cursor → Except Flaw (List Text.CodePoint × Cursor)
  | 0, _ => .error .malformed
  | fuel + 1, c =>
    let go (text : List Text.CodePoint) (c : Cursor) :
        Except Flaw (List Text.CodePoint × Cursor) :=
      (quotedFrom double fuel c).map fun (more, c) => (text ++ more, c)
    match c.rest with
    | [] => .error .malformed
    | ch :: rest =>
      if isBlank ch ∨ isBreak ch then
        let (blanks, c) := c.takeWhile isBlank
        match c.lineBreak? with
        | none => go (blanks.map .char) c
        | some (b, c) => do
          let (more, c) ← present (quotedEmptyLines? fuel c)
          go ((fold b more).map .char) c
      else if double then
        if ch = '"' then .ok ([], c.next)
        else if ch = '\\' then
          match rest with
          | [] => .error .malformed
          | e :: code =>
            match meaning? e, codeWidth? e with
            | some meant, _ => go [.char meant] (c.skip 2)
            | none, some width => do
              require (width ≤ code.length)
              go [← ofHex (code.take width)] (c.skip (width + 2))
            | none, none => do
              let (_, c) ← present c.next.lineBreak?
              let (more, c) ← present (quotedEmptyLines? fuel c)
              go (more.map .char) c
        else go [.char ch] c.next
      else if ch = '\'' then
        if rest.head? = some '\'' then go [.char '\''] (c.skip 2) else .ok ([], c.next)
      else go [.char ch] c.next

/-- The text between quotes whose opening quote is behind the cursor. -/
def quotedText (double : Bool) (c : Cursor) : Except Flaw (List Text.CodePoint × Cursor) :=
  quotedFrom double (c.rest.length + 1) c

/-! ### Blocks of lines -/

/-- What becomes of the line breaks at the end of a block. -/
inductive Chomp where
  /-- The last line keeps its break, and empty lines after it are dropped. -/
  | clip
  /-- All breaks are dropped. -/
  | strip
  /-- All breaks are kept. -/
  | keep

/-- The indicator of how to chomp, if `c` is one. -/
def chomp? (c : Char) : Option Chomp :=
  if c = '+' then some .keep else if c = '-' then some .strip else none

/-- The explicit indent of a block, if `c` gives one. -/
def width? (c : Char) : Option Nat :=
  if '1' ≤ c ∧ c ≤ '9' then some (c.toNat - '0'.toNat) else none

/-- What the indicator at the cursor means, if one stands there, and the cursor behind it. -/
def indicator (meaning? : Char → Option α) (c : Cursor) : Option α × Cursor :=
  match c.peek.bind meaning? with
  | some meant => (some meant, c.next)
  | none => (none, c)

/-- The header of a block, its two indicators in either order, and the cursor behind
the line it stands on. -/
def blockHeader? (c : Cursor) : Option (Chomp × Option Nat × Cursor) := do
  let (first, c) := indicator chomp? c
  let (width, c) := indicator width? c
  let (chomp, c) := if first.isSome then (first, c) else indicator chomp? c
  guard (endsField c.rest)
  let c := (c.skipWhile (· = ' ')).skipComment
  guard (endsLine c.rest)
  return (chomp.getD .clip, width, ((c.lineBreak?.map (·.2)).getD c))

/-- The breaks of the empty lines at the front, the widest indent among them and the line
after them, and the cursor behind that indent. -/
def blockIndent : Nat → Nat → Cursor → List Char × Nat × Cursor
  | 0, widest, c => ([], widest, c)
  | fuel + 1, widest, c =>
    let c := c.skipWhile (· = ' ')
    let widest := max widest c.column
    match c.lineBreak? with
    | none => ([], widest, c)
    | some (b, c) =>
      let (more, widest, c) := blockIndent fuel widest c
      (b :: more, widest, c)

/-- The cursor behind the spaces at the front, but not behind the column `indent`. -/
def skipIndent (indent : Nat) (c : Cursor) : Cursor :=
  c.skip (min (c.rest.takeWhile (· = ' ')).length (indent - c.column))

/-- The breaks of the empty lines at the front, and the cursor behind the indent of the
line after them. -/
def blockEmptyLines (indent : Nat) : Nat → Cursor → List Char × Cursor
  | 0, c => ([], c)
  | fuel + 1, c =>
    let c := skipIndent indent c
    match c.lineBreak? with
    | none => ([], c)
    | some (b, c) =>
      let (more, c) := blockEmptyLines indent fuel c
      (b :: more, c)

/-- The lines of a block with the given indent, from the one at the cursor on, each
behind the breaks of the empty lines before it. -/
def blockLines (folded : Bool) (chomp : Chomp) (indent : Nat) :
    Nat → List Char → Cursor → List Char × Cursor
  | 0, _, c => ([], c)
  | fuel + 1, breaks, c =>
    let (line, after) := c.takeWhile (!isBreak ·)
    let (ending, after) := match after.lineBreak? with
      | some (b, after) => ([b], after)
      | none => ([], after)
    let (empty, after) := blockEmptyLines indent (after.rest.length + 1) after
    let text := breaks ++ line
    if after.column = indent ∧ !after.rest.isEmpty then
      let joined := if folded ∧ ending = ['\n'] ∧ !line.head?.any isBlank ∧
          !after.peek.any isBlank then
        if empty.isEmpty then [' '] else []
      else ending
      let (more, last) := blockLines folded chomp indent fuel empty after
      (text ++ joined ++ more, last)
    else
      (match chomp with
        | .clip => text ++ ending
        | .strip => text
        | .keep => text ++ ending ++ empty, after)

/-- The text of a block whose indicator is behind the cursor, inside a block with the
indent `outer`. -/
def blockText? (folded : Bool) (outer : Int) (c : Cursor) : Option (List Char × Cursor) := do
  let (chomp, width, c) ← blockHeader? c
  let least := (outer + 1).toNat.max 1
  let fuel := c.rest.length + 1
  let (empty, indent, c) := match width with
    | some width =>
      let indent := least + width - 1
      let (empty, c) := blockEmptyLines indent fuel c
      (empty, indent, c)
    | none =>
      let (empty, widest, c) := blockIndent fuel 0 c
      (empty, max least widest, c)
  if c.column = indent ∧ !c.rest.isEmpty then
    return blockLines folded chomp indent fuel empty c
  else
    return (match chomp with
      | .keep => empty
      | _ => [], c)

end CallForm.Yaml
