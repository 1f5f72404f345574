import CallForm.Text.Utf8
import CallForm.Yaml.Text

/-!
# Tokens of YAML

`cut` cuts a text into tokens.  Beside the marks and scalars that stand in the text
there are tokens for the beginnings and ends of blocks, which follow from columns, and
for keys: a token or a bracketed collection is a key if a colon follows it on the same
line, and then the token for the key, and for the block of the mapping it may begin,
goes in front of it.

Cutting may end at a flaw.  The tokens before it remain, but for those that a token for a
key could still have gone in front of.
-/

namespace CallForm.Yaml

/-- A token of a YAML text. -/
inductive Token where
  /-- The version of a document, by its first number. -/
  | version (major : Nat)
  /-- What a handle in the tags of a document stands for. -/
  | tagHandle (handle uri : String)
  /-- Any other instruction for the processor. -/
  | directive
  | documentStart
  | documentEnd
  | blockSequenceStart
  | blockMappingStart
  | blockEnd
  | flowSequenceStart
  | flowSequenceEnd
  | flowMappingStart
  | flowMappingEnd
  | blockEntry
  | flowEntry
  | key
  | value
  | alias (name : String)
  | anchor (name : String)
  /-- A tag by its handle, if it has one, and the rest. -/
  | tag (handle : Option String) (suffix : String)
  | scalar (text : List Text.CodePoint) (plain : Bool)
  deriving DecidableEq

/-! ### Names and tags -/

/-- Whether a character may stand in the name of an anchor. -/
def isWordChar (c : Char) : Bool :=
  c.isAlphanum || c = '-' || c = '_'

/-- Whether a character may stand in a tag. -/
def isUriChar (c : Char) : Bool :=
  c.isAlphanum || "-;/?:@&=+$,_.!~*'()[]%".contains c

/-- The name of an anchor behind its indicator. -/
def name? (c : Cursor) : Option (String × Cursor) := do
  let (name, c) := c.takeWhile isWordChar
  guard (!name.isEmpty)
  guard (endsWord c.rest || c.rest.head?.any ("?:,]\x7d%@\x60".contains ·))
  return (String.ofList name, c)

/-- The bytes of the escapes at the front, each a percent sign and two hexadecimal digits,
and the text behind them. -/
def escapedBytes? : List Char → Option (List UInt8 × List Char)
  | '%' :: a :: b :: rest => do
    let byte := (← Json.hexDigit? a) * 16 + (← Json.hexDigit? b)
    let (more, rest) ← escapedBytes? rest
    return (byte.toUInt8 :: more, rest)
  | '%' :: _ => none
  | rest => some ([], rest)

/-- The characters of a tag at the front, with escaped ones as what they mean, and the text
behind them; `fuel` bounds the number of steps. -/
def uriText? : Nat → List Char → Option (List Char × List Char)
  | 0, _ => none
  | _ + 1, [] => some ([], [])
  | fuel + 1, c :: rest =>
    if c = '%' then do
      let (bytes, rest) ← escapedBytes? (c :: rest)
      let text ← (Text.decodeUtf8 bytes).toOption
      let (more, rest) ← uriText? fuel rest
      return (text ++ more, rest)
    else if isUriChar c then do
      let (more, rest) ← uriText? fuel rest
      return (c :: more, rest)
    else some ([], c :: rest)

/-- The text of a tag, at least one character of it. -/
def uri? (c : Cursor) : Option (String × Cursor) := do
  let (uri, rest) ← uriText? (c.rest.length + 1) c.rest
  guard (!uri.isEmpty)
  return (String.ofList uri, c.skip (c.rest.length - rest.length))

/-- The handle of a tag: word characters between exclamation marks, or one mark. -/
def handle? (c : Cursor) : Option (String × Cursor) := do
  guard (c.peek = some '!')
  let (word, after) := c.next.takeWhile isWordChar
  if after.peek = some '!' then
    return (String.ofList ('!' :: word ++ ['!']), after.next)
  else
    guard (word.isEmpty && after.peek = some ' ')
    return ("!", after)

/-- The tag whose exclamation mark is at the cursor. -/
def tag? (c : Cursor) : Option (Token × Cursor) := do
  let (tag, c) ← match c.next.rest with
    | '<' :: _ => do
      let (uri, c) ← uri? (c.skip 2)
      guard (c.peek = some '>')
      some (Token.tag none uri, c.next)
    | rest =>
      if endsWord rest then some (Token.tag none "!", c.next)
      else do
        let word := rest.takeWhile fun ch => !isBreak ch && ch ≠ ' ' && ch ≠ '!'
        let (handle, c) ← match rest.drop word.length with
          | '!' :: _ => handle? c
          | _ => some ("!", c.next)
        let (suffix, c) ← uri? c
        some (Token.tag (some handle) suffix, c)
  guard (endsField c.rest)
  return (tag, c)

/-- The number of a version, and the cursor behind it. -/
def versionNumber (c : Cursor) : Except Flaw (Nat × Cursor) := do
  let (ds, c) := c.takeWhile Char.isDigit
  require (!ds.isEmpty)
  return (← (readDigits ds).mapError (.scalar ∘ .digits), c)

/-- The directive with the given name, whose values are at the cursor. -/
def directiveOf (name : List Char) (c : Cursor) : Except Flaw (Token × Cursor) :=
  if name = "YAML".toList then do
    let (major, c) ← versionNumber (c.skipWhile (· = ' '))
    require (c.peek = some '.')
    let (_, c) ← versionNumber c.next
    require (endsField c.rest)
    return (.version major, c)
  else if name = "TAG".toList then do
    let (handle, c) ← present (handle? (c.skipWhile (· = ' ')))
    require (c.peek = some ' ')
    let (uri, c) ← present (uri? (c.skipWhile (· = ' ')))
    require (endsField c.rest)
    return (.tagHandle handle uri, c)
  else return (.directive, c.skipWhile (!isBreak ·))

/-- The directive behind its percent sign, and the cursor behind its line. -/
def directive (c : Cursor) : Except Flaw (Token × Cursor) := do
  let (name, c) := c.takeWhile isWordChar
  require (!name.isEmpty && endsField c.rest)
  let (instruction, c) ← directiveOf name c
  let c := (c.skipWhile (· = ' ')).skipComment
  require (endsLine c.rest)
  return (instruction, (c.lineBreak?.map (·.2)).getD c)

/-! ### The state of cutting -/

/-- A token that is a key if a colon follows: how many tokens stand before it, and where
it begins.  If it is required to be one, its place admits nothing else. -/
structure Candidate where
  number : Nat
  required : Bool
  index : Nat
  line : Nat
  column : Nat

/-- Whether a candidate may still be a key where the cursor is. -/
def Candidate.isLive (k : Candidate) (c : Cursor) : Bool :=
  k.line = c.line && c.index ≤ k.index + 1024

/-- How far a text is cut into tokens. -/
structure Cutter where
  cursor : Cursor
  tokens : Array Token
  /-- The column of the innermost block; `-1` outside all blocks. -/
  indent : Int
  /-- The columns of the blocks around it, from the inside. -/
  outer : List Int
  /-- The candidate outside all brackets. -/
  candidate : Option Candidate
  /-- The candidates that wait outside each pair of brackets, from the inside, while
  `candidate` is the one inside them all. -/
  waiting : List (Option Candidate)
  /-- Whether a key may begin at the cursor. -/
  keyAllowed : Bool

namespace Cutter

/-- The state at the beginning of a text. -/
def start (text : List Char) : Cutter :=
  ⟨.ofText text, #[], -1, [], none, [], true⟩

/-- Whether the cursor is inside brackets. -/
def inFlow (s : Cutter) : Bool :=
  !s.waiting.isEmpty

/-- The state with a token added and the cursor moved. -/
def add (s : Cutter) (t : Token) (c : Cursor) : Cutter :=
  { s with tokens := s.tokens.push t, cursor := c }

/-- The state with blanks and comments skipped.  Outside brackets a key may begin on a
new line. -/
def skipSpace : Nat → Cutter → Cutter
  | 0, s => s
  | fuel + 1, s =>
    let c := (s.cursor.skipWhile (· = ' ')).skipComment
    match c.lineBreak? with
    | none => { s with cursor := c }
    | some (_, c) =>
      skipSpace fuel { s with cursor := c, keyAllowed := s.keyAllowed || !s.inFlow }

/-- A candidate if it may still be a key.  One that is required must be. -/
def refresh (c : Cursor) : Option Candidate → Except Flaw (Option Candidate)
  | none => .ok none
  | some k =>
    if k.isLive c then .ok (some k)
    else if k.required then .error .malformed
    else .ok none

/-- The state without the candidates that are gone. -/
def refreshAll (s : Cutter) : Except Flaw Cutter := do
  let candidate ← refresh s.cursor s.candidate
  let waiting ← s.waiting.mapM (refresh s.cursor)
  return { s with candidate, waiting }

/-- The tokens that no token for a key can go in front of any more. -/
def settled (s : Cutter) : List Token :=
  let live := (s.candidate :: s.waiting).filterMap (·.filter (·.isLive s.cursor))
  s.tokens.toList.take ((live.map (·.number)).foldl min s.tokens.size)

/-- The state without the innermost candidate, which must not be required. -/
def drop (s : Cutter) : Except Flaw Cutter := do
  require !s.candidate.any (·.required)
  return { s with candidate := none }

/-- The state with the next token as a candidate, if a key may begin here. -/
def offer (s : Cutter) : Except Flaw Cutter :=
  if s.keyAllowed then do
    let c := s.cursor
    let required := !s.inFlow && s.indent = c.column
    return { ← s.drop with
      candidate := some ⟨s.tokens.size, required, c.index, c.line, c.column⟩ }
  else .ok s

/-- The state with the blocks ended that lie to the right of a column. -/
def unwind (column : Int) : List Int → Cutter → Cutter
  | [], s => s
  | indent :: outer, s =>
    if column < s.indent then
      unwind column outer { s with tokens := s.tokens.push .blockEnd, indent, outer }
    else s

/-- The state with all blocks ended that lie to the right of a column, which only counts
outside brackets. -/
def unwindTo (column : Int) (s : Cutter) : Cutter :=
  if s.inFlow then s else unwind column s.outer s

/-- The state with a block begun at a column, unless the innermost block begins there or
to the right of it; the token for it becomes the one with the given number. -/
def beginBlock (t : Token) (column : Nat) (number : Nat) (s : Cutter) : Cutter :=
  if s.indent < column then
    { s with
      tokens := s.tokens.insertIdxIfInBounds number t
      indent := column
      outer := s.indent :: s.outer }
  else s

/-! ### The kinds of tokens -/

/-- A token of `size` characters that ends all blocks. -/
def documentMark (t : Token) (size : Nat) (s : Cutter) : Except Flaw Cutter := do
  let s ← (s.unwindTo (-1)).drop
  return { s with keyAllowed := false }.add t (s.cursor.skip size)

/-- An opening bracket. -/
def openFlow (t : Token) (s : Cutter) : Except Flaw Cutter := do
  let s ← s.offer
  return { s with candidate := none, waiting := s.candidate :: s.waiting, keyAllowed := true }.add
    t s.cursor.next

/-- A closing bracket, of which there are no more than opening ones. -/
def closeFlow (t : Token) (s : Cutter) : Except Flaw Cutter := do
  let s ← s.drop
  match s.waiting with
  | [] => throw .malformed
  | candidate :: waiting =>
    return { s with candidate, waiting, keyAllowed := false }.add t s.cursor.next

/-- A comma inside brackets. -/
def flowEntry (s : Cutter) : Except Flaw Cutter := do
  let s ← s.drop
  return { s with keyAllowed := true }.add .flowEntry s.cursor.next

/-- A dash before an entry of a sequence. -/
def blockEntry (s : Cutter) : Except Flaw Cutter := do
  require (s.inFlow || s.keyAllowed)
  let s := if s.inFlow then s
    else s.beginBlock .blockSequenceStart s.cursor.column s.tokens.size
  let s ← s.drop
  return { s with keyAllowed := true }.add .blockEntry s.cursor.next

/-- A question mark before a key. -/
def key (s : Cutter) : Except Flaw Cutter := do
  require (s.inFlow || s.keyAllowed)
  let s := if s.inFlow then s
    else s.beginBlock .blockMappingStart s.cursor.column s.tokens.size
  let s ← s.drop
  return { s with keyAllowed := !s.inFlow }.add .key s.cursor.next

/-- A colon before a value: the candidate becomes a key, or else the key stands after a
question mark. -/
def value (s : Cutter) : Except Flaw Cutter :=
  match s.candidate with
  | some k =>
    let s := { s with
      candidate := none, keyAllowed := false, tokens := s.tokens.insertIdxIfInBounds k.number .key }
    let s := if s.inFlow then s else s.beginBlock .blockMappingStart k.column k.number
    .ok (s.add .value s.cursor.next)
  | none => do
    require (s.inFlow || s.keyAllowed)
    let s := if s.inFlow then s
      else s.beginBlock .blockMappingStart s.cursor.column s.tokens.size
    return { s with keyAllowed := !s.inFlow }.add .value s.cursor.next

/-- A token that may be a key. -/
def simple (read : Cursor → Except Flaw (Token × Cursor)) (s : Cutter) :
    Except Flaw Cutter := do
  let s ← s.offer
  let (t, c) ← read s.cursor
  return { s with keyAllowed := false }.add t c

/-- A name behind its indicator. -/
def named (make : String → Token) : Cutter → Except Flaw Cutter :=
  simple fun c => (present (name? c.next)).map fun (name, c) => (make name, c)

/-- A scalar between quotes. -/
def quoted (double : Bool) : Cutter → Except Flaw Cutter :=
  simple fun c => (quotedText double c.next).map fun (text, c) => (.scalar text false, c)

/-- A scalar as a block of lines. -/
def block (folded : Bool) (s : Cutter) : Except Flaw Cutter := do
  let s ← s.drop
  let (text, c) ← present (blockText? folded s.indent s.cursor.next)
  return { s with keyAllowed := true }.add (.scalar (text.map .char) false) c

/-- A plain scalar; a key may begin behind it if a line break ends it. -/
def plain (s : Cutter) : Except Flaw Cutter := do
  let s ← s.offer
  let (text, gap) := plainText s.inFlow (s.indent + 1) s.cursor
  return { s with keyAllowed := gap.broken }.add (.scalar (text.map .char) true) gap.cursor

/-- Whether a plain scalar may begin with `c` before `rest`. -/
def startsPlain (s : Cutter) (c : Char) (rest : List Char) : Bool :=
  !(isBlank c || isBreak c || "-?:,[]\x7b\x7d#&*!|>'\"%@\x60".contains c) ||
    (!endsWord rest && (c = '-' || !s.inFlow && (c = '?' || c = ':')))

/-- The next token, which begins with `c` before `rest`. -/
def token (s : Cutter) (c : Char) (rest : List Char) : Except Flaw Cutter :=
  let atColumnZero := s.cursor.column = 0
  if c = '%' ∧ atColumnZero then do
    let s ← (s.unwindTo (-1)).drop
    let (t, after) ← directive s.cursor.next
    return { s with keyAllowed := false }.add t after
  else if c = '-' ∧ atColumnZero ∧ s.cursor.atSeparator then s.documentMark .documentStart 3
  else if c = '.' ∧ atColumnZero ∧ s.cursor.atSeparator then s.documentMark .documentEnd 3
  else if c = '[' then s.openFlow .flowSequenceStart
  else if c = '\x7b' then s.openFlow .flowMappingStart
  else if c = ']' then s.closeFlow .flowSequenceEnd
  else if c = '\x7d' then s.closeFlow .flowMappingEnd
  else if c = ',' then s.flowEntry
  else if c = '-' ∧ endsWord rest then s.blockEntry
  else if c = '?' ∧ (s.inFlow ∨ endsWord rest) then s.key
  else if c = ':' ∧ (s.inFlow ∨ endsWord rest) then s.value
  else if c = '*' then s.named .alias
  else if c = '&' then s.named .anchor
  else if c = '!' then s.simple (present ∘ tag?)
  else if c = '|' ∧ !s.inFlow then s.block false
  else if c = '>' ∧ !s.inFlow then s.block true
  else if c = '\'' then s.quoted false
  else if c = '"' then s.quoted true
  else if s.startsPlain c rest then s.plain
  else .error .malformed

/-- The state at the next token, behind the ends of the blocks before it. -/
def approach (s : Cutter) : Except Flaw Cutter := do
  let s ← (s.skipSpace (s.cursor.rest.length + 1)).refreshAll
  return s.unwindTo s.cursor.column

/-- The state behind the next token; at the end of the text, the state with all blocks
ended, and the word that it is the last. -/
def step (s : Cutter) : Except Flaw (Cutter × Bool) := do
  let s ← s.approach
  match s.cursor.rest with
  | [] => return (← (s.unwindTo (-1)).drop, true)
  | c :: rest => return (← s.token c rest, false)

end Cutter

/-- The tokens of a text, and the flaw that ends them before the text is over. -/
structure Cut where
  tokens : List Token
  flaw : Option Flaw

/-- The tokens from the state on; each step takes at least one character. -/
def Cutter.cut : Nat → Cutter → Cut
  | 0, s => ⟨s.settled, some .malformed⟩
  | fuel + 1, s =>
    match s.step with
    | .error flaw => ⟨s.settled, some flaw⟩
    | .ok (s, true) => ⟨s.tokens.toList, none⟩
    | .ok (s, false) => cut fuel s

/-- Whether a character may stand in a YAML text. -/
def isAdmitted (c : Char) : Bool :=
  c = '\t' || c = '\n' || c = '\r' || ' ' ≤ c && c ≤ '~' || c = '\x85' ||
    '\xa0' ≤ c && c ≤ '\ufffd' || 0x10000 ≤ c.toNat

/-- The tokens of a text; a byte order mark at its beginning does not count. -/
def cut (text : String) : Cut :=
  let text := text.toList
  if text.all isAdmitted then
    let text := if text.head? = some '\ufeff' then text.drop 1 else text
    Cutter.cut (text.length + 1) (.start text)
  else ⟨[], some .malformed⟩

end CallForm.Yaml
