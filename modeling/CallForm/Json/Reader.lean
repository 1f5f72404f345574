import CallForm.Decimal.Limit
import CallForm.Depth
import CallForm.Json

/-!
# Reading JSON

`Json.read` reads a text as one JSON value.  The text is first cut into lexemes,
which drops the blanks between them, and the lexemes are then read with a stack of
the arrays and objects that are open.

Beside the numbers of the standard the words `NaN`, `Infinity` and `-Infinity` are
values.  A control character inside a quoted text is refused, and so is a byte order
mark.  Two surrogates that make a pair are one character, also where each is escaped on
its own.  Fields of one name are all kept, in order.

An integer may have more digits than can be read, and an array or an object may begin
deeper inside others than can be read.  Of such a `Flaw` and of the text being malformed, the
one that comes first in the text counts.  `Json.readBy` leaves it open which digits can be read
and whether there is a bound on the depth, and `Json.read` draws both limits.
-/

namespace CallForm.Json

/-! ### Quoted texts -/

/-- The value of a hexadecimal digit. -/
def hexDigit? (c : Char) : Option Nat :=
  if '0' ≤ c ∧ c ≤ '9' then some (c.toNat - '0'.toNat)
  else if 'a' ≤ c ∧ c ≤ 'f' then some (c.toNat - 'a'.toNat + 10)
  else if 'A' ≤ c ∧ c ≤ 'F' then some (c.toNat - 'A'.toNat + 10)
  else none

/-- The number with four hexadecimal digits. -/
def unit? (a b c d : Char) : Option Nat := do
  return (← hexDigit? a) * 0x1000 + (← hexDigit? b) * 0x100 + (← hexDigit? c) * 0x10 +
    (← hexDigit? d)

/-- The character that a backslash and `c` stand for. -/
def unescape? (c : Char) : Option Char :=
  match c with
  | '"' => some '"'
  | '\\' => some '\\'
  | '/' => some '/'
  | 'b' => some '\x08'
  | 'f' => some '\x0c'
  | 'n' => some '\n'
  | 'r' => some '\r'
  | 't' => some '\t'
  | _ => none

/-- The code points of a quoted text up to its closing quote, and how many characters they
and the quote take. -/
def quoted? : List Char → Option (List Text.CodePoint × Nat)
  | [] => none
  | '"' :: _ => some ([], 1)
  | '\\' :: 'u' :: a :: b :: c :: d :: rest => do
    let point ← Text.CodePoint.ofNat? (← unit? a b c d)
    let (more, size) ← quoted? rest
    return (point :: more, size + 6)
  | '\\' :: c :: rest => do
    let meant ← unescape? c
    let (more, size) ← quoted? rest
    return (.char meant :: more, size + 2)
  | c :: rest => do
    guard (' ' ≤ c)
    let (more, size) ← quoted? rest
    return (.char c :: more, size + 1)

/-! ### Lexemes -/

/-- A lexeme of JSON. -/
inductive Lexeme where
  | leftBracket
  | rightBracket
  | leftBrace
  | rightBrace
  | comma
  | colon
  /-- A word, or a number that is no integer. -/
  | atom (value : Json)
  /-- An integer by its digits. -/
  | integer (negative : Bool) (digits : List Char)
  | quoted (text : List Text.CodePoint)
  /-- What is no lexeme, with all that comes after it. -/
  | foreign

/-- The integer with the given sign and size. -/
def signed (negative : Bool) (n : Nat) : Int :=
  if negative then -(n : Int) else n

/-- The digits of the part after the point, if a point with digits stands at the
front. -/
def fraction : List Char → List Char
  | '.' :: rest => rest.takeWhile Char.isDigit
  | _ => []

/-- The exponent at the front, after its letter, and how many characters it takes. -/
def power? : List Char → Option (Int × Nat)
  | '+' :: rest => magnitude false 1 rest
  | '-' :: rest => magnitude true 1 rest
  | rest => magnitude false 0 rest
where
  magnitude (negative : Bool) (size : Nat) (cs : List Char) : Option (Int × Nat) :=
    match cs.takeWhile Char.isDigit with
    | [] => none
    | ds => some (signed negative (ofDigits ds), size + ds.length)

/-- The exponent at the front, with its letter, and how many characters it takes. -/
def exponent? : List Char → Option (Int × Nat)
  | 'e' :: rest => (power? rest).map fun (n, size) => (n, size + 1)
  | 'E' :: rest => (power? rest).map fun (n, size) => (n, size + 1)
  | _ => none

/-- The number at the front, after its sign, and how many characters it takes.  The
part before the point is a zero or begins with another digit. -/
def number? (negative : Bool) (cs : List Char) : Option (Lexeme × Nat) :=
  let whole := if cs.head? = some '0' then ['0'] else cs.takeWhile Char.isDigit
  let rest := cs.drop whole.length
  let part := fraction rest
  let taken := if part.isEmpty then 0 else part.length + 1
  match whole, part, exponent? (rest.drop taken) with
  | [], _, _ => none
  | _, [], none => some (.integer negative whole, whole.length)
  | _, _, none =>
    some (.atom (.real negative (ofDigits (whole ++ part)) (-part.length)),
      whole.length + taken)
  | _, _, some (n, size) =>
    some (.atom (.real negative (ofDigits (whole ++ part)) (n - part.length)),
      whole.length + taken + size)

/-- The words that are values. -/
def words : List (List Char × Json) :=
  [("null".toList, null), ("true".toList, bool true), ("false".toList, bool false),
   ("NaN".toList, nan), ("Infinity".toList, infinity false),
   ("-Infinity".toList, infinity true)]

/-- The word or number at the front, and how many characters it takes. -/
def atom? (cs : List Char) : Option (Lexeme × Nat) :=
  match words.find? (·.1.isPrefixOf cs), cs with
  | some (word, value), _ => some (.atom value, word.length)
  | none, '-' :: rest => (number? true rest).map fun (found, size) => (found, size + 1)
  | none, _ => number? false cs

/-- The lexeme that begins with `c`, before `rest`, and how many characters of `rest`
it takes. -/
def lexeme? (c : Char) (rest : List Char) : Option (Lexeme × Nat) :=
  match c with
  | '[' => some (.leftBracket, 0)
  | ']' => some (.rightBracket, 0)
  | '\x7b' => some (.leftBrace, 0)
  | '\x7d' => some (.rightBrace, 0)
  | ',' => some (.comma, 0)
  | ':' => some (.colon, 0)
  | '"' => (quoted? rest).map fun (text, size) => (.quoted (Text.pairUp text), size)
  | c => (atom? (c :: rest)).map fun (found, size) => (found, size - 1)

/-- Whether a character may stand between lexemes. -/
def isSpace (c : Char) : Bool :=
  c = ' ' || c = '\t' || c = '\n' || c = '\r'

/-- The lexemes of a text. -/
def lexemes : List Char → List Lexeme
  | [] => []
  | c :: rest =>
    if isSpace c then lexemes rest
    else
      match lexeme? c rest with
      | none => [.foreign]
      | some (first, size) => first :: lexemes (rest.drop size)
termination_by cs => cs.length

/-! ### Values -/

/-- Why a text has no value. -/
inductive Flaw where
  | malformed
  | tooManyDigits (error : TooManyDigits)
  | tooDeep (error : TooDeep)
  deriving DecidableEq

/-- An array or object that is open, with its parts so far, the latest first. -/
inductive Open where
  | array (items : List Json)
  /-- An object whose field `name` has its value to come. -/
  | object (fields : List Field) (name : List Text.CodePoint)

section

-- How a natural number is read from its digits, and how deep arrays and objects may be inside
-- one another, if there is a bound.
variable (natural : List Char → Except TooManyDigits Nat) (bound : Option Nat)

/-- Whether one more array or object may be opened inside the open ones. -/
def mayOpen (stack : List Open) : Bool :=
  bound.all (stack.length < ·)

mutual

/-- Reads a value and what follows it, inside the given open arrays and objects, the
innermost first. -/
def readValue (stack : List Open) : List Lexeme → Except Flaw Json
  | .atom value :: rest => readRest value stack rest
  | .integer negative ds :: rest =>
    match natural ds with
    | .error e => .error (.tooManyDigits e)
    | .ok n => readRest (.int (signed negative n)) stack rest
  | .quoted text :: rest => readRest (.string text) stack rest
  | .leftBracket :: rest =>
    if mayOpen bound stack then
      match rest with
      | .rightBracket :: rest => readRest (.array []) stack rest
      | rest => readValue (.array [] :: stack) rest
    else .error (.tooDeep .array)
  | .leftBrace :: rest =>
    if mayOpen bound stack then
      match rest with
      | .rightBrace :: rest => readRest (.object []) stack rest
      | .quoted name :: .colon :: rest => readValue (.object [] name :: stack) rest
      | _ => .error .malformed
    else .error (.tooDeep .object)
  | _ => .error .malformed

/-- Reads what follows a complete value inside the given open arrays and objects. -/
def readRest (value : Json) : List Open → List Lexeme → Except Flaw Json
  | [], [] => .ok value
  | .array items :: stack, .comma :: rest => readValue (.array (value :: items) :: stack) rest
  | .array items :: stack, .rightBracket :: rest =>
    readRest (.array (value :: items).reverse) stack rest
  | .object fields name :: stack, .comma :: .quoted next :: .colon :: rest =>
    readValue (.object ((name, value) :: fields) next :: stack) rest
  | .object fields name :: stack, .rightBrace :: rest =>
    readRest (.object ((name, value) :: fields).reverse) stack rest
  | _, _ => .error .malformed

end

/-- The value that a text writes, if its integers can be read and it is not too deep. -/
def readBy (text : String) : Except Flaw Json :=
  readValue natural bound [] (lexemes text.toList)

end

/-- The value that a text writes, with arrays and objects as deep as the given depth. -/
def read (depth : Nat) (text : String) : Except Flaw Json :=
  readBy readDigits (some depth) text

end CallForm.Json
