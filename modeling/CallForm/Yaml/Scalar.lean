import CallForm.Json.Reader
import CallForm.Text.Base64
import CallForm.Text.Blank
import CallForm.Text.Decimal
import CallForm.Text.LowerCase
import CallForm.Value
import CallForm.Yaml.Cursor
import CallForm.Yaml.Flaw

/-!
# The values of scalars

The type of a plain scalar follows from its text: there are several spellings each for
truth values and for nothing, integers in base two, eight, ten and sixteen, integers
and fractions in base sixty, decimal fractions, and dates with or without a time of
day.  A text of no such form stands for itself.  `implicitType?` tells the type.

A scalar may also be given its type, and then more texts have a value than those of the
form.  `ScalarType.value` gives the value in either case, or says why there is none.

Digits may be set apart by underscores.
-/

namespace CallForm.Yaml

/-- The types of scalars. -/
inductive ScalarType where
  | null
  | bool
  | int
  | float
  | timestamp
  | binary
  | text
  deriving DecidableEq

/-! ### Forms of plain scalars -/

/-- The spellings of nothing, but for the empty text. -/
def nullWords : List String :=
  ["~", "null", "Null", "NULL"]

/-- The spellings of the truth values in small letters. -/
def truthWords : List (String × Bool) :=
  [("yes", true), ("no", false), ("true", true), ("false", false), ("on", true), ("off", false)]

/-- Whether a text is a spelling of a truth value, in small letters, in capitals, or with
the first letter as a capital. -/
def isTruth (s : String) : Bool :=
  truthWords.any fun (word, _) => s = word || s = word.capitalize || s = word.toUpper

/-- The sign at the front, if there is one, and the text behind it. -/
def sign : List Char → Bool × List Char
  | '-' :: rest => (true, rest)
  | '+' :: rest => (false, rest)
  | rest => (false, rest)

/-- Whether a character is a decimal digit or an underscore. -/
def isSpacedDigit (c : Char) : Bool :=
  c.isDigit || c = '_'

/-- Whether a text is made of places in base sixty: each is a colon and one or two digits
that make a number below sixty. -/
def isSixtieths : List Char → Bool
  | [] => true
  | ':' :: a :: b :: rest =>
    if b.isDigit then '0' ≤ a && a ≤ '5' && isSixtieths rest
    else a.isDigit && isSixtieths (b :: rest)
  | [':', a] => a.isDigit
  | _ => false

/-- Whether a text is an integer. -/
def isInteger (cs : List Char) : Bool :=
  match (sign cs).2 with
  | '0' :: 'b' :: ds => !ds.isEmpty && ds.all fun c => c = '0' || c = '1' || c = '_'
  | '0' :: 'x' :: ds => !ds.isEmpty && ds.all fun c => (Json.hexDigit? c).isSome || c = '_'
  | '0' :: ds => ds.all fun c => '0' ≤ c && c ≤ '7' || c = '_'
  | c :: rest => c.isDigit && isSixtieths (rest.dropWhile isSpacedDigit)
  | [] => false

/-- Whether a text is an exponent, whose sign has to be written, or empty. -/
def isExponent : List Char → Bool
  | [] => true
  | e :: s :: ds =>
    (e = 'e' || e = 'E') && (s = '+' || s = '-') && !ds.isEmpty && ds.all Char.isDigit
  | _ => false

/-- Whether a text is a fraction that begins with a digit: with an exponent, or with
places in base sixty. -/
def isLongFraction (cs : List Char) : Bool :=
  cs.head?.any Char.isDigit &&
    match cs.dropWhile isSpacedDigit with
    | '.' :: rest => isExponent (rest.dropWhile isSpacedDigit)
    | rest =>
      let places := rest.takeWhile (· ≠ '.')
      let part := rest.drop places.length
      isSixtieths places && part.head? = some '.' && (part.drop 1).all isSpacedDigit

/-- Whether a text is a fraction.  One without a digit before the point has no sign. -/
def isFraction (cs : List Char) : Bool :=
  let size := (sign cs).2
  [".inf", ".Inf", ".INF"].contains (String.ofList size) ||
    [".nan", ".NaN", ".NAN"].contains (String.ofList cs) ||
    match cs with
    | '.' :: rest => rest.head?.any Char.isDigit && isExponent (rest.dropWhile isSpacedDigit)
    | _ => isLongFraction size

/-! ### Numbers -/

/-- The code points of a text without underscores. -/
def compact (text : List Text.CodePoint) : List Text.CodePoint :=
  text.filter (· ≠ .char '_')

/-- The characters of a text that is read as a number: digits of all scripts become those
of ASCII, blanks beyond ASCII become spaces, and what is in no number becomes a question
mark. -/
def numeral (text : List Text.CodePoint) : List Char :=
  text.map fun
    | .char c =>
      if c.toNat < 0x80 then c
      else if Text.isBlank c then ' '
      else ((Text.decimalValue? c).map Nat.digitChar).getD '?'
    | _ => '?'

/-- Whether a character may stand around a number. -/
def isPadding (c : Char) : Bool :=
  c = ' ' || '\t' ≤ c && c ≤ '\r'

/-- A text without the blanks around it. -/
def trim (cs : List Char) : List Char :=
  ((cs.dropWhile isPadding).reverse.dropWhile isPadding).reverse

/-- The letter behind a zero that may introduce digits in a base. -/
def baseLetter? (base : Nat) : Option Char :=
  if base = 2 then some 'b' else if base = 8 then some 'o' else if base = 16 then some 'x'
  else none

/-- The digits of a number in a base behind the letter that may introduce them. -/
def behindBase (base : Nat) : List Char → List Char
  | '0' :: x :: rest => if baseLetter? base = some x.toLower then rest else '0' :: x :: rest
  | cs => cs

/-- The value of a digit in a base up to sixteen. -/
def digitIn? (base : Nat) (c : Char) : Option Nat :=
  (Json.hexDigit? c).filter (· < base)

/-- The integer that a text writes in a base.  The number of decimal digits is limited. -/
def integerIn (base : Nat) (text : List Text.CodePoint) : Except ScalarError Int :=
  let (negative, size) := sign (trim (numeral text))
  let size := behindBase base size
  let ds := size.map (digitIn? base)
  let count := (ds.takeWhile Option.isSome).length
  if base = 10 ∧ maxDigits < count then .error (.digits ⟨some count⟩)
  else if count = 0 then .error (.notInteger base text)
  else
    match ds.mapM id with
    | none => .error (.notInteger base text)
    | some ds => .ok (Json.signed negative (ds.foldl (fun n d => n * base + d) 0))

/-- The exponent that a text is; zero if the text is empty. -/
def exponent? : List Char → Option Int
  | [] => some 0
  | cs => do
    let (exponent, size) ← Json.exponent? cs
    guard (size = cs.length)
    return exponent

/-- The fraction that a text without sign writes, with or without a point and an
exponent. -/
def decimalFraction? (cs : List Char) : Option Float := do
  let whole := cs.takeWhile Char.isDigit
  let rest := cs.drop whole.length
  let part := Json.fraction rest
  guard (!(whole ++ part).isEmpty)
  let exponent ← exponent? (if rest.head? = some '.' then rest.drop (part.length + 1) else rest)
  return Decimal.nearest ⟨ofDigits (whole ++ part), exponent - part.length⟩

/-- The number that a text writes as a fraction. -/
def fractionIn (text : List Text.CodePoint) : Except ScalarError Float :=
  let (negative, size) := sign (trim (numeral text))
  let word := (String.ofList size).toLower
  let found := if word = "inf" ∨ word = "infinity" then some (1 / 0)
    else if word = "nan" then some (0 / 0)
    else decimalFraction? size
  match found with
  | none => .error (.notFraction text)
  | some x => .ok (if negative then -x else x)

/-- The sign of a number and the text behind it.  The text has to have a character. -/
def signOf : List Text.CodePoint → Except ScalarError (Bool × List Text.CodePoint)
  | [] => .error .noNumber
  | .char '-' :: rest => .ok (true, rest)
  | .char '+' :: rest => .ok (false, rest)
  | text => .ok (false, text)

/-- The parts of a text between colons. -/
def places : List Text.CodePoint → List (List Text.CodePoint)
  | [] => [[]]
  | p :: rest =>
    if p = .char ':' then [] :: places rest
    else
      match places rest with
      | [] => [[p]]
      | first :: more => (p :: first) :: more

/-- The size of an integer, which may have places in base sixty. -/
def integerSize : List Text.CodePoint → Except ScalarError Int
  | [] => .error .noNumber
  | [.char '0'] => .ok 0
  | .char '0' :: .char 'b' :: ds => integerIn 2 ds
  | .char '0' :: .char 'x' :: ds => integerIn 16 ds
  | .char '0' :: rest => integerIn 8 (.char '0' :: rest)
  | text => do
    let parts ← (places text).mapM (integerIn 10)
    return parts.foldl (fun n part => n * 60 + part) 0

/-- The integer that a text means. -/
def integer (text : List Text.CodePoint) : Except ScalarError Int := do
  let (negative, size) ← signOf (compact text)
  let n ← integerSize size
  return if negative then -n else n

/-- The sum of the places of a number in base sixty, from the last place to the first,
where `base` is the weight of the last place.  The weight has to be within the range of
the floating-point numbers. -/
def sumPlaces (sum : Float) (base : Nat) : List Float → Except ScalarError Float
  | [] => .ok sum
  | place :: rest =>
    let weight := Decimal.nearest ⟨base, 0⟩
    if weight.isInf then .error .weight else sumPlaces (sum + place * weight) (base * 60) rest

/-- The size of a fraction, which may have places in base sixty. -/
def fractionSize (text : List Text.CodePoint) : Except ScalarError Float :=
  if text = Text.ofString ".inf" then .ok (1 / 0)
  else if text = Text.ofString ".nan" then .ok (0 / 0)
  else if text.contains (.char ':') then do
    let parts ← (places text).mapM fractionIn
    sumPlaces 0 1 parts.reverse
  else fractionIn text

/-- The fraction that a text means. -/
def fraction (text : List Text.CodePoint) : Except ScalarError Float := do
  let (negative, size) ← signOf (Text.lowerCase (compact text))
  let x ← fractionSize size
  return if negative then -x else x

/-! ### Dates and times -/

/-- The number at the front with at least `least` and at most `most` digits, and the text
behind it. -/
def number? (least most : Nat) (cs : List Char) : Option (Nat × List Char) :=
  let ds := (cs.take most).takeWhile Char.isDigit
  if least ≤ ds.length then some (ofDigits ds, cs.drop ds.length) else none

/-- The text behind the given character. -/
def after? (c : Char) : List Char → Option (List Char)
  | d :: rest => if d = c then some rest else none
  | [] => none

/-- The parts of a date and time as they are written. -/
structure Timestamp where
  year : Nat
  month : Nat
  day : Nat
  /-- The hour, the minute, the second, the microsecond and the offset. -/
  clock : Option (Nat × Nat × Nat × Nat × Option Int)

/-- The offset from universal time that a text writes behind blanks, in seconds. -/
def offset? (cs : List Char) : Option Int := do
  match cs.dropWhile isBlank with
  | ['Z'] => some 0
  | s :: rest => do
    guard (s = '+' || s = '-')
    let (hours, rest) ← number? 1 2 rest
    let minutes ← match rest with
      | [] => some 0
      | rest => do
        let (minutes, rest) ← number? 2 2 (← after? ':' rest)
        guard rest.isEmpty
        some minutes
    let seconds : Int := hours * 3600 + minutes * 60
    return if s = '-' then -seconds else seconds
  | [] => none

/-- The time of day and the offset that a text writes. -/
def clock? (cs : List Char) : Option (Nat × Nat × Nat × Nat × Option Int) := do
  let (hour, rest) ← number? 1 2 cs
  let (minute, rest) ← number? 2 2 (← after? ':' rest)
  let (second, rest) ← number? 2 2 (← after? ':' rest)
  let (microsecond, rest) := match rest with
    | '.' :: rest =>
      let ds := rest.takeWhile Char.isDigit
      let six := ds.take 6
      (ofDigits (six ++ List.replicate (6 - six.length) '0'), rest.drop ds.length)
    | rest => (0, rest)
  let offset ← if rest.isEmpty then some none else (offset? rest).map some
  return (hour, minute, second, microsecond, offset)

/-- The date, with or without a time of day, that a text writes. -/
def timestamp? (cs : List Char) : Option Timestamp := do
  let (year, rest) ← number? 4 4 cs
  let (month, afterMonth) ← number? 1 2 (← after? '-' rest)
  let (day, rest) ← number? 1 2 (← after? '-' afterMonth)
  match rest with
  | [] => return ⟨year, month, day, none⟩
  | c :: later =>
    guard (c = 'T' || c = 't' || isBlank c)
    let later := if isBlank c then later.dropWhile isBlank else later
    return ⟨year, month, day, some (← clock? later)⟩

/-- Whether a text is a date or a date and time.  In a date alone the month and the day
have two digits. -/
def isTimestamp (cs : List Char) : Bool :=
  match timestamp? cs with
  | none => false
  | some t => t.clock.isSome || cs.length = 10

/-- The value of a date, with or without a time of day. -/
def Timestamp.value (t : Timestamp) : Except CalendarError Value :=
  match t.clock with
  | none => do return .date (← Date.of t.year t.month t.day)
  | some (hour, minute, second, microsecond, offset) => do
    let offset ← checkOffset offset
    let date ← Date.of t.year t.month t.day
    let time ← Time.of hour minute second microsecond
    return .dateTime ⟨date, time, offset⟩

/-! ### Values -/

/-- A text without the line feed at its end. -/
def withoutLineEnd (cs : List Char) : List Char :=
  if cs.getLast? = some '\n' then cs.dropLast else cs

/-- The type that a plain scalar has by its form.  A line feed at the end of the text
changes nothing. -/
def implicitType (text : List Text.CodePoint) : ScalarType :=
  match Text.toString? text with
  | none => .text
  | some "" => .null
  | some s =>
    let cs := withoutLineEnd s.toList
    let s := String.ofList cs
    if nullWords.contains s then .null
    else if isTruth s then .bool
    else if isFraction cs then .float
    else if isInteger cs then .int
    else if isTimestamp cs then .timestamp
    else .text

/-- The truth value that a text means, in letters of either case. -/
def truth (text : List Text.CodePoint) : Except ScalarError Bool :=
  let small := Text.lowerCase text
  match (Text.toString? small).bind (truthWords.lookup ·) with
  | some b => .ok b
  | none => .error (.notTruth small)

/-- The date that a text means, with or without a time of day. -/
def timestampValue (text : List Text.CodePoint) : Except ScalarError Value :=
  match (Text.toString? text).bind fun s => timestamp? (withoutLineEnd s.toList) with
  | none => .error .notTimestamp
  | some t => t.value.mapError .calendar

/-- The bytes that a text means, which has to be in ASCII. -/
def bytes (text : List Text.CodePoint) : Except Flaw (List UInt8) := do
  let s ← present (Text.toString? text)
  require (s.toList.all (·.toNat < 0x80))
  present (Text.decodeBase64? s.toList)

/-- The value of a text as a scalar of the given type. -/
def ScalarType.value (type : ScalarType) (text : List Text.CodePoint) : Except Flaw Value :=
  match type with
  | .null => .ok .null
  | .bool => ((truth text).map .bool).mapError .scalar
  | .int => ((integer text).map .int).mapError .scalar
  | .float => ((fraction text).map .float).mapError .scalar
  | .timestamp => (timestampValue text).mapError .scalar
  | .binary => (bytes text).map .bytes
  | .text => .ok (.text text)

end CallForm.Yaml
