import CallForm.Calendar
import CallForm.Decimal.Limit
import CallForm.Text.Quoted

/-!
# Why a YAML text has no value

A text may be malformed.  It may also be well formed and hold a scalar, or the code of a
character, that has no value: a `ScalarError` says why.  Of several flaws the one that
comes up first in reading counts.
-/

namespace CallForm.Yaml

/-- Why a scalar, or the code of a character in it, has no value. -/
inductive ScalarError where
  /-- There is no such date or time. -/
  | calendar (error : CalendarError)
  /-- An integer has too many digits to be read. -/
  | digits (error : TooManyDigits)
  /-- A text is no integer in the given base. -/
  | notInteger (base : Nat) (text : List Text.CodePoint)
  /-- A text is no fraction. -/
  | notFraction (text : List Text.CodePoint)
  /-- A text is no truth value. -/
  | notTruth (text : List Text.CodePoint)
  /-- A text is no date or time. -/
  | notTimestamp
  /-- A collection stands for a date or time, even one with a text for itself. -/
  | collectionAsTimestamp
  /-- A number without any character. -/
  | noNumber
  /-- A place in base sixty has a weight beyond all floating-point numbers. -/
  | weight
  /-- No code point has the given code. -/
  | noCodePoint
  /-- A code beyond all that count as codes. -/
  | noCode
  deriving DecidableEq

/-- The name of the kind of error that a scalar without a value is. -/
def ScalarError.kind : ScalarError → String
  | calendar _ | digits _ | notInteger .. | notFraction _ | noCodePoint => "ValueError"
  | notTruth _ => "KeyError"
  | notTimestamp => "AttributeError"
  | collectionAsTimestamp => "TypeError"
  | noNumber => "IndexError"
  | weight | noCode => "OverflowError"

/-- The message about a scalar without a value. -/
def ScalarError.message : ScalarError → String
  | calendar error => error.message
  | digits error => error.message
  | notInteger base text =>
    "invalid literal for int() with base " ++ decimal base ++ ": " ++
      String.ofList ((Text.quotedChars text).take 200)
  | notFraction text => "could not convert string to float: " ++ Text.quoted text
  | notTruth text => Text.quoted text
  | notTimestamp => "'NoneType' object has no attribute 'groupdict'"
  | collectionAsTimestamp => "expected string or bytes-like object, got 'list'"
  | noNumber => "string index out of range"
  | weight => "int too large to convert to float"
  | noCodePoint => "chr() arg not in range(0x110000)"
  | noCode => "Python int too large to convert to C int"

/-- Why a text has no value. -/
inductive Flaw where
  /-- The text is no document, or a part of it fits no type. -/
  | malformed
  /-- A scalar has no value. -/
  | scalar (error : ScalarError)
  deriving DecidableEq

/-- A result that is there only under a condition. -/
def require (condition : Bool) : Except Flaw Unit :=
  if condition then .ok () else .error .malformed

/-- A result that is missing in a malformed text. -/
def present : Option α → Except Flaw α
  | some a => .ok a
  | none => .error .malformed

end CallForm.Yaml
