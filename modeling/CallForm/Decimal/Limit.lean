import CallForm.Decimal.Integer

/-!
# Long integers

An integer is read from decimal digits and written in them only up to a limit on their
number.
-/

namespace CallForm

/-- The greatest number of digits that an integer is read from or written in. -/
def maxDigits : Nat :=
  4300

/-- An integer has more digits than the limit: as many as `count` says, if they were
written out, or else as many as nobody counts. -/
structure TooManyDigits where
  count : Option Nat
  deriving DecidableEq

/-- The message about too many digits. -/
def TooManyDigits.message (e : TooManyDigits) : String :=
  "Exceeds the limit (" ++ decimal maxDigits ++ " digits) for integer string conversion" ++
    (match e.count with
      | some n => ": value has " ++ decimal n ++ " digits"
      | none => "") ++
    "; use sys.set_int_max_str_digits() to increase the limit"

/-- The natural number with the given decimal digits. -/
def readDigits (ds : List Char) : Except TooManyDigits Nat :=
  if maxDigits < ds.length then .error ⟨some ds.length⟩ else .ok (ofDigits ds)

/-- Whether an integer has more digits than the limit. -/
def isTooLong (n : Int) : Bool :=
  Nat.pow 10 maxDigits ≤ n.natAbs

end CallForm
