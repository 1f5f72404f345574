/-!
# Integers in decimal

The decimal text of an integer: its digits without leading zeros, after a minus sign
if it is negative.
-/

namespace CallForm

/-- The decimal digits of a natural number. -/
def digits (n : Nat) : List Char :=
  Nat.toDigits 10 n

/-- The natural number with the given decimal digits. -/
def ofDigits (ds : List Char) : Nat :=
  Nat.ofDigitChars 10 ds 0

theorem ofDigits_digits (n : Nat) :
  ofDigits (digits n) = n
  := Nat.ofDigitChars_toDigits (by decide) (by decide)

/-- The decimal characters of an integer. -/
def decimalChars (n : Int) : List Char :=
  if n < 0 then '-' :: digits n.natAbs else digits n.natAbs

/-- The decimal text of an integer. -/
def decimal (n : Int) : String :=
  String.ofList (decimalChars n)

end CallForm
