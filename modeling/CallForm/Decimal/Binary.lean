/-!
# Binary numbers

A finite floating-point number is a natural number times a power of two, or its
negative.
-/

namespace CallForm.Decimal

/-- The number `mantissa * 2 ^ exponent`. -/
structure Binary where
  mantissa : Nat
  exponent : Int
  deriving DecidableEq

namespace Binary

/-- The least exponent of a floating-point number. -/
def leastExponent : Int :=
  -1074

/-- The size of a finite floating-point number. -/
def ofFloat (x : Float) : Binary :=
  let bits := x.toBits.toNat
  let fraction := bits % Nat.pow 2 52
  let power := bits / Nat.pow 2 52 % Nat.pow 2 11
  if power = 0 then ⟨fraction, leastExponent⟩
  else ⟨Nat.pow 2 52 + fraction, leastExponent + (power - 1 : Nat)⟩

/-- The natural number that a binary number is, if it is one. -/
def nat? (b : Binary) : Option Nat :=
  let divisor := Nat.pow 2 (-b.exponent).toNat
  if b.mantissa % divisor = 0 then some (b.mantissa / divisor * Nat.pow 2 b.exponent.toNat)
  else none

end Binary

/-- The integer that a floating-point number is, if it is one. -/
def integer? (x : Float) : Option Int :=
  if x.isFinite then
    (Binary.ofFloat x).nat?.map fun n => if x < 0 then -(n : Int) else n
  else none

end CallForm.Decimal
