/-!
# Sets of characters given by ranges

A property of characters that a standard tabulates is kept as the list of the ranges
of code points that have it, in ascending order, and `Ranges.covers` looks a code
point up in it.
-/

namespace CallForm.Text

/-- Closed ranges of code points, in ascending order. -/
def Ranges : Type := List (Nat × Nat)

/-- Whether a code point lies in one of the ranges; the search stops at the first
range that begins above it. -/
def Ranges.covers : Ranges → Nat → Bool
  | [], _ => false
  | (low, high) :: rest, n =>
    if n < low then false else n ≤ high || Ranges.covers rest n

/-- The first range that a code point lies in. -/
def Ranges.range? : Ranges → Nat → Option (Nat × Nat)
  | [], _ => none
  | (low, high) :: rest, n =>
    if low ≤ n ∧ n ≤ high then some (low, high) else Ranges.range? rest n

end CallForm.Text
