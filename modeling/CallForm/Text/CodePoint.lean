/-!
# Code points

An escape in a quoted text may name a surrogate, a code point that is no character and
means one only together with its partner.  A text with such escapes is a list of code
points: characters, and surrogates that have no partner.
-/

namespace CallForm.Text

/-- A character, or a surrogate without its partner. -/
inductive CodePoint where
  | char (c : Char)
  /-- A surrogate of the kind that comes first in a pair. -/
  | high (n : Fin 0x400)
  /-- A surrogate of the kind that comes second in a pair. -/
  | low (n : Fin 0x400)
  deriving DecidableEq

namespace CodePoint

/-- The number of a code point. -/
def toNat : CodePoint → Nat
  | char c => c.toNat
  | high n => 0xD800 + n
  | low n => 0xDC00 + n

/-- The code point with a number, if there is one. -/
def ofNat? (n : Nat) : Option CodePoint :=
  if h : n.isValidChar then some (char (Char.ofNatAux n h))
  else if h : 0xD800 ≤ n ∧ n < 0xDC00 then some (high ⟨n - 0xD800, by omega⟩)
  else if h : 0xDC00 ≤ n ∧ n < 0xE000 then some (low ⟨n - 0xDC00, by omega⟩)
  else none

/-- The character that a code point is. -/
def char? : CodePoint → Option Char
  | char c => some c
  | _ => none

end CodePoint

/-- The code points of a text of characters. -/
def ofString (text : String) : List CodePoint :=
  text.toList.map .char

instance : Coe String (List CodePoint) := ⟨ofString⟩

/-- The text of characters with the given code points, if there are no surrogates among
them. -/
def toString? (text : List CodePoint) : Option String :=
  (text.mapM CodePoint.char?).map String.ofList

/-- The character that a pair of surrogates means. -/
def paired (first second : Fin 0x400) : Char :=
  Char.ofNat (0x10000 + first * 0x400 + second)

/-- A text with each pair of surrogates replaced by the character that it means. -/
def pairUp : List CodePoint → List CodePoint
  | [] => []
  | .high m :: .low n :: rest => .char (paired m n) :: pairUp rest
  | p :: rest => p :: pairUp rest

end CallForm.Text
