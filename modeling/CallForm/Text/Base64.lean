/-!
# Bytes as texts

`decodeBase64?` reads a text that writes bytes in base 64.  What is no digit is passed
over, and so are equals signs until they fill up a group of four.
-/

namespace CallForm.Text

/-- The value of a digit in base 64. -/
def base64Digit? (c : Char) : Option Nat :=
  if 'A' ≤ c ∧ c ≤ 'Z' then some (c.toNat - 'A'.toNat)
  else if 'a' ≤ c ∧ c ≤ 'z' then some (c.toNat - 'a'.toNat + 26)
  else if '0' ≤ c ∧ c ≤ '9' then some (c.toNat - '0'.toNat + 52)
  else if c = '+' then some 62
  else if c = '/' then some 63
  else none

/-- The bytes of a group of digits; a digit alone, or none, makes no byte, and bits that
are left over do not count. -/
def groupBytes : List Nat → List UInt8
  | [a, b] => [(a * 4 + b / 16).toUInt8]
  | [a, b, c] => [(a * 4 + b / 16).toUInt8, (b % 16 * 16 + c / 4).toUInt8]
  | [a, b, c, d] =>
    [(a * 4 + b / 16).toUInt8, (b % 16 * 16 + c / 4).toUInt8, (c % 4 * 64 + d).toUInt8]
  | _ => []

/-- The bytes of a text behind a group of digits that is not complete, and behind `pads`
equals signs since the last digit.  The text ends where the group is filled up. -/
def decodeGroups? (group : List Nat) (pads : Nat) : List Char → Option (List UInt8)
  | [] => if group.isEmpty then some [] else none
  | '=' :: rest =>
    if group.length < 2 then decodeGroups? group pads rest
    else if 4 ≤ group.length + pads + 1 then some (groupBytes group)
    else decodeGroups? group (pads + 1) rest
  | c :: rest =>
    match base64Digit? c with
    | none => decodeGroups? group pads rest
    | some d =>
      if group.length = 3 then
        (decodeGroups? [] 0 rest).map (groupBytes (group ++ [d]) ++ ·)
      else decodeGroups? (group ++ [d]) 0 rest

/-- The bytes that a text writes, if it writes whole ones. -/
def decodeBase64? (text : List Char) : Option (List UInt8) :=
  decodeGroups? [] 0 text

end CallForm.Text
