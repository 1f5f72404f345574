import CallForm.Decimal.Integer
import CallForm.Text.Quoted

/-!
# Texts as bytes

`decodeUtf8` reads bytes as a text in UTF-8.  Overlong forms, surrogates and code
points beyond the last are refused; the error names the longest run of bytes at the
place that begins a character, or the one byte that begins none.
-/

namespace CallForm.Text

/-- What is wrong with bytes that are no text. -/
inductive Utf8Fault where
  /-- The byte begins no character. -/
  | start
  /-- The byte after the run does not continue the character. -/
  | continuation
  /-- The bytes end inside a character. -/
  | ending
  deriving DecidableEq

/-- The bytes that do not form a character, and the position of the first. -/
structure Utf8Error where
  position : Nat
  bytes : List UInt8
  fault : Utf8Fault
  deriving DecidableEq

/-- For the first byte of a character: how many bytes continue it, its share of the code
point, and the least and the greatest value of the byte after it. -/
def leadByte? (b : Nat) : Option (Nat × Nat × Nat × Nat) :=
  if b < 0x80 then some (0, b, 0x80, 0xBF)
  else if b < 0xC2 then none
  else if b < 0xE0 then some (1, b - 0xC0, 0x80, 0xBF)
  else if b < 0xF0 then
    some (2, b - 0xE0, if b = 0xE0 then 0xA0 else 0x80, if b = 0xED then 0x9F else 0xBF)
  else if b < 0xF5 then
    some (3, b - 0xF0, if b = 0xF0 then 0x90 else 0x80, if b = 0xF4 then 0x8F else 0xBF)
  else none

/-- The bytes at the front, at most `count`, that continue a character; the first of them
lies between `low` and `high`. -/
def continuation (low high : Nat) : Nat → List UInt8 → List UInt8
  | 0, _ => []
  | _, [] => []
  | count + 1, b :: rest =>
    if low ≤ b.toNat ∧ b.toNat ≤ high then b :: continuation 0x80 0xBF count rest else []

/-- The text of the bytes from position `pos` on. -/
def decodeFrom (pos : Nat) : List UInt8 → Except Utf8Error (List Char)
  | [] => .ok []
  | b :: rest =>
    match leadByte? b.toNat with
    | none => .error ⟨pos, [b], .start⟩
    | some (count, share, low, high) =>
      let more := continuation low high count rest
      if more.length = count then
        let code := more.foldl (fun n b => n * 0x40 + (b.toNat - 0x80)) share
        (decodeFrom (pos + 1 + count) (rest.drop count)).map (Char.ofNat code :: ·)
      else
        .error ⟨pos, b :: more, if more.length = rest.length then .ending else .continuation⟩
termination_by bytes => bytes.length
decreasing_by
  simp only [List.length_cons, List.length_drop]
  omega

/-- The text of bytes. -/
def decodeUtf8 (bytes : List UInt8) : Except Utf8Error (List Char) :=
  decodeFrom 0 bytes

/-- The description of a fault. -/
def Utf8Fault.message : Utf8Fault → String
  | start => "invalid start byte"
  | continuation => "invalid continuation byte"
  | ending => "unexpected end of data"

/-- The message about bytes that are no text. -/
def Utf8Error.message (e : Utf8Error) : String :=
  let subject := match e.bytes with
    | [b] => "byte 0x" ++ String.ofList (hexDigits 2 b.toNat) ++ " in position " ++
        decimal e.position
    | bytes => "bytes in position " ++ decimal e.position ++ "-" ++
        decimal (e.position + bytes.length - 1 : Nat)
  "'utf-8' codec can't decode " ++ subject ++ ": " ++ e.fault.message

end CallForm.Text
