import CallForm.Decimal.Binary
import CallForm.Decimal.Integer

/-!
# Shortest decimals

A binary floating-point number stands for every real that rounds to it.  `shortest`
finds a decimal with as few digits as possible among those reals, and of the decimals
with that many digits the nearest to the number.  A `Style` then says how the
decimal is written.
-/

namespace CallForm.Decimal

/-! ### Digits -/

/-- The number `digits * 10 ^ exponent`. -/
structure Scientific where
  digits : Nat
  exponent : Int
  deriving DecidableEq

/-- The same number without zeros at the end of its digits; `fuel` bounds the number of
zeros. -/
def Scientific.strip (s : Scientific) : Nat → Scientific
  | 0 => s
  | fuel + 1 =>
    if s.digits ≠ 0 ∧ s.digits % 10 = 0 then strip ⟨s.digits / 10, s.exponent + 1⟩ fuel
    else s

/-- A positive number `num / den` with the numbers `low / den` and `high / den` below and
above it, between which lie the reals that stand for it. -/
structure Interval where
  low : Nat
  num : Nat
  high : Nat
  den : Nat
  /-- Whether the ends belong to the interval. -/
  closed : Bool

namespace Interval

/-- The interval of a floating-point number.  Below a power of two the next number is
only half as far away as above it, unless the numbers are the least ones. -/
def ofBinary (b : Binary) : Interval :=
  let narrow := b.mantissa = Nat.pow 2 52 ∧ Binary.leastExponent < b.exponent
  let shift := b.exponent - 2
  let scale := Nat.pow 2 shift.toNat
  { low := (4 * b.mantissa - if narrow then 1 else 2) * scale
    num := 4 * b.mantissa * scale
    high := (4 * b.mantissa + 2) * scale
    den := Nat.pow 2 (-shift).toNat
    closed := b.mantissa % 2 = 0 }

/-- The interval with all its numbers divided by `10 ^ exponent`. -/
def scale (i : Interval) (exponent : Int) : Interval :=
  let up := Nat.pow 10 (-exponent).toNat
  { i with
    low := i.low * up
    num := i.num * up
    high := i.high * up
    den := i.den * Nat.pow 10 exponent.toNat }

/-- Whether the natural number `n` lies in the interval. -/
def holds (i : Interval) (n : Nat) : Bool :=
  if i.closed then i.low ≤ n * i.den && n * i.den ≤ i.high
  else i.low < n * i.den && n * i.den < i.high

/-- The natural number in the interval that is nearest to the number, if a neighbour of
the number lies in the interval; of two that are equally near, the even one. -/
def nearest? (i : Interval) : Option Nat :=
  let below := i.num / i.den
  let above := below + 1
  match i.holds below, i.holds above with
  | false, false => none
  | true, false => some below
  | false, true => some above
  | true, true =>
    let down := i.num - below * i.den
    let up := above * i.den - i.num
    some (if down < up ∨ down = up ∧ below % 2 = 0 then below else above)

/-- The exponent of the leading digit of the number. -/
def magnitude (i : Interval) : Int :=
  let guess : Int := (digits i.num).length - (digits i.den).length
  let scaled := i.scale guess
  if scaled.den ≤ scaled.num then guess else guess - 1

/-- The shortest decimal in the interval that has at least `count` digits, tried with
`fuel` numbers of digits. -/
def search (i : Interval) (count : Nat) : Nat → Scientific
  | 0 => { digits := i.num / i.den, exponent := 0 }
  | fuel + 1 =>
    let exponent := i.magnitude - count + 1
    match (i.scale exponent).nearest? with
    | some n => Scientific.strip ⟨n, exponent⟩ (count + 1)
    | none => search i (count + 1) fuel

end Interval

/-- The shortest decimal that stands for a positive finite number.  Seventeen digits
are always enough. -/
def shortest (x : Float) : Scientific :=
  (Interval.ofBinary (Binary.ofFloat x)).search 1 17

/-! ### Written forms -/

/-- How a floating-point number is written. -/
structure Style where
  /-- The least exponent of the leading digit for which no exponent is written. -/
  leastPlain : Int
  /-- The greatest such exponent. -/
  greatestPlain : Int
  /-- The least number of digits of an exponent. -/
  exponentWidth : Nat
  infinity : String
  notANumber : String

namespace Style

/-- Digits with a point after the first `whole` of them, with zeros wherever digits
are missing on either side; there is at least one digit on each side. -/
def point (ds : List Char) (whole : Int) : List Char :=
  if whole ≤ 0 then '0' :: '.' :: List.replicate (-whole).toNat '0' ++ ds
  else
    let front := ds.take whole.toNat ++ List.replicate (whole.toNat - ds.length) '0'
    match ds.drop whole.toNat with
    | [] => front ++ ['.', '0']
    | back => front ++ '.' :: back

/-- The written form of a positive decimal. -/
def write (style : Style) (s : Scientific) : List Char :=
  let ds := digits s.digits
  let leading := s.exponent + ds.length - 1
  if style.leastPlain ≤ leading ∧ leading ≤ style.greatestPlain then point ds (leading + 1)
  else
    let mantissa := match ds with
      | [d] => [d]
      | d :: more => d :: '.' :: more
      | [] => []
    let power := digits leading.natAbs
    mantissa ++ 'e' :: (if leading < 0 then '-' else '+') ::
      List.replicate (style.exponentWidth - power.length) '0' ++ power

/-- The written form of a floating-point number. -/
def text (style : Style) (x : Float) : String :=
  if x.isNaN then style.notANumber
  else
    let sign := if Nat.pow 2 63 ≤ x.toBits.toNat then "-" else ""
    let size := x.abs
    if size.isInf then sign ++ style.infinity
    else if size == 0 then sign ++ "0.0"
    else sign ++ String.ofList (style.write (shortest size))

end Style

/-! ### The nearest floating-point number -/

/-- The floating-point number nearest to a decimal: beyond the greatest it is infinite,
and below the least it is zero. -/
def nearest (s : Scientific) : Float :=
  let leading := s.exponent + (digits s.digits).length
  if s.digits = 0 ∨ leading < -330 then 0
  else if 310 < leading then 1 / 0
  else Float.ofScientific s.digits (s.exponent < 0) s.exponent.natAbs

end CallForm.Decimal
