import CallForm.Calendar
import CallForm.Decimal.Limit
import CallForm.Decimal.Shortest
import CallForm.Depth
import CallForm.Json
import CallForm.Text.Quoted

/-!
# Values of settings

A file of settings holds values of several types, and the type of a value follows from
how it is written.  A value has a text (`Value.toText`) unless there is an integer in it
that is too long or it nests too deep, and every value counts as either true or false
(`Value.truth`).

The entries of a table have pairwise different keys and stand in the order in which
their keys first came.  So do the members of a set, unless they are natural numbers, which
stand in ascending order.
-/

namespace CallForm

/-- A value of a setting. -/
inductive Value where
  | null
  | bool (b : Bool)
  | int (n : Int)
  | float (x : Float)
  | text (s : List Text.CodePoint)
  | bytes (bs : List UInt8)
  | date (d : Date)
  | dateTime (t : DateTime)
  | list (items : List Value)
  | pair (first second : Value)
  | set (members : List Value)
  | table (entries : List (Value × Value))
  /-- A list, or a table, that holds this place of itself. -/
  | enclosing (isTable : Bool)

namespace Value

/-- Numbers below 10000000000000000 are written without an exponent, and so are those
from 0.0001 on. -/
def floatStyle : Decimal.Style :=
  ⟨-4, 15, 2, "inf", "nan"⟩

/-- How a byte is shown between the given quotes. -/
def shownByte (quote : Char) (b : UInt8) : List Char :=
  if b < 0x7F then Text.escaped quote (Char.ofNat b.toNat) else Text.codeEscape b.toNat

/-- Bytes as they are shown. -/
def shownBytes (bs : List UInt8) : String :=
  let quote := Text.quoteFor (bs.map fun b => .char (Char.ofNat b.toNat))
  String.ofList ('b' :: quote :: bs.flatMap (shownByte quote) ++ [quote])

mutual

/-- A value as it is shown inside a list or a table. -/
def shown : Value → String
  | null => "None"
  | bool b => if b then "True" else "False"
  | int n => decimal n
  | float x => floatStyle.text x
  | text s => Text.quoted s
  | bytes bs => shownBytes bs
  | date d => d.shown
  | dateTime t => t.shown
  | list items => "[" ++ ", ".intercalate (shownItems items) ++ "]"
  | pair first second => "(" ++ first.shown ++ ", " ++ second.shown ++ ")"
  | set [] => "set()"
  | set members => "\x7b" ++ ", ".intercalate (shownItems members) ++ "\x7d"
  | table entries => "\x7b" ++ ", ".intercalate (shownEntries entries) ++ "\x7d"
  | enclosing isTable => if isTable then "\x7b...\x7d" else "[...]"

/-- The items of a list as they are shown. -/
def shownItems : List Value → List String
  | [] => []
  | v :: vs => v.shown :: shownItems vs

/-- The entries of a table as they are shown. -/
def shownEntries : List (Value × Value) → List String
  | [] => []
  | (key, v) :: rest => (key.shown ++ ": " ++ v.shown) :: shownEntries rest

end

/-- Why a value has no text. -/
inductive TextError where
  | digits (error : TooManyDigits)
  | tooDeep
  deriving DecidableEq

/-- The message about a value without a text. -/
def TextError.message : TextError → String
  | digits error => error.message
  | tooDeep => TooDeep.value.message

mutual

/-- The first thing in a value that keeps it from being shown: an integer that is too long,
or a value inside others that is deeper than the given depth. -/
def obstacle? : Value → Nat → Option TextError
  | _, 0 => some .tooDeep
  | int n, _ + 1 => if isTooLong n then some (.digits ⟨none⟩) else none
  | list items, depth + 1 => obstacleIn? items depth
  | pair first second, depth + 1 => (first.obstacle? depth).or (second.obstacle? depth)
  | set members, depth + 1 => obstacleIn? members depth
  | table entries, depth + 1 => obstacleInEntries? entries depth
  | _, _ + 1 => none

/-- The first thing in several values that keeps them from being shown. -/
def obstacleIn? : List Value → Nat → Option TextError
  | [], _ => none
  | v :: vs, depth => (v.obstacle? depth).or (obstacleIn? vs depth)

/-- The first thing in the entries of a table that keeps them from being shown. -/
def obstacleInEntries? : List (Value × Value) → Nat → Option TextError
  | [], _ => none
  | (key, v) :: rest, depth =>
    ((key.obstacle? depth).or (v.obstacle? depth)).or (obstacleInEntries? rest depth)

end

/-- The text of a value.  A text, a date and a time are not shown but written as they are. -/
def toText (v : Value) (depth : Nat) : Except TextError (List Text.CodePoint) :=
  match v with
  | text s => .ok s
  | date d => .ok d.text
  | dateTime t => .ok t.text
  | v =>
    match v.obstacle? depth with
    | some e => .error e
    | none => .ok v.shown

/-- Whether a value counts as true: all but zero and what is empty or absent. -/
def truth : Value → Bool
  | null => false
  | bool b => b
  | int n => n ≠ 0
  | float x => x != 0
  | text s => !s.isEmpty
  | bytes bs => !bs.isEmpty
  | set members => !members.isEmpty
  | list items => !items.isEmpty
  | table entries => !entries.isEmpty
  | _ => true

/-- The number that a value is, if it is an integer or a truth value. -/
def integer? : Value → Option Int
  | bool b => some b.toNat
  | int n => some n
  | _ => none

/-- Whether two values are one key.  Numbers of different types are if they are equal;
collections are no keys. -/
def isSameKey (a b : Value) : Bool :=
  match a, b with
  | null, null => true
  | text s, text t => s = t
  | bytes bs, bytes cs => bs = cs
  | date d, date e => d = e
  | dateTime t, dateTime u => t.isSame u
  | float x, float y => x == y || x.isNaN && y.isNaN
  | float x, n => n.integer?.any fun i => Decimal.integer? x = some i
  | m, float y => m.integer?.any fun i => Decimal.integer? y = some i
  | m, n => m.integer?.any fun i => n.integer? = some i

/-- The entries with what belongs to a key replaced, or with the key added at the end. -/
def put (key : Value) (value : α) : List (Value × α) → List (Value × α)
  | [] => [(key, value)]
  | (k, v) :: rest =>
    if isSameKey k key then (k, value) :: rest else (k, v) :: put key value rest

/-- The table of a list of entries: of entries with one key, the last one counts. -/
def tableOf (entries : List (Value × α)) : List (Value × α) :=
  entries.foldl (fun done (key, value) => put key value done) []

/-- The natural number that a value is, if it is one. -/
def natural? : Value → Option Nat
  | int (.ofNat n) => some n
  | _ => none

/-- The set of the given members, which are pairwise different. -/
def setOf (members : List Value) : List Value :=
  match members.mapM natural? with
  | some ns => ns.mergeSort.map fun n : Nat => int n
  | none => members

/-- The value of a text key. -/
def get? (key : String) (entries : List (Value × Value)) : Option Value :=
  (entries.find? fun entry => isSameKey entry.1 (text key)).map (·.2)

mutual

/-- The value of a JSON value; a number with a fraction or an exponent is rounded. -/
def ofJson : Json → Value
  | .null => null
  | .bool b => bool b
  | .int n => int n
  | .real negative ds exponent =>
    let x := Decimal.nearest ⟨ds, exponent⟩
    float (if negative then -x else x)
  | .nan => float (0 / 0)
  | .infinity negative => float (if negative then -1 / 0 else 1 / 0)
  | .string s => text s
  | .array items => list (ofJsons items)
  | .object fields => table (tableOf (ofFields fields))

/-- The values of JSON values. -/
def ofJsons : List Json → List Value
  | [] => []
  | j :: js => ofJson j :: ofJsons js

/-- The entries of the fields of a JSON object. -/
def ofFields : List (List Text.CodePoint × Json) → List (Value × Value)
  | [] => []
  | (name, j) :: rest => (text name, ofJson j) :: ofFields rest

end

end Value

end CallForm
