import CallForm.Decimal.Integer
import CallForm.Json.Quote

/-!
# JSON

`Json` is the type of JSON values.  A number that is written with a fraction or an
exponent is kept as its decimal digits and exponent, so that no rounding is decided
here, and the three words for numbers beyond the reals are values too.  The fields of
an object keep their order.

`Json.text` writes a value in ASCII, on one line or on several as its `Layout` says.
-/

namespace CallForm

/-- A JSON value. -/
inductive Json where
  | null
  | bool (b : Bool)
  | int (n : Int)
  /-- The number `digits * 10 ^ exponent`, or its negative. -/
  | real (negative : Bool) (digits : Nat) (exponent : Int)
  | nan
  | infinity (negative : Bool)
  | string (text : List Text.CodePoint)
  | array (items : List Json)
  | object (fields : List (List Text.CodePoint × Json))

namespace Json

/-- How the items of arrays and objects are set out. -/
inductive Layout where
  /-- All on one line. -/
  | oneLine
  /-- Each on a line of its own, indented by `width` spaces for each level. -/
  | lines (width : Nat)

/-- The layout for an optional width of the indent; a negative width indents by
nothing. -/
def Layout.ofIndent : Option Int → Layout
  | none => oneLine
  | some width => lines width.toNat

/-- The line break that stands before an item at the given depth. -/
def Layout.lineBreak (depth : Nat) : Layout → List Char
  | oneLine => []
  | lines width => '\n' :: List.replicate (width * depth) ' '

/-- What stands between two items at the given depth. -/
def Layout.separator (depth : Nat) : Layout → List Char
  | oneLine => [',', ' ']
  | lines width => ',' :: (lines width).lineBreak depth

mutual

/-- The characters of a value that stands at the given depth, in front of `rest`. -/
def write (layout : Layout) (depth : Nat) : Json → List Char → List Char
  | null, rest => "null".toList ++ rest
  | bool b, rest => (if b then "true" else "false").toList ++ rest
  | int n, rest => decimalChars n ++ rest
  | real negative ds exponent, rest =>
    (if negative then ['-'] else []) ++ digits ds ++ 'e' :: decimalChars exponent ++ rest
  | nan, rest => "NaN".toList ++ rest
  | infinity negative, rest => (if negative then "-Infinity" else "Infinity").toList ++ rest
  | string text, rest => quote .ascii text ++ rest
  | array [], rest => '[' :: ']' :: rest
  | array (item :: items), rest =>
    '[' :: layout.lineBreak (depth + 1) ++
      write layout (depth + 1) item
        (writeItems layout (depth + 1) items (layout.lineBreak depth ++ ']' :: rest))
  | object [], rest => '\x7b' :: '\x7d' :: rest
  | object ((name, value) :: fields), rest =>
    '\x7b' :: layout.lineBreak (depth + 1) ++ quote .ascii name ++ ':' :: ' ' ::
      write layout (depth + 1) value
        (writeFields layout (depth + 1) fields (layout.lineBreak depth ++ '\x7d' :: rest))

/-- The characters of the items after the first, in front of `rest`. -/
def writeItems (layout : Layout) (depth : Nat) : List Json → List Char → List Char
  | [], rest => rest
  | item :: items, rest =>
    layout.separator depth ++ write layout depth item (writeItems layout depth items rest)

/-- The characters of the fields after the first, in front of `rest`. -/
def writeFields (layout : Layout) (depth : Nat) :
    List (List Text.CodePoint × Json) → List Char → List Char
  | [], rest => rest
  | (name, value) :: fields, rest =>
    layout.separator depth ++ quote .ascii name ++ ':' :: ' ' ::
      write layout depth value (writeFields layout depth fields rest)

end

/-- A field of an object: its name and its value. -/
abbrev Field := List Text.CodePoint × Json

/-- The text of a value. -/
def text (layout : Layout) (value : Json) : String :=
  String.ofList (value.write layout 0 [])

/-- The value of the last field with the given name, if the value is an object that
has one. -/
def field? (name : String) : Json → Option Json
  | object fields => (fields.reverse.find? (·.1 = Text.ofString name)).map (·.2)
  | _ => none

end Json

end CallForm
