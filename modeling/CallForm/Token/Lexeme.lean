import CallForm.Text.Blank
import CallForm.Text.Letter

/-!
# Lexemes

How names, numbers and strings are written.  A name is a letter followed by letters
and underscores, a number is a digit followed by digits and points, and a string
stands between double quotes, where a backslash gives the next character a meaning of
its own.
-/

namespace CallForm

open Text

/-- Whether a character may stand in a name after its first letter. -/
def isNameChar (c : Char) : Bool :=
  isLetter c || c = '_'

/-- Whether a character may stand in a number after its first digit. -/
def isNumberChar (c : Char) : Bool :=
  c.isDigit || c = '.'

/-- What a backslash and `c` denote in a string: a line feed, a tabulator, a carriage
return, a backslash or a quote, and themselves if `c` is any other character. -/
def unescape (c : Char) : List Char :=
  match c with
  | 'n' => ['\n']
  | 't' => ['\t']
  | 'r' => ['\r']
  | '\\' => ['\\']
  | '"' => ['"']
  | c => ['\\', c]

/-- What a string denotes and what follows its closing quote, read from after the
opening quote; nothing if no closing quote comes. -/
def stringBody? : List Char → Option (List Char × List Char)
  | [] => none
  | '"' :: rest => some ([], rest)
  | ['\\'] => none
  | '\\' :: c :: rest => (stringBody? rest).map fun (value, after) => (unescape c ++ value, after)
  | c :: rest => (stringBody? rest).map fun (value, after) => (c :: value, after)

/-- A string takes at least its closing quote. -/
theorem length_of_stringBody?
    {cs value rest : List Char} (h : stringBody? cs = some (value, rest)) :
  rest.length < cs.length
  := by
  fun_induction stringBody? cs generalizing value with
  | case1 => simp at h
  | case2 => simp_all
  | case3 => simp at h
  | case4 c tail ih =>
    obtain ⟨⟨v, r⟩, hr, he⟩ := Option.map_eq_some_iff.1 h
    obtain ⟨-, rfl⟩ := Prod.mk.inj he
    have := ih hr
    simp only [List.length_cons]
    omega
  | case5 c tail _ _ _ ih =>
    obtain ⟨⟨v, r⟩, hr, he⟩ := Option.map_eq_some_iff.1 h
    obtain ⟨-, rfl⟩ := Prod.mk.inj he
    have := ih hr
    simp only [List.length_cons]
    omega

end CallForm
