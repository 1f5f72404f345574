import CallForm.Error
import CallForm.Outcome
import CallForm.Token
import CallForm.Token.Lexeme

/-!
# Reading tokens

`tokenize` cuts a text into tokens: blanks are skipped, and each lexeme is taken as
long as it can be.  The first character that begins no lexeme stops it, and so does a
string without a closing quote.

A `Reader` is a text with a cursor that can also be moved and read from step by step.
-/

namespace CallForm

open Text

/-- The tokens of the text `cs`, whose first character has position `pos`. -/
def tokensFrom (pos : Nat) : List Char → Outcome CompileError (List Token)
  | [] => .success [] pos
  | c :: cs =>
    if isBlank c then tokensFrom (pos + 1) cs
    else if c = '(' ∨ c = ')' then
      (tokensFrom (pos + 1) cs).map (⟨.paren, String.singleton c⟩ :: ·)
    else if isLetter c then
      let more := cs.takeWhile isNameChar
      (tokensFrom (pos + 1 + more.length) (cs.drop more.length)).map
        (⟨.name, String.ofList (c :: more)⟩ :: ·)
    else if c.isDigit then
      let more := cs.takeWhile isNumberChar
      (tokensFrom (pos + 1 + more.length) (cs.drop more.length)).map
        (⟨.number, String.ofList (c :: more)⟩ :: ·)
    else if c = '"' then
      match h : stringBody? cs with
      | none => .failure .unexpectedEnd (pos + 1 + cs.length)
      | some (value, rest) =>
        (tokensFrom (pos + 1 + (cs.length - rest.length)) rest).map
          (⟨.string, String.ofList value⟩ :: ·)
    else .failure (.invalidCharacter (String.singleton c) pos) pos
termination_by cs => cs.length
decreasing_by
  · simp
  · simp
  · simp only [List.length_cons, List.length_drop]
    omega
  · simp only [List.length_cons, List.length_drop]
    omega
  · have := length_of_stringBody? h
    simp only [List.length_cons]
    omega

/-- The tokens of a text. -/
def tokenize (source : String) : Except CompileError (List Token) :=
  (tokensFrom 0 source.toList).result

/-! ### Step by step -/

/-- A text with a cursor, which may also lie beyond the end of the text. -/
structure Reader where
  source : List Char
  cursor : Nat

/-- Why a step of a reader fails. -/
inductive ReadError where
  /-- There is no character at the cursor. -/
  | pastEnd
  /-- The text does not go on as a token. -/
  | stopped (cause : CompileError)

namespace Reader

/-- The text from the cursor on. -/
def rest (r : Reader) : List Char :=
  r.source.drop r.cursor

/-- The character at the cursor, if there is one; the cursor stays. -/
def peek (r : Reader) : Outcome ReadError (Option Char) :=
  .success r.rest.head? r.cursor

/-- Takes the character at the cursor. -/
def advance (r : Reader) : Outcome ReadError Char :=
  match r.rest with
  | [] => .failure .pastEnd r.cursor
  | c :: _ => .success c (r.cursor + 1)

/-- Takes the letters and underscores at the cursor as a name, which may be empty. -/
def name (r : Reader) : Outcome ReadError Token :=
  let text := r.rest.takeWhile isNameChar
  .success ⟨.name, String.ofList text⟩ (r.cursor + text.length)

/-- Takes the digits and points at the cursor as a number, which may be empty. -/
def number (r : Reader) : Outcome ReadError Token :=
  let text := r.rest.takeWhile isNumberChar
  .success ⟨.number, String.ofList text⟩ (r.cursor + text.length)

/-- Takes a string, whose opening quote is whatever character stands at the cursor. -/
def string (r : Reader) : Outcome ReadError Token :=
  match r.rest with
  | [] => .failure .pastEnd r.cursor
  | _ :: body =>
    match stringBody? body with
    | none => .failure (.stopped .unexpectedEnd) (r.cursor + 1 + body.length)
    | some (value, after) =>
      .success ⟨.string, String.ofList value⟩ (r.cursor + 1 + (body.length - after.length))

/-- Takes all the tokens from the cursor on. -/
def tokens (r : Reader) : Outcome ReadError (List Token) :=
  (tokensFrom r.cursor r.rest).mapError .stopped

end Reader

end CallForm
