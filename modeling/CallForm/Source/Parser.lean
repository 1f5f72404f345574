import CallForm.Error
import CallForm.Outcome
import CallForm.Source.Program

/-!
# Reading programs

`parse` reads a list of tokens as a program, from left to right with a stack of the
calls that are open.  Only the kinds of tokens matter, and of a parenthesis its text.
The first token that cannot stand where it does stops it, and so does the end of the
tokens while a call is open.

A `Parser` is a list of tokens with a cursor that can also be read from step by step.
-/

namespace CallForm.Source

/-- A call that is open: its name and its parameters so far, the latest first. -/
structure OpenCall where
  name : String
  params : List Expr

/-- What has been read: the finished expressions of the body, the latest first, and the
open calls, the innermost first. -/
structure Stack where
  body : List Expr
  calls : List OpenCall

namespace Stack

/-- Nothing read yet. -/
def empty : Stack := ⟨[], []⟩

/-- A finished expression goes into the innermost open call, or into the body. -/
def push (e : Expr) : Stack → Stack
  | ⟨body, []⟩ => ⟨e :: body, []⟩
  | ⟨body, c :: outer⟩ => ⟨body, ⟨c.name, e :: c.params⟩ :: outer⟩

/-- A call with the given name is opened. -/
def openCall (name : String) (s : Stack) : Stack :=
  ⟨s.body, ⟨name, []⟩ :: s.calls⟩

/-- The innermost open call is finished, if a call is open. -/
def closeCall? : Stack → Option Stack
  | ⟨_, []⟩ => none
  | ⟨body, c :: outer⟩ => some (push (.call c.name c.params.reverse) ⟨body, outer⟩)

/-- The program that has been read, if no call is open. -/
def program? : Stack → Option Program
  | ⟨body, []⟩ => some ⟨body.reverse⟩
  | ⟨_, _ :: _⟩ => none

end Stack

/-- The program that the tokens from position `pos` on complete, after what has been
read. -/
def programFrom (pos : Nat) (read : Stack) : List Token → Outcome CompileError Program
  | [] =>
    match read.program? with
    | some p => .success p pos
    | none => .failure .unexpectedEnd pos
  | t :: ts =>
    match t.kind with
    | .number => programFrom (pos + 1) (read.push (.number t.text)) ts
    | .string => programFrom (pos + 1) (read.push (.string t.text)) ts
    | .name => .failure (.unexpectedToken t.text pos) pos
    | .paren =>
      if t.text = "(" then
        match ts with
        | [] => .failure .unexpectedEnd (pos + 1)
        | n :: rest =>
          if n.kind = .name then programFrom (pos + 2) (read.openCall n.text) rest
          else .failure (.unexpectedToken n.text (pos + 1)) (pos + 1)
      else if t.text = ")" then
        match read.closeCall? with
        | some closed => programFrom (pos + 1) closed ts
        | none => .failure (.unexpectedToken t.text pos) pos
      else .failure (.unexpectedToken t.text pos) pos

/-- The program that a list of tokens writes. -/
def parse (tokens : List Token) : Except CompileError Program :=
  (programFrom 0 .empty tokens).result

/-! ### Step by step -/

/-- A list of tokens with a cursor, which may also lie beyond its end. -/
structure Parser where
  tokens : List Token
  cursor : Nat

namespace Parser

/-- The tokens from the cursor on. -/
def rest (p : Parser) : List Token :=
  p.tokens.drop p.cursor

/-- Whether no token is left; the cursor stays. -/
def atEnd (p : Parser) : Outcome CompileError Bool :=
  .success p.rest.isEmpty p.cursor

/-- The token at the cursor; the cursor stays. -/
def current (p : Parser) : Outcome CompileError Token :=
  match p.rest with
  | [] => .failure .unexpectedEnd p.cursor
  | t :: _ => .success t p.cursor

/-- Whether the token at the cursor is the parenthesis with the given text; the cursor
stays. -/
def isParen (text : String) (p : Parser) : Outcome CompileError Bool :=
  p.current.map (·.isParen text)

/-- Takes the token at the cursor. -/
def advance (p : Parser) : Outcome CompileError Token :=
  match p.rest with
  | [] => .failure .unexpectedEnd p.cursor
  | t :: _ => .success t (p.cursor + 1)

/-- Takes the token at the cursor as an opening parenthesis, whatever it is, and the
name behind it, and gives the call of that name without parameters. -/
def openCall (p : Parser) : Outcome CompileError Expr :=
  match p.rest with
  | [] => .failure .unexpectedEnd p.cursor
  | [_] => .failure .unexpectedEnd (p.cursor + 1)
  | _ :: n :: _ =>
    if n.kind = .name then .success (.call n.text []) (p.cursor + 2)
    else .failure (.unexpectedToken n.text (p.cursor + 1)) (p.cursor + 1)

/-- Takes all the tokens from the cursor on as a program. -/
def program (p : Parser) : Outcome CompileError Program :=
  programFrom p.cursor .empty p.rest

end Parser

end CallForm.Source
