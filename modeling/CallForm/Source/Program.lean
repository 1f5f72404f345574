import CallForm.Token

/-!
# Source programs

An expression is a number, a string, or the call of a name with parameters; a program
is a list of expressions.  `Program.tokens` writes a program as the tokens it is read
from.
-/

namespace CallForm.Source

/-- An expression.  The texts of numbers, strings and names are arbitrary. -/
inductive Expr where
  | number (text : String)
  | string (text : String)
  | call (name : String) (params : List Expr)

/-- A program: its expressions in order. -/
structure Program where
  body : List Expr

mutual

/-- The tokens of an expression. -/
def Expr.tokens : Expr → List Token
  | .number text => [⟨.number, text⟩]
  | .string text => [⟨.string, text⟩]
  | .call name params => ⟨.paren, "("⟩ :: ⟨.name, name⟩ :: tokensOf params ++ [⟨.paren, ")"⟩]

/-- The tokens of expressions that follow one another. -/
def tokensOf : List Expr → List Token
  | [] => []
  | e :: es => e.tokens ++ tokensOf es

end

/-- The tokens of a program. -/
def Program.tokens (p : Program) : List Token :=
  tokensOf p.body

end CallForm.Source
