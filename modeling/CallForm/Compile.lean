import CallForm.Source.Parser
import CallForm.Target.OfSource
import CallForm.Target.Piece
import CallForm.Token.Reader

/-!
# Compiling

`compile` takes a text of s-expressions to its call form: the text is cut into tokens,
the tokens are read as a program, the program becomes a target tree, and the tree is
written as text.  The first step that fails decides the error.

`Compilation` keeps a text together with its outcome, and the `Note`s report which
steps finished.
-/

namespace CallForm

/-- The program that a text writes. -/
def readProgram (source : String) : Except CompileError Source.Program := do
  let tokens ← tokenize source
  Source.parse tokens

/-- The target tree of a program. -/
def Source.Program.target (p : Source.Program) : Except CompileError Target.Node :=
  Target.ofSource (Source.toNodes p.body)

/-- The call form of a text. -/
def compile (source : String) : Except CompileError String := do
  let program ← readProgram source
  let target ← program.target
  target.render

/-! ### Compilations as values -/

/-- A text and what compiling it gave. -/
structure Compilation where
  source : String
  outcome : Except CompileError String

namespace Compilation

/-- The compilation of a text. -/
def of (source : String) : Compilation :=
  ⟨source, compile source⟩

/-- Whether the text compiled. -/
def ok (c : Compilation) : Bool :=
  c.outcome.isOk

/-- The record of a compilation whose text is recorded as `input`. -/
def record (c : Compilation) (input : Json) : Json :=
  .object [("input", input), ("ok", .bool c.ok),
    match c.outcome with
    | .ok output => ("output", .string output)
    | .error e => ("error", e.toJson)]

/-- The record of a compilation. -/
def toJson (c : Compilation) : Json :=
  c.record (.string c.source)

end Compilation

/-! ### Notes on the progress -/

/-- A step that finished, with what it counted. -/
inductive Note where
  | tokenized (characters tokens : Nat)
  | parsed (nodes : Nat)
  | transformed (statements : Nat)
  | generated (characters : Nat)
  | compiled (statements : Nat)

namespace Note

/-- The line that reports a step. -/
def line : Note → String
  | tokenized characters tokens =>
    "DEBUG tinyc.lexer: tokenized " ++ decimal characters ++ " characters into " ++
      decimal tokens ++ " tokens"
  | parsed nodes => "DEBUG tinyc.parser: parsed " ++ decimal nodes ++ " top-level nodes"
  | transformed statements =>
    "DEBUG tinyc.transformer: transformed " ++ decimal statements ++ " top-level statements"
  | generated characters =>
    "DEBUG tinyc.codegen: generated " ++ decimal characters ++ " characters of output"
  | compiled statements =>
    "DEBUG tinyc.compiler: compiled " ++ decimal statements ++ " top-level statements"

/-- The note on cutting a text into tokens. -/
def ofTokenize (source : String) : List Note :=
  match tokenize source with
  | .ok tokens => [tokenized source.length tokens.length]
  | .error _ => []

/-- The notes on reading a text as a program. -/
def ofRead (source : String) : List Note :=
  ofTokenize source ++
    match readProgram source with
    | .ok program => [parsed program.body.length]
    | .error _ => []

/-- The notes on compiling a text. -/
def ofCompile (source : String) : List Note :=
  ofRead source ++
    match readProgram source with
    | .error _ => []
    | .ok program =>
      let statements := program.body.length
      match program.target with
      | .error _ => []
      | .ok target =>
        match target.render with
        | .error _ => [transformed statements]
        | .ok output =>
          [transformed statements, generated output.length, compiled statements]

end Note

end CallForm
