import CallForm.Compile
import CallForm.Config
import CallForm.Given
import CallForm.Source.Outline

/-!
# Commands

A command works on a source text and reports: with a status, with a text on the output,
and with a text among the messages.  There are three of them: compiling the source,
listing its tokens, and outlining its program.  Each reports as text or as JSON.  The record of
a program may be too deep for a report as JSON; the records of errors, of compilations and of
tokens nest to a fixed small depth and can always be written.
-/

namespace CallForm

/-- The commands. -/
inductive Command where
  | compile
  | tokens
  | ast
  deriving DecidableEq

/-- What a command reports. -/
structure Report where
  /-- Zero if the command succeeded. -/
  status : Nat
  output : String
  messages : String
  deriving DecidableEq

namespace Report

/-- The report of a success, with a line for the output. -/
def success (line : String) : Report :=
  ⟨0, line ++ "\n", ""⟩

/-- The report of a failure: a message, or in JSON a record on the output. -/
def failure (format : Format) (message : String) (record : Json) (layout : Json.Layout) :
    Report :=
  match format with
  | .text => ⟨1, "", "error: " ++ message ++ "\n"⟩
  | .json => ⟨1, record.text layout ++ "\n", ""⟩

/-- The report of a text that does not compile. -/
def ofError (format : Format) (e : CompileError) : Report :=
  failure format e.message e.toJson (.lines 2)

end Report

namespace Command

/-- All commands. -/
def all : List Command :=
  [compile, tokens, ast]

/-- The word for a command. -/
def word : Command → String
  | compile => "compile"
  | tokens => "tokens"
  | ast => "ast"

/-- The command with the given word. -/
def ofWord? (word : String) : Option Command :=
  all.find? fun c => c.word = word

/-- The report on compiling a source.  As text, the source is echoed first if asked
for. -/
def reportCompile (format : Format) (echo : Bool) (source : Given) : Report :=
  let c := Compilation.of source.toText
  match format with
  | .json => ⟨if c.ok then 0 else 1, (c.record source.toJson).text (.lines 2) ++ "\n", ""⟩
  | .text =>
    let echoed := if echo then "Input:  " ++ source.shown ++ "\n" else ""
    match c.outcome with
    | .ok output => ⟨0, echoed ++ "Output: " ++ output ++ "\n", ""⟩
    | .error e => ⟨1, echoed, "error: " ++ e.message ++ "\n"⟩

/-- The report on the tokens of a source. -/
def reportTokens (format : Format) (source : String) : Report :=
  match tokenize source, format with
  | .error e, _ => .ofError format e
  | .ok ts, .json => .success ((Json.array (ts.map Token.toJson)).text (.lines 2))
  | .ok ts, .text => ⟨0, String.join (ts.map fun t => t.line ++ "\n"), ""⟩

/-- The report on the program of a source.  As JSON, there is none if the record of the
program is deeper than the given depth. -/
def reportProgram (depth : Nat) (format : Format) (source : String) :
    Except RecordError Report :=
  match readProgram source, format with
  | .error e, _ => .ok (.ofError format e)
  | .ok p, .json => do
    let record ← p.toNode.toJson depth
    return .success (record.text (.lines 2))
  | .ok p, .text => .ok (.success p.outline)

/-- The report of a command on a source, where records may be as deep as the given depth. -/
def report (c : Command) (depth : Nat) (format : Format) (echo : Bool) (source : Given) :
    Except RecordError Report :=
  match c with
  | compile => .ok (reportCompile format echo source)
  | tokens => .ok (reportTokens format source.toText)
  | ast => reportProgram depth format source.toText

/-- The notes that a command leaves in the log. -/
def notes : Command → String → List Note
  | compile => Note.ofCompile
  | tokens => Note.ofTokenize
  | ast => Note.ofRead

end Command

end CallForm
