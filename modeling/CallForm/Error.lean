import CallForm.Json

/-!
# Why a text does not compile

`CompileError` lists the causes.  The wording of each is `CompileError.message`, and
`CompileError.toJson` is the record that reports it: the kind of cause, the message,
and the details that locate it where there are any.
-/

namespace CallForm

/-- Why a text or a tree does not compile.  Positions of characters count characters
from the start of the text, positions of tokens count tokens. -/
inductive CompileError where
  /-- A character that begins no lexeme. -/
  | invalidCharacter (character : String) (position : Int)
  /-- A token that cannot stand where it does. -/
  | unexpectedToken (token : String) (position : Int)
  /-- The input ends inside a string or a call. -/
  | unexpectedEnd
  /-- Any other failure to cut the text into tokens. -/
  | tokenizing (reason : String)
  /-- Any other failure to read the tokens as a program. -/
  | parsing (reason : String)
  /-- A failure to build the target tree. -/
  | transforming (reason : String)
  /-- A failure to write the target tree as text. -/
  | generating (reason : String)
  deriving DecidableEq

namespace CompileError

/-- The word for the kind of a cause. -/
def kind : CompileError → String
  | invalidCharacter .. => "invalid_character"
  | unexpectedToken .. => "unexpected_token"
  | unexpectedEnd => "unexpected_eof"
  | tokenizing _ => "tokenizer_error"
  | parsing _ => "parser_error"
  | transforming _ => "transformer_error"
  | generating _ => "codegen_error"

/-- The message for a cause. -/
def message : CompileError → String
  | invalidCharacter c n => "Invalid character: '" ++ c ++ "' at position " ++ decimal n
  | unexpectedToken t n => "Unexpected token: " ++ t ++ " at position " ++ decimal n
  | unexpectedEnd => "Unexpected end of input"
  | tokenizing reason => "Tokenizer error: " ++ reason
  | parsing reason => "Parser error: " ++ reason
  | transforming reason => "Transformer error: " ++ reason
  | generating reason => "Code generation error: " ++ reason

/-- What locates a cause: the offending text and its position. -/
def details : CompileError → List Json.Field
  | invalidCharacter c n => [("character", .string c), ("position", .int n)]
  | unexpectedToken t n => [("token", .string t), ("position", .int n)]
  | _ => []

/-- The record of a cause; `details` is left out where there are none. -/
def toJson (e : CompileError) : Json :=
  .object (("kind", .string e.kind) :: ("message", .string e.message) ::
    match e.details with
    | [] => []
    | located => [("details", .object located)])

end CompileError

end CallForm
