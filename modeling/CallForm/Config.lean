import CallForm.Text.LowerCase
import CallForm.Text.UpperCase
import CallForm.Value

/-!
# Configurations

The settings of the command line that a file may change: the format of the output, the
level of the log, and whether the source is echoed.
-/

namespace CallForm

/-- The formats of the output. -/
inductive Format where
  | text
  | json
  deriving DecidableEq

namespace Format

/-- All formats. -/
def all : List Format :=
  [text, json]

/-- The word for a format. -/
def word : Format → String
  | text => "text"
  | json => "json"

/-- The format with the given word. -/
def ofWord? (word : String) : Option Format :=
  all.find? fun f => f.word = word

end Format

/-- A configuration. -/
structure Config where
  format : Format
  logLevel : List Text.CodePoint
  echoInput : Bool

namespace Config

/-- The configuration that holds where no file says otherwise. -/
def default : Config :=
  ⟨.text, "WARNING", true⟩

/-- The format that a text names, in letters of either case; a text that names none means
the text format. -/
def formatOf (text : List Text.CodePoint) : Format :=
  ((Text.toString? (Text.lowerCase text)).bind Format.ofWord?).getD .text

/-- The keys of the settings. -/
def keys : List String :=
  ["format", "log_level", "echo_input"]

/-- The configuration that a table of settings describes, with values shown up to the given
depth; other keys are ignored. -/
def ofTable (depth : Nat) (entries : List (Value × Value)) : Except Value.TextError Config := do
  let format ← (Value.get? "format" entries).mapM (·.toText depth)
  let logLevel ← (Value.get? "log_level" entries).mapM (·.toText depth)
  return {
    format := (format.map formatOf).getD default.format
    logLevel := (logLevel.map Text.upperCase).getD default.logLevel
    echoInput := ((Value.get? "echo_input" entries).map Value.truth).getD default.echoInput }

end Config

end CallForm
