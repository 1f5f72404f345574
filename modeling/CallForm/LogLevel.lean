import CallForm.Text.Quoted
import CallForm.Text.UpperCase

/-!
# Log levels

The level of the log is given by a word, in letters of either case.  Of all levels only
the lowest two let notes on the progress through.  A word that is no level means the
level of warnings, but for two words that name formats of the log and are refused.
-/

namespace CallForm

/-- The levels of the log. -/
inductive LogLevel where
  | notSet
  | debug
  | info
  | warning
  | error
  | critical
  deriving DecidableEq

/-- A word for a format of the log in the place of a level. -/
inductive LogLevelError where
  /-- The format of a record. -/
  | format
  /-- The styles in which formats are written. -/
  | styles
  deriving DecidableEq

/-- The format of a record in the log. -/
def recordFormat : String :=
  "%(levelname)s:%(name)s:%(message)s"

/-- The styles of writing the format of a record: the mark of a field in the style, the
name of the style, and the format written in it. -/
def recordStyles : List (String × String × String) :=
  [("%", "PercentStyle", recordFormat),
   ("\x7b", "StrFormatStyle", "\x7blevelname\x7d:\x7bname\x7d:\x7bmessage\x7d"),
   ("$", "StringTemplateStyle", "$\x7blevelname\x7d:$\x7bname\x7d:$\x7bmessage\x7d")]

/-- The message about a word that is refused. -/
def LogLevelError.message : LogLevelError → String
  | .format => "Unknown level: " ++ Text.quoted recordFormat
  | .styles =>
    "Level not an integer or a valid string: \x7b" ++
      ", ".intercalate (recordStyles.map fun (mark, name, written) =>
        Text.quoted mark ++ ": (<class 'logging." ++ name ++ "'>, " ++ Text.quoted written ++ ")")
      ++ "\x7d"

namespace LogLevel

/-- The words for levels, in capitals. -/
def words : List (String × LogLevel) :=
  [("NOTSET", notSet), ("DEBUG", debug), ("INFO", info), ("WARN", warning),
   ("WARNING", warning), ("ERROR", error), ("FATAL", critical), ("CRITICAL", critical)]

/-- The level that a word means. -/
def ofWord (word : List Text.CodePoint) : Except LogLevelError LogLevel :=
  match Text.toString? (Text.upperCase word) with
  | none => .ok warning
  | some "BASIC_FORMAT" => .error .format
  | some "_STYLES" => .error .styles
  | some word => .ok ((words.lookup word).getD warning)

/-- Whether notes on the progress are shown. -/
def showsNotes : LogLevel → Bool
  | notSet | debug => true
  | _ => false

end LogLevel

end CallForm
