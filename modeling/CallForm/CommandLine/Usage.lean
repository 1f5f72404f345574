import CallForm.CommandLine.Invocation

/-!
# Texts about the usage

The usage and the help of the program and of its commands, and what is answered to
arguments that stop short of an invocation.
-/

namespace CallForm.CommandLine

/-- The line that names the version. -/
def versionLine : String :=
  "tinyc 0.1.0\n"

/-- The formats to choose from, in braces. -/
def formatChoices : String :=
  "\x7b" ++ ",".intercalate (Format.all.map Format.word) ++ "\x7d"

/-- The commands to choose from, in braces. -/
def commandChoices : String :=
  "\x7b" ++ ",".intercalate (Command.all.map Command.word) ++ "\x7d"

/-- The name of the program, with the word for a command. -/
def programName : Option Command → String
  | none => "tinyc"
  | some c => "tinyc " ++ c.word

/-- The usage of the program or of a command. -/
def usage : Option Command → String
  | none =>
    "usage: tinyc [-h] [--version] [--config CONFIG] [--log-level LOG_LEVEL] [-v]\n" ++
    "             [--format " ++ formatChoices ++ "]\n" ++
    "             " ++ commandChoices ++ " ...\n"
  | some c =>
    "usage: " ++ programName (some c) ++ " [-h] [-e EXPR] [--format " ++ formatChoices ++
    "] [file]\n"

/-- The help on the program or on a command. -/
def help : Option Command → String
  | none =>
    usage none ++
    "\n" ++
    "tinyc — s-expression to call-syntax compiler\n" ++
    "\n" ++
    "positional arguments:\n" ++
    "  " ++ commandChoices ++ "  Available commands\n" ++
    "    compile             Compile source to call syntax\n" ++
    "    tokens              Print the token list\n" ++
    "    ast                 Print the source AST\n" ++
    "\n" ++
    "options:\n" ++
    "  -h, --help            show this help message and exit\n" ++
    "  --version             show program's version number and exit\n" ++
    "  --config CONFIG       Path to a .tinycrc.yml / .tinycrc.json file\n" ++
    "  --log-level LOG_LEVEL\n" ++
    "                        Logging level (DEBUG, INFO, WARNING, ...)\n" ++
    "  -v, --verbose         Shorthand for --log-level DEBUG\n" ++
    "  --format " ++ formatChoices ++ "  Output format for every command; a command's own\n" ++
    "                        --format wins\n"
  | some c =>
    usage (some c) ++
    "\n" ++
    "positional arguments:\n" ++
    "  file                  Source file\n" ++
    "\n" ++
    "options:\n" ++
    "  -h, --help            show this help message and exit\n" ++
    "  -e EXPR, --expr EXPR  Inline source to use instead of a file\n" ++
    "  --format " ++ formatChoices ++ "  Output format (default: from config, else text)\n"

/-- The report on arguments that stop short of an invocation. -/
def Stop.report : Stop → Report
  | help c => ⟨0, CommandLine.help c, ""⟩
  | version => ⟨0, versionLine, ""⟩
  | misuse c cause =>
    ⟨2, "", usage c ++ programName c ++ ": error: " ++ cause.message ++ "\n"⟩

end CallForm.CommandLine
