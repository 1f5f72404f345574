import CallForm.Command
import CallForm.CommandLine.Event

/-!
# Invocations

The arguments of the program are options for all commands, then the word for a command,
then the options of the command and the path of a file.  `Invocation.ofArguments` reads
them as an `Invocation`, or says why they stop short of one: a text of help or the
version is asked for, or the arguments are misused.

What is asked for first counts, and of an option that is given more than once, the last
value counts.
-/

namespace CallForm.CommandLine

/-- The options for all commands. -/
inductive ProgramOption where
  | help
  | version
  | config
  | logLevel
  | verbose
  | format
  deriving DecidableEq

/-- The options of a command. -/
inductive CommandOption where
  | help
  | expr
  | format
  deriving DecidableEq

/-- The grammar of the options for all commands. -/
def programGrammar : Grammar ProgramOption where
  spellings :=
    [("-h", .help), ("--help", .help), ("--version", .version), ("--config", .config),
     ("--log-level", .logLevel), ("-v", .verbose), ("--verbose", .verbose),
     ("--format", .format)]
  takesValue
    | .help | .version | .verbose => false
    | .config | .logLevel | .format => true

/-- The grammar of the options of a command. -/
def commandGrammar : Grammar CommandOption where
  spellings :=
    [("-h", .help), ("--help", .help), ("-e", .expr), ("--expr", .expr), ("--format", .format)]
  takesValue
    | .help => false
    | .expr | .format => true

/-- What the options for all commands say. -/
structure Settings where
  config : Option Given
  logLevel : Option String
  verbose : Bool
  format : Option Format

/-- What the arguments of a command say: an inline source, a file that holds the source,
and a format. -/
structure Arguments where
  expr : Option Given
  file : Option String
  format : Option Format

/-- A reading of the arguments of the program; the command may be absent. -/
structure Invocation where
  settings : Settings
  command : Option (Command × Arguments)

/-- Why arguments stop short of an invocation.  Help and misuse belong to a command or
to the program as a whole. -/
inductive Stop where
  | help (command : Option Command)
  | version
  | misuse (command : Option Command) (cause : Misuse)

/-- The format with the given word, as a value of the format option. -/
def formatOf (command : Option Command) (word : String) : Except Stop Format :=
  match Format.ofWord? word with
  | some f => .ok f
  | none => .error (.misuse command (.invalidChoice "--format" word (Format.all.map Format.word)))

/-! ### The arguments of a command -/

/-- The arguments of a command after one more event, with the arguments that nothing has
taken. -/
def Arguments.step (c : Command) :
    Arguments × List String → Event CommandOption → Except Stop (Arguments × List String)
  | _, .flag _ => .error (.help (some c))
  | (a, strays), .setting .format word => do
    let f ← formatOf (some c) word
    return ({ a with format := some f }, strays)
  | (a, strays), .setting _ text => .ok ({ a with expr := some (.text text) }, strays)
  | (a, strays), .emptied .format => .ok ({ a with format := none }, strays)
  | (a, strays), .emptied _ => .ok ({ a with expr := some .nothing }, strays)
  | (a, strays), .operand path => .ok ({ a with file := some path }, strays)
  | (a, strays), .remainder first rest => .ok (a, strays ++ first :: rest)
  | (a, strays), .stray argument => .ok (a, strays ++ [argument])
  | _, .misuse cause => .error (.misuse (some c) cause)

/-- The arguments of a command, with those that nothing takes. -/
def Arguments.read (c : Command) (arguments : List String) :
    Except Stop (Arguments × List String) :=
  (commandGrammar.events .one arguments).foldlM (Arguments.step c) (⟨none, none, none⟩, [])

/-! ### The arguments of the program -/

/-- An invocation after one more event, with the arguments that nothing has taken. -/
def Invocation.step :
    Invocation × List String → Event ProgramOption → Except Stop (Invocation × List String)
  | _, .flag .version => .error .version
  | (i, strays), .flag .verbose =>
    .ok ({ i with settings := { i.settings with verbose := true } }, strays)
  | _, .flag _ => .error (.help none)
  | (i, strays), .setting .config path =>
    .ok ({ i with settings := { i.settings with config := some (.text path) } }, strays)
  | (i, strays), .emptied .config =>
    .ok ({ i with settings := { i.settings with config := some .nothing } }, strays)
  | (i, strays), .setting .logLevel word =>
    .ok ({ i with settings := { i.settings with logLevel := some word } }, strays)
  | (i, strays), .emptied .logLevel =>
    .ok ({ i with settings := { i.settings with logLevel := none } }, strays)
  | (i, strays), .setting _ word => do
    let f ← formatOf none word
    return ({ i with settings := { i.settings with format := some f } }, strays)
  | (i, strays), .emptied _ =>
    .ok ({ i with settings := { i.settings with format := none } }, strays)
  | (i, strays), .remainder word rest =>
    match Command.ofWord? word with
    | none =>
      .error (.misuse none (.invalidChoice "command" word (Command.all.map Command.word)))
    | some c => do
      let (arguments, more) ← Arguments.read c rest
      return ({ i with command := some (c, arguments) }, strays ++ more)
  | (i, strays), .operand argument | (i, strays), .stray argument =>
    .ok (i, strays ++ [argument])
  | _, .misuse cause => .error (.misuse none cause)

/-- The invocation that the arguments of the program make. -/
def Invocation.ofArguments (arguments : List String) : Except Stop Invocation := do
  let (invocation, strays) ← (programGrammar.events .remainder arguments).foldlM
    Invocation.step (⟨⟨none, none, false, none⟩, none⟩, [])
  if strays.isEmpty then return invocation else throw (.misuse none (.strays strays))

end CallForm.CommandLine
