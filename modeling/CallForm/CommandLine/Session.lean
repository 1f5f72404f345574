import CallForm.CommandLine.Usage
import CallForm.Config.Loading
import CallForm.LogLevel

/-!
# Sessions

`Session.run` is the program as a whole: from what it runs on, a file system and the arguments
to what the program says and how it ends.  It reads the arguments, loads the configuration, sets
the level of the log, obtains the source, and lets the command report on it.

Most of what goes wrong is reported with a status.  A `Fault` is what is not: an invalid
configuration or level, a place for the path of the configuration without one, a source that
cannot be read although it is there, or a program without a record.
-/

namespace CallForm.CommandLine

/-- What ends a session without a status. -/
inductive Fault where
  | config (error : Config.LoadError)
  /-- The option for the configuration has no path. -/
  | noConfigPath
  | logLevel (error : LogLevelError)
  | source (error : FileSystem.ReadError)
  /-- The program is to be reported as JSON and has no record. -/
  | record (error : RecordError)

/-- The message about a fault. -/
def Fault.message : Fault → String
  | config error => error.message
  | noConfigPath => "expected str, bytes or os.PathLike object, not list"
  | logLevel error => error.message
  | source error => error.message
  | record error => error.message

/-- Why there is no source. -/
inductive NoSource where
  | missing (path : String)
  | unreadable (error : FileSystem.ReadError)

/-- The source of a command that is given none. -/
def exampleSource : String :=
  "(add 2 (subtract 4 2))"

/-- The source that a command works on: the inline one, else the file's, else the
example. -/
def Arguments.source (fs : FileSystem) (a : Arguments) : Except NoSource Given :=
  match a.expr, a.file with
  | some source, _ => .ok source
  | none, none => .ok (.text exampleSource)
  | none, some path =>
    if fs.pathExists path then ((fs.readText path).map .text).mapError .unreadable
    else .error (.missing path)

/-- The format of a report: the command's own, else the one for all commands, else the
configured one. -/
def outputFormat (settings : Settings) (a : Arguments) (config : Config) : Format :=
  (a.format <|> settings.format).getD config.format

/-- The word for the level of the log. -/
def levelWord (settings : Settings) (config : Config) : List Text.CodePoint :=
  if settings.verbose then "DEBUG"
  else
    match settings.logLevel with
    | none | some "" => config.logLevel
    | some word => word

/-- The report on a missing source. -/
def reportMissing (format : Format) (path : String) : Report :=
  let message := "File not found: " ++ path
  .failure format message (.object [("error", .string message)]) .oneLine

/-- What a session says: how it ends, and the warnings on the way. -/
structure Session where
  ending : Except Fault Report
  warnings : List Config.Warning

namespace Session

/-- The text of the notes on the progress, if the level shows them. -/
def noteText (level : LogLevel) (notes : List Note) : String :=
  if level.showsNotes then String.join (notes.map fun n => n.line ++ "\n") else ""

section

variable (host : Host) (fs : FileSystem)

/-- The report of a command on its source, with the notes before the messages. -/
def reportOn (settings : Settings) (c : Command) (a : Arguments) (config : Config)
    (level : LogLevel) : Except Fault Report :=
  let format := outputFormat settings a config
  match a.source fs with
  | .error (.unreadable e) => .error (.source e)
  | .error (.missing path) => .ok (reportMissing format path)
  | .ok source =>
    match c.report host.recordDepth format config.echoInput source with
    | .error e => .error (.record e)
    | .ok report =>
      .ok { report with messages := noteText level (c.notes source.toText) ++ report.messages }

/-- The configuration of a session, and the warning if its file is passed over. -/
def configOf (settings : Settings) : Except Fault (Config × Option Config.Warning) :=
  match settings.config with
  | some .nothing => .error .noConfigPath
  | some (.text path) => (Config.load host fs (some path) ".").mapError .config
  | none => (Config.load host fs none ".").mapError .config

/-- The session of a command. -/
def ofCommand (settings : Settings) (c : Command) (a : Arguments) : Session :=
  match configOf host fs settings with
  | .error fault => ⟨.error fault, []⟩
  | .ok (config, warning?) =>
    match LogLevel.ofWord (levelWord settings config) with
    | .error e => ⟨.error (.logLevel e), warning?.toList⟩
    | .ok level => ⟨reportOn host fs settings c a config level, warning?.toList⟩

/-- The session of the given arguments.  Without a command, the help stands in for the
report, and the status says that something is missing. -/
def run (arguments : List String) : Session :=
  match Invocation.ofArguments arguments with
  | .error stop => ⟨.ok stop.report, []⟩
  | .ok ⟨_, none⟩ => ⟨.ok ⟨1, help none, ""⟩, []⟩
  | .ok ⟨settings, some (c, a)⟩ => ofCommand host fs settings c a

end

end Session

end CallForm.CommandLine
