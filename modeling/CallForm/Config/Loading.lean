import CallForm.Config
import CallForm.Config.Discovery
import CallForm.Host
import CallForm.Json.Reader

/-!
# Loading a configuration

A configuration file whose name ends in `.json` holds JSON, and any other holds YAML.  A
file that cannot be opened, that is malformed, or that holds something other than a
table is passed over with a `Warning`, and the default configuration holds.  A text in YAML
whose value counts as false holds the empty table.  Whatever else goes wrong, in the bytes of
the file or in a value that does not exist or nests too deep, is a `LoadError`.
-/

namespace CallForm.Config

/-- Why a file is passed over. -/
inductive Warning where
  | unreadable (path : String)
  | malformed (path : String)
  | noTable (path : String)
  deriving DecidableEq

namespace Warning

/-- The file that is passed over. -/
def path : Warning → String
  | unreadable path | malformed path | noTable path => path

/-- How a warning starts. -/
def opening : Warning → String
  | unreadable _ => "could not read config file "
  | malformed _ => "ignoring malformed config file "
  | noTable _ => "ignoring config file "

/-- The wording of a warning, with `%s` for the path, and for the reason where it
depends on the file. -/
def template (w : Warning) : String :=
  w.opening ++ "%s: " ++
    match w with
    | noTable _ => "expected a mapping"
    | _ => "%s"

/-- The warning as it is shown. -/
def message (w : Warning) : String :=
  w.opening ++ w.path ++ ": " ++
    match w with
    | unreadable _ => "no such file"
    | malformed _ => "the text has no value"
    | noTable _ => "expected a mapping"

end Warning

/-- Why there is no configuration at all. -/
inductive LoadError where
  | unreadable (error : FileSystem.ReadError)
  | digits (error : TooManyDigits)
  | tooDeep (error : TooDeep)
  /-- The reader of YAML fails with an error of the given kind. -/
  | reader (kind message : String)

namespace LoadError

/-- The message about a configuration that cannot be loaded. -/
def message : LoadError → String
  | unreadable error => error.message
  | digits error => error.message
  | tooDeep error => error.message
  | reader _ message => message

/-- What a setting without a text means for its configuration. -/
def ofValue : Value.TextError → LoadError
  | .digits e => digits e
  | .tooDeep => tooDeep .value

end LoadError

/-- Why the text of a file has no value. -/
inductive TextError where
  | malformed
  | load (error : LoadError)

/-- The flaw of a text in JSON. -/
def TextError.ofJson : Json.Flaw → TextError
  | .malformed => malformed
  | .tooManyDigits e => load (.digits e)
  | .tooDeep e => load (.tooDeep e)

/-- The flaw of a text in YAML. -/
def TextError.ofYaml : ReaderError → TextError
  | .malformed => malformed
  | .other kind message => load (.reader kind message)

/-- Whether the file at a path holds JSON. -/
def holdsJson (path : String) : Bool :=
  ".json".toList.isSuffixOf path.toList

section

variable (host : Host)

/-- The value of a text in JSON. -/
def readJson (text : String) : Except TextError Value :=
  match Json.read host.jsonDepth text with
  | .error flaw => .error (.ofJson flaw)
  | .ok json => .ok (.ofJson json)

/-- The value of a text in YAML, where the empty table stands for what counts as false. -/
def readYaml (text : String) : Except TextError Value :=
  match host.readYaml text with
  | .error e => .error (.ofYaml e)
  | .ok value => .ok (if value.truth then value else .table [])

/-- The value in the text of the file at a path. -/
def readValue (path text : String) : Except TextError Value :=
  if holdsJson path then readJson host text else readYaml host text

/-- The configuration in the text of the file at a path, and the warning if the file is
passed over. -/
def ofText (path text : String) : Except LoadError (Config × Option Warning) :=
  match readValue host path text with
  | .error .malformed => .ok (default, some (.malformed path))
  | .error (.load e) => .error e
  | .ok (.table entries) =>
    match ofTable host.valueDepth entries with
    | .error e => .error (.ofValue e)
    | .ok config => .ok (config, none)
  | .ok _ => .ok (default, some (.noTable path))

/-- The configuration in the file at a path, and the warning if it is passed over. -/
def ofFile (fs : FileSystem) (path : String) : Except LoadError (Config × Option Warning) :=
  match fs.readText path with
  | .ok text => ofText host path text
  | .error .missing | .error (.directory _) => .ok (default, some (.unreadable path))
  | .error e => .error (.unreadable e)

/-- The configuration in the file at a path if one is given, else in the file nearest to
the starting path, else the default one. -/
def load (fs : FileSystem) (path? : Option String) (start : String) :
    Except LoadError (Config × Option Warning) :=
  match path? <|> find? fs start with
  | none => .ok (default, none)
  | some path => ofFile host fs path

end

end CallForm.Config
