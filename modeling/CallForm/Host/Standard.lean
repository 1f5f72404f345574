import CallForm.Config
import CallForm.Host
import CallForm.Yaml.Document

/-!
# The standard host

The program runs on a stack of a thousand calls, of which some are made before anything
nests, and reads YAML with the reader of this library.  That reader has no bound on how deep a
text may nest.
-/

namespace CallForm

/-- Why the reader of this library gives no value for a text. -/
def ReaderError.ofFlaw : Yaml.Flaw → ReaderError
  | .malformed => malformed
  | .scalar e => other e.kind e.message

/-- The host of the program.  Of a table in YAML, only the values of settings are read. -/
def Host.standard : Host where
  recordDepth := 993
  jsonDepth := 993
  valueDepth := 996
  readYaml text :=
    let isKey := fun v => Config.keys.any fun key => Value.isSameKey v (.text key)
    (Yaml.read isKey text).mapError .ofFlaw

end CallForm
