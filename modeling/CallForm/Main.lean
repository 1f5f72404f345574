import CallForm.CommandLine.Session
import CallForm.Host.Standard

/-!
# The program

The program looks at the files that its session may ask for, runs the session on them,
prints what it says, and ends with its status.
-/

namespace CallForm.Main

/-- What stands at a path.  Only from a directory does a path go on. -/
def entryAt (path : String) : IO (Option Entry) := do
  try
    let _ ← IO.FS.realPath (path ++ "/.")
    return some (.directory [])
  catch _ =>
    try
      return some (.file (← IO.FS.readBinFile path).toList)
    catch _ =>
      return none

/-- The beginnings of a list, without the empty one. -/
def beginnings (names : List String) : List (List String) :=
  (List.range names.length).map fun n => names.take (n + 1)

/-- The paths on the way to a path, ending with the path itself. -/
def stations (path : String) : List String :=
  (beginnings (FileSystem.names path)).map ("/".intercalate ·)

/-- A file system with what stands at a path, and on the way to it, put in. -/
def look (fs : FileSystem) (path : String) : IO FileSystem :=
  (stations path).foldlM (fun fs station => do
    match ← entryAt station with
    | none => return fs
    | some e => return { fs with root := .insert e (fs.absolute station) fs.root }) fs

/-- The paths at which a session looks, in the given directory. -/
def paths (directory : List String) (arguments : List String) : List String :=
  let configs := ([] :: beginnings directory).flatMap fun place =>
    Config.fileNames.map fun name => FileSystem.pathOf (place ++ [name])
  match CommandLine.Invocation.ofArguments arguments with
  | .error _ => []
  | .ok i =>
    let config := i.settings.config.map Given.toText
    configs ++ config.toList ++ (i.command.bind (·.2.file)).toList

end CallForm.Main

open CallForm in
/-- Run a session on the files of the system and print what it says. -/
def main (arguments : List String) : IO UInt32 := do
  let path := toString (← IO.currentDir)
  let directory := FileSystem.normalize [] (FileSystem.names path)
  let empty : FileSystem := ⟨.insert (.directory []) directory (.directory []), directory⟩
  let fs ← (Main.paths directory arguments).foldlM Main.look empty
  let session := CommandLine.Session.run .standard fs arguments
  for warning in session.warnings do
    IO.eprintln warning.message
  match session.ending with
  | .ok report =>
    IO.print report.output
    IO.eprint report.messages
    return report.status.toUInt32
  | .error fault =>
    IO.eprintln fault.message
    return 1
