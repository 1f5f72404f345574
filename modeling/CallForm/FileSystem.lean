import CallForm.Text.Newline
import CallForm.Text.Quoted
import CallForm.Text.Utf8

/-!
# File systems

A file system is a tree of directories and files with a directory to start from.  A
place in it is the list of the names on the way from the root.  A path leads to a
place step by step, and each step has to start in a directory; `FileSystem.locate?`
follows it.

Permissions are left out of the model: every file that is there can be opened, and every
directory can be entered.
-/

namespace CallForm

/-- A file with its bytes, or a directory with its entries. -/
inductive Entry where
  | file (bytes : List UInt8)
  | directory (entries : List (String × Entry))

namespace Entry

/-- The entry that the given names lead to. -/
def find? : Entry → List String → Option Entry
  | e, [] => some e
  | file _, _ :: _ => none
  | directory entries, name :: names => (entries.lookup name).bind (·.find? names)

/-- Entries with the entry of one name put in place of what was there. -/
def replace (name : String) (e : Entry) : List (String × Entry) → List (String × Entry)
  | [] => [(name, e)]
  | (other, f) :: rest =>
    if other = name then (name, e) :: rest else (other, f) :: replace name e rest

/-- An entry with `e` put at the end of the given names, and directories made on the way
where there are none; a directory that is there already stays. -/
def insert (e : Entry) : List String → Entry → Entry
  | [], old =>
    match e, old with
    | directory [], directory entries => directory entries
    | e, _ => e
  | name :: names, old =>
    let entries := match old with
      | directory entries => entries
      | file _ => []
    directory (replace name (insert e names ((entries.lookup name).getD (directory []))) entries)

end Entry

/-- A tree of entries, and the directory where relative paths start. -/
structure FileSystem where
  root : Entry
  workingDirectory : List String

namespace FileSystem

/-- Whether a place is a directory. -/
def isDirectory (fs : FileSystem) (place : List String) : Bool :=
  match fs.root.find? place with
  | some (.directory _) => true
  | _ => false

/-- Whether a place is a file. -/
def isFile (fs : FileSystem) (place : List String) : Bool :=
  match fs.root.find? place with
  | some (.file _) => true
  | _ => false

/-- The names in a path, with an empty one wherever two separators meet and at a
separator on either end. -/
def names (path : String) : List String :=
  go path.toList []
where
  go : List Char → List Char → List String
    | [], name => [String.ofList name.reverse]
    | '/' :: rest, name => String.ofList name.reverse :: go rest []
    | c :: rest, name => go rest (c :: name)

/-- Where a path starts. -/
def start (fs : FileSystem) (path : String) : List String :=
  if path.toList.head? = some '/' then [] else fs.workingDirectory

/-- The place one step from a directory. -/
def step? (fs : FileSystem) (place : List String) (name : String) : Option (List String) :=
  if !fs.isDirectory place then none
  else if name = "" ∨ name = "." then some place
  else if name = ".." then some place.dropLast
  else if (fs.root.find? (place ++ [name])).isSome then some (place ++ [name])
  else none

/-- The place that a path leads to.  The empty path leads nowhere. -/
def locate? (fs : FileSystem) (path : String) : Option (List String) :=
  if path = "" then none else (names path).foldlM fs.step? (fs.start path)

/-- Whether a path leads to a file or a directory. -/
def pathExists (fs : FileSystem) (path : String) : Bool :=
  (fs.locate? path).isSome

/-! ### Absolute paths -/

/-- The names of a path without those that mean staying, and with each step upwards
taken back against the step before it. -/
def normalize (before : List String) (path : List String) : List String :=
  path.foldl (fun place name =>
    if name = "" ∨ name = "." then place
    else if name = ".." then place.dropLast
    else place ++ [name]) before

/-- The place that a path names from its text alone, whether or not it exists. -/
def absolute (fs : FileSystem) (path : String) : List String :=
  normalize (fs.start path) (names path)

/-- How the absolute form of a path writes the root.  Two separators that a path begins with
stay two, any other number of them is written as one. -/
def rootOf (path : String) : String :=
  match path.toList with
  | '/' :: '/' :: '/' :: _ => "/"
  | '/' :: '/' :: _ => "//"
  | _ => "/"

/-- The path to a place from the root, however that is written. -/
def pathFrom (root : String) (place : List String) : String :=
  root ++ "/".intercalate place

/-- The path from the root to a place. -/
def pathOf (place : List String) : String :=
  pathFrom "/" place

/-! ### Reading -/

/-- Why a file cannot be read as a text. -/
inductive ReadError where
  /-- The path leads nowhere. -/
  | missing
  /-- The path leads to a directory. -/
  | directory (path : String)
  /-- The path holds the character that ends paths for the system. -/
  | nullInPath
  /-- The bytes of the file are no text. -/
  | notText (error : Text.Utf8Error)

/-- The message about a file that cannot be read. -/
def ReadError.message : ReadError → String
  | missing => "No such file or directory"
  | directory path => "[Errno 21] Is a directory: " ++ Text.quoted path
  | nullInPath => "embedded null byte"
  | notText error => error.message

/-- The text of the file at a path, with its line ends unified. -/
def readText (fs : FileSystem) (path : String) : Except ReadError String :=
  if path.toList.contains '\x00' then .error .nullInPath
  else
    match (fs.locate? path).bind fs.root.find? with
    | none => .error .missing
    | some (.directory _) => .error (.directory path)
    | some (.file bytes) =>
      match Text.decodeUtf8 bytes with
      | .error e => .error (.notText e)
      | .ok text => .ok (String.ofList (Text.unifyLineEnds text))

end FileSystem

end CallForm
