import CallForm.FileSystem

/-!
# Finding a configuration

A configuration file bears one of three names, and the one that holds is the nearest:
the first of the three in the first directory, from a starting place upwards to the
root, that has any of them as a file.
-/

namespace CallForm.Config

/-- The names of configuration files.  In one directory, an earlier name counts before a
later one. -/
def fileNames : List String :=
  [".tinycrc.yml", ".tinycrc.yaml", ".tinycrc.json"]

/-- The place of the configuration file in a directory. -/
def fileIn? (fs : FileSystem) (place : List String) : Option (List String) :=
  (fileNames.map fun name => place ++ [name]).find? fs.isFile

/-- The place of the nearest configuration file, in the given place or above it. -/
def nearest? (fs : FileSystem) (place : List String) : Option (List String) :=
  match fileIn? fs place with
  | some file => some file
  | none => if place = [] then none else nearest? fs place.dropLast
termination_by place.length
decreasing_by
  rename_i h
  have := List.length_pos_iff.mpr h
  simp only [List.length_dropLast]
  omega

/-- The path of the configuration file nearest to the place that a path names; the place
need not exist. -/
def find? (fs : FileSystem) (path : String) : Option String :=
  (nearest? fs (fs.absolute path)).map (FileSystem.pathFrom (FileSystem.rootOf path))

end CallForm.Config
