/-!
# Bounds on nesting

Some things are handled by recursion: the record of a tree is made so, a text in JSON is read
so, and a value is shown so.  They may nest only as deep as the stack allows.  How deep that
is depends on what runs the program, and on what is on the stack already, so it is a parameter
wherever it counts.  The trees themselves are built, walked and written without recursion and
may be as deep as they like.
-/

namespace CallForm

/-- What nests deeper than the stack allows. -/
inductive TooDeep where
  /-- The record of a tree. -/
  | record
  /-- A text in JSON, where an array begins. -/
  | array
  /-- A text in JSON, where an object begins. -/
  | object
  /-- A value that is to be shown. -/
  | value
  deriving DecidableEq

/-- The message about what nests too deep. -/
def TooDeep.message (e : TooDeep) : String :=
  "maximum recursion depth exceeded" ++
    match e with
    | record => ""
    | array => " while decoding a JSON array from a unicode string"
    | object => " while decoding a JSON object from a unicode string"
    | value => " while getting the repr of an object"

/-- Why a tree has no record. -/
inductive RecordError where
  /-- There is something in the tree that has none, of the type with the given name. -/
  | noRecord (typeName : String)
  | tooDeep
  deriving DecidableEq

namespace RecordError

/-- The message about a tree without a record. -/
def message : RecordError → String
  | noRecord typeName => "'" ++ typeName ++ "' object has no attribute 'to_dict'"
  | tooDeep => TooDeep.record.message

/-- What nests as deep as given, if that is no deeper than the depth. -/
def within (nesting depth : Nat) (a : α) : Except RecordError α :=
  if nesting ≤ depth then .ok a else .error tooDeep

/-- What is left of a depth below some levels of a record. -/
def below (levels depth : Nat) : Except RecordError Nat :=
  within levels depth (depth - levels)

end RecordError

end CallForm
