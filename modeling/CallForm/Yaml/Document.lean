import CallForm.Yaml.Node
import CallForm.Yaml.Scalar

/-!
# The value of a YAML document

`Yaml.read` reads a text as a value.  A text without a document has the value null.  Of a
table only the values of wanted keys are built, so that no time is lost on others.

Every node has a type, by its tag or by the form of a plain scalar.  The key `<<` of a
mapping takes over the entries of another mapping, or of several, of which the first
counts; the mapping's own entries count before them.

The collections of a document are opened one after the other, each after the one that it
first comes up in, so that of several flaws the one that is the least deep counts, and of
those that are equally deep the first.  Each is opened once.  Only then are values built,
and a collection that comes up inside itself is shown by a mark.
-/

namespace CallForm.Yaml

/-! ### Types of nodes -/

/-- The types of nodes. -/
inductive NodeType where
  | scalar (type : ScalarType)
  | sequence
  | mapping
  | set
  /-- A sequence of pairs, each written as a mapping with one entry. -/
  | pairs
  /-- The type of the key that takes over entries. -/
  | merge
  /-- The type of the key whose value stands for the mapping as a scalar. -/
  | equals
  | foreign
  deriving DecidableEq

/-- The types by their names. -/
def typeNames : List (String × NodeType) :=
  [("null", .scalar .null), ("bool", .scalar .bool), ("int", .scalar .int),
   ("float", .scalar .float), ("timestamp", .scalar .timestamp), ("binary", .scalar .binary),
   ("str", .scalar .text), ("seq", .sequence), ("map", .mapping), ("set", .set),
   ("omap", .pairs), ("pairs", .pairs), ("merge", .merge), ("value", .equals)]

/-- The type with the given tag, which is a name behind the standard beginning. -/
def typeNamed (uri : String) : NodeType :=
  ((typeNames.find? fun (name, _) => standardTag ++ name = uri).map (·.2)).getD .foreign

/-- The type of a plain scalar.  The indicators of tags, anchors and aliases, each by
itself, are of a type without values. -/
def plainType (text : List Text.CodePoint) : NodeType :=
  match (Text.toString? text).map fun s => withoutLineEnd s.toList with
  | some ['<', '<'] => .merge
  | some ['='] => .equals
  | some ['!'] | some ['&'] | some ['*'] => .foreign
  | _ => .scalar (implicitType text)

/-- The type of a collection. -/
def Collection.type : Collection → NodeType
  | sequence (.named uri) _ | mapping (.named uri) _ => typeNamed uri
  | sequence _ _ => .sequence
  | mapping _ _ => .mapping

/-! ### Opening collections -/

/-- A part of a collection that is opened: a value, or a collection by its number. -/
inductive Part where
  | value (v : Value)
  | collection (number : Nat)

/-- A collection that is opened.  The keys of its entries are pairwise different. -/
inductive Content where
  | list (items : List Part)
  | pairs (pairs : List (Part × Part))
  | set (members : List Value)
  | table (entries : List (Value × Part))

/-- Whether a collection is shown as a table. -/
def Content.isTable : Content → Bool
  | table _ => true
  | _ => false

/-- How far the collections of a document are opened. -/
structure Opening where
  /-- The collections as they are written, but for entries that have been taken over. -/
  collections : Array Collection
  /-- The contents of the collections that are opened. -/
  contents : Array (Option Content)
  /-- Which collections have come up. -/
  seen : Array Bool
  /-- The nodes that are to be opened, the latest first. -/
  pending : List Node
  /-- No more keys than this take over entries. -/
  mergeLimit : Nat

/-- The state before any collection of a document is opened. -/
def Opening.start (collections : Array Collection) : Opening where
  collections
  contents := Array.replicate collections.size none
  seen := Array.replicate collections.size false
  pending := []
  mergeLimit := collections.foldl (fun
    | n, .mapping _ entries => n + entries.length
    | n, .sequence _ _ => n) 0

/-- A step of opening, which may meet a flaw. -/
abbrev Open := StateT Opening (Except Flaw)

namespace Open

/-- The collection with a number. -/
def collectionAt (number : Nat) : Open Collection := do
  present (← get).collections[number]?

/-- The type of a node. -/
def typeOf : Node → Open NodeType
  | .scalar .plain text => return plainType text
  | .scalar .unspecified _ => return .scalar .text
  | .scalar (.named uri) _ => return typeNamed uri
  | .collection number => return (← collectionAt number).type

/-- The entries of the mapping with a number. -/
def entriesOf (number : Nat) : Open (List (Node × Node)) := do
  match ← collectionAt number with
  | .mapping _ entries => return entries
  | .sequence _ _ => throw .malformed

/-- Replaces the entries of a mapping. -/
def setEntries (number : Nat) (entries : List (Node × Node)) : Open Unit :=
  modify fun o => { o with
    collections := o.collections.modify number fun
      | .mapping tag _ => .mapping tag entries
      | c => c }

/-! ### Scalars -/

/-- The first entry whose key has the given type, with the entries before it and those
after it. -/
def firstOf (type : NodeType) :
    List (Node × Node) → Open (Option (List (Node × Node) × Node × List (Node × Node)))
  | [] => return none
  | (key, n) :: rest => do
    if (← typeOf key) = type then return some ([], n, rest)
    else return (← firstOf type rest).map fun (before, m, after) => ((key, n) :: before, m, after)

/-- The text of a node that is read as a scalar: in a mapping one of its values stands for
it.  `fuel` bounds how deep that value is. -/
def scalarText : Nat → Node → Open (List Text.CodePoint)
  | 0, _ => throw .malformed
  | _ + 1, .scalar _ text => return text
  | fuel + 1, .collection number => do
    match ← firstOf .equals (← entriesOf number) with
    | some (_, n, _) => scalarText fuel n
    | none => throw .malformed

/-- The value of a node that is read as a scalar of the given type.  Dates and times are
read from scalars alone. -/
def scalarAs (type : ScalarType) (n : Node) : Open Value := do
  let text ← scalarText ((← get).collections.size + 1) n
  match type, n with
  | .timestamp, .collection _ => throw (.scalar .collectionAsTimestamp)
  | _, _ => type.value text

/-- The value of a key.  Collections are no keys. -/
def keyValue (n : Node) : Open Value := do
  match ← typeOf n with
  | .scalar type => scalarAs type n
  | _ => throw .malformed

/-- Has a node opened later, unless it is a collection that has come up before. -/
def postpone : Node → Open Unit
  | .scalar tag text => modify fun o => { o with pending := .scalar tag text :: o.pending }
  | .collection number => modify fun o =>
    if o.seen.getD number true then o
    else { o with
      seen := o.seen.setIfInBounds number true, pending := .collection number :: o.pending }

/-- The part that a node is.  A node that is no scalar by its type is to be opened. -/
def part (n : Node) : Open Part := do
  match ← typeOf n with
  | .scalar type => return .value (← scalarAs type n)
  | .sequence | .mapping | .set | .pairs => do
    postpone n
    match n with
    | .collection number => return .collection number
    | .scalar _ _ => return .value .null
  | .merge | .equals | .foreign => throw .malformed

/-! ### Entries taken over -/

/-- The numbers of several nodes, which are collections. -/
def numbers : List Node → Open (List Nat)
  | [] => return []
  | .collection number :: rest => return number :: (← numbers rest)
  | .scalar _ _ :: _ => throw .malformed

/-- An entry whose key is a text if its value could stand for the mapping. -/
def asEntry : Node × Node → Open (Node × Node)
  | (.scalar tag text, n) => do
    let isText := (← typeOf (.scalar tag text)) = .equals
    return (.scalar (if isText then .unspecified else tag) text, n)
  | (.collection number, n) => return (.collection number, n)

/-- Puts the entries that a mapping takes over in front of its own, together with `merged`,
and its keys for that away.  Each step puts one of them away, so `fuel` bounds the number
of steps if there are no more such keys. -/
def merge (merged : List (Node × Node)) : Nat → Nat → Open Unit
  | 0, _ => throw .malformed
  | fuel + 1, number => do
    let entries ← entriesOf number
    match ← firstOf .merge entries with
    | none => setEntries number (merged ++ (← entries.mapM asEntry))
    | some (before, n, after) =>
      setEntries number (before ++ after)
      let given ← match n with
        | .scalar _ _ => throw .malformed
        | .collection other =>
          match ← collectionAt other with
          | .mapping _ _ => do
            merge [] fuel other
            entriesOf other
          | .sequence _ items => do
            let given ← (← numbers items).mapM fun item => do
              merge [] fuel item
              entriesOf item
            pure given.reverse.flatten
      merge (merged ++ given) fuel number

/-! ### Contents -/

/-- The entries of a mapping with their keys as values; of entries with one key, the last
one counts. -/
def entries (number : Nat) : Open (List (Value × Part)) := do
  merge [] ((← get).mergeLimit + 1) number
  let found ← (← entriesOf number).mapM fun (key, n) => do
    let k ← keyValue key
    return (k, ← part n)
  return Value.tableOf found

/-- The items of the sequence with a number. -/
def itemsOf (number : Nat) : Open (List Node) := do
  match ← collectionAt number with
  | .sequence _ items => return items
  | .mapping _ _ => throw .malformed

/-- The pair that a mapping with one entry writes. -/
def pair : Node → Open (Part × Part)
  | .scalar _ _ => throw .malformed
  | .collection number => do
    match ← entriesOf number with
    | [(first, second)] => return (← part first, ← part second)
    | _ => throw .malformed

/-- The content of the collection with a number. -/
def contentOf (number : Nat) : Open Content := do
  match (← collectionAt number).type with
  | .sequence => return .list (← (← itemsOf number).mapM part)
  | .pairs => return .pairs (← (← itemsOf number).mapM pair)
  | .set => return .set (Value.setOf ((← entries number).map (·.1)))
  | .mapping => return .table (← entries number)
  | _ => throw .malformed

/-- Opens a node, which has to be a collection. -/
def openNode : Node → Open Unit
  | .scalar _ _ => throw .malformed
  | .collection number => do
    let content ← contentOf number
    modify fun o => { o with contents := o.contents.setIfInBounds number (some content) }

/-- Opens the nodes that are pending, then those that have come up in them, and so on;
`fuel` bounds how deep that goes. -/
def openAll : Nat → Open Unit
  | 0 => return
  | fuel + 1 => do
    let level := (← get).pending.reverse
    if level.isEmpty then return
    modify fun o => { o with pending := [] }
    level.forM openNode
    openAll fuel

/-- Opens all collections of a document.  No node is deeper than there are collections. -/
def document (d : Document) : Open Part := do
  let root ← part d.root
  openAll (d.collections.size + 1)
  return root

end Open

/-! ### Values -/

/-- The value of a part, inside the collections on the given path; `fuel` bounds the number
of collections that are inside each other. -/
def valueOf (contents : Array (Option Content)) : Nat → List Nat → Part → Value
  | _, _, .value v => v
  | 0, _, .collection _ => .null
  | fuel + 1, path, .collection number =>
    match contents[number]?.join with
    | none => .null
    | some content =>
      if path.contains number then .enclosing content.isTable
      else
        let inside := valueOf contents fuel (number :: path)
        match content with
        | .list items => .list (items.map inside)
        | .pairs ps => .list (ps.map fun (first, second) => .pair (inside first) (inside second))
        | .set members => .set members
        | .table entries => .table (entries.map fun (key, p) => (key, inside p))

/-- The value of a document that is a collection with the given content.  Null stands for the
items of a list and for the values of keys that are not wanted. -/
def rootValue (isWanted : Value → Bool) (inside : Part → Value) : Content → Value
  | .list items => .list (items.map fun _ => .null)
  | .pairs ps => .list (ps.map fun _ => .null)
  | .set members => .set members
  | .table entries =>
    .table (entries.map fun (key, p) => (key, if isWanted key then inside p else .null))

/-- The value that a text writes, with a table reduced to the values of wanted keys. -/
def read (isWanted : Value → Bool) (text : String) : Except Flaw Value := do
  match ← document (cut text) with
  | none => return .null
  | some d =>
    let (root, opening) ← (Open.document d).run (.start d.collections)
    match root with
    | .value v => return v
    | .collection number =>
      let inside := valueOf opening.contents (d.collections.size + 1) []
      return (opening.contents[number]?.join.map (rootValue isWanted inside)).getD .null

end CallForm.Yaml
