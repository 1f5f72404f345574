import CallForm.Yaml.Token

/-!
# YAML documents as graphs

`document` reads the tokens of a text as one document: a graph of scalars, sequences
and mappings, or nothing if the text holds none.  The collections of a document are
numbered, and a node that is a collection is its number.  So a node that is given a name
by an anchor, and that aliases of this name stand for, is one node in several places, and
some of these may be inside it.

The functions that read nodes bound the number of their steps by `fuel`; every step
takes a token or goes from a node to its parts.  The flaw that ends the tokens counts if
all the tokens before it are needed.
-/

namespace CallForm.Yaml

/-- The beginning of the names of all types that are known. -/
def standardTag : String :=
  "tag:yaml.org,2002:"

/-- What a node says about its type. -/
inductive Tag where
  /-- Nothing, so that the type of a plain scalar follows from its text. -/
  | plain
  /-- Nothing, of a scalar whose text stands for itself, or of a collection. -/
  | unspecified
  /-- The type with the given name. -/
  | named (uri : String)
  deriving DecidableEq

/-- A node of a document: a scalar, or the collection with the given number. -/
inductive Node where
  | scalar (tag : Tag) (text : List Text.CodePoint)
  | collection (number : Nat)

/-- A collection of nodes. -/
inductive Collection where
  | sequence (tag : Tag) (items : List Node)
  | mapping (tag : Tag) (entries : List (Node × Node))

/-- A document: its outermost node, and its collections by their numbers. -/
structure Document where
  root : Node
  collections : Array Collection

/-- The tokens that are left, and what is known from the tokens before them. -/
structure Feed where
  tokens : List Token
  /-- The flaw behind the last token. -/
  flaw : Option Flaw
  /-- The nodes with a name, the latest first. -/
  anchors : List (String × Node)
  /-- What the handles of tags stand for. -/
  handles : List (String × String)
  /-- The collections that have begun; one that goes on has no parts yet. -/
  collections : Array Collection

/-- A reader of tokens that may fail. -/
abbrev Read := StateT Feed (Except Flaw)

namespace Read

/-- The next token, unless the text is over. -/
def peek : Read (Option Token) := do
  match (← get).tokens, (← get).flaw with
  | t :: _, _ => return some t
  | [], none => return none
  | [], some flaw => throw flaw

/-- Passes over the next token. -/
def advance : Read Unit :=
  modify fun feed => { feed with tokens := feed.tokens.tail }

/-- Whether the next token is among the given ones; the end of the tokens is not. -/
def at? (ts : List Token) : Read Bool :=
  return (← peek).any (ts.contains ·)

/-- Passes over the next token if it is the given one. -/
def accept (t : Token) : Read Bool := do
  if ← at? [t] then
    advance
    return true
  else return false

/-- Passes over the next token, which must be the given one. -/
def expect (t : Token) : Read Unit := do
  require (← accept t)

/-- Gives a node a name, which has to be new. -/
def define (anchor : Option String) (n : Node) : Read Unit :=
  match anchor with
  | none => return
  | some name => do
    require ((← get).anchors.lookup name).isNone
    modify fun feed => { feed with anchors := (name, n) :: feed.anchors }

/-- The name of a type by its handle and the rest. -/
def uri (handle : Option String) (suffix : String) : Read String :=
  match handle with
  | none => return suffix
  | some handle => do
    match (← get).handles.lookup handle with
    | none => throw .malformed
    | some uri => return uri ++ suffix

/-- The anchor and the tag before a node, in either order. -/
def properties : Read (Option String × Option String) := do
  match ← peek with
  | some (.anchor name) =>
    advance
    match ← peek with
    | some (.tag handle suffix) =>
      advance
      return (some name, some (← uri handle suffix))
    | _ => return (some name, none)
  | some (.tag handle suffix) =>
    advance
    match ← peek with
    | some (.anchor name) =>
      advance
      return (some name, some (← uri handle suffix))
    | _ => return (none, some (← uri handle suffix))
  | _ => return (none, none)

/-- The tag of a scalar. -/
def scalarTag (plain : Bool) : Option String → Tag
  | none => if plain then .plain else .unspecified
  | some "!" => .plain
  | some uri => .named uri

/-- The tag of a collection. -/
def collectionTag : Option String → Tag
  | none => .unspecified
  | some "!" => .unspecified
  | some uri => .named uri

/-- The scalar that stands where a node is left out. -/
def absent : Node :=
  .scalar .plain ""

/-- Where a node stands, which decides the forms that it may have. -/
inductive Place where
  /-- Inside brackets. -/
  | flow
  /-- Outside brackets. -/
  | block
  /-- Outside brackets as a key or a value, where a sequence needs no indent. -/
  | entry
  deriving DecidableEq

/-- A collection with the given anchor, whose parts are still to be read and make it
complete.  Its anchor is known inside it. -/
def collect (anchor : Option String) (complete : List α → Collection)
    (parts : Read (List α)) : Read Node := do
  let number := (← get).collections.size
  modify fun feed => { feed with collections := feed.collections.push (complete []) }
  define anchor (.collection number)
  let parts ← parts
  modify fun feed =>
    { feed with collections := feed.collections.setIfInBounds number (complete parts) }
  return .collection number

/-- A sequence, from its first item on. -/
def sequence (anchor tag : Option String) : Read (List Node) → Read Node :=
  collect anchor (.sequence (collectionTag tag))

/-- A mapping, from its first entry on. -/
def mapping (anchor tag : Option String) : Read (List (Node × Node)) → Read Node :=
  collect anchor (.mapping (collectionTag tag))

mutual

/-- A node. -/
def node (place : Place) : Nat → Read Node
  | 0 => throw .malformed
  | fuel + 1 => do
    match ← peek with
    | some (.alias name) =>
      advance
      match (← get).anchors.lookup name with
      | none => throw .malformed
      | some n => return n
    | _ =>
      let (anchor, tag) ← properties
      match ← peek, place with
      | some (.scalar text plain), _ =>
        advance
        let n := Node.scalar (scalarTag plain tag) text
        define anchor n
        return n
      | some .flowSequenceStart, _ =>
        advance
        sequence anchor tag (flowItems true fuel)
      | some .flowMappingStart, _ =>
        advance
        mapping anchor tag (flowEntries true fuel)
      | some .blockEntry, .entry => sequence anchor tag (indentlessItems fuel)
      | some .blockSequenceStart, .block =>
        advance
        sequence anchor tag (blockItems fuel)
      | some .blockSequenceStart, .entry =>
        advance
        sequence anchor tag (blockItems fuel)
      | some .blockMappingStart, .block =>
        advance
        mapping anchor tag (blockEntries fuel)
      | some .blockMappingStart, .entry =>
        advance
        mapping anchor tag (blockEntries fuel)
      | _, _ =>
        require (anchor.isSome || tag.isSome)
        let n := Node.scalar (scalarTag true tag) ""
        define anchor n
        return n

/-- A node, or nothing before one of the given tokens. -/
def nodeBefore (ends : List Token) (place : Place) : Nat → Read Node
  | 0 => throw .malformed
  | fuel + 1 => do
    if ← at? ends then return absent else node place fuel

/-- The items of a sequence in a block of its own. -/
def blockItems : Nat → Read (List Node)
  | 0 => throw .malformed
  | fuel + 1 => do
    if ← accept .blockEntry then
      let item ← nodeBefore [.blockEntry, .blockEnd] .block fuel
      return item :: (← blockItems fuel)
    else
      expect .blockEnd
      return []

/-- The items of a sequence that has the indent of the mapping around it. -/
def indentlessItems : Nat → Read (List Node)
  | 0 => throw .malformed
  | fuel + 1 => do
    if ← accept .blockEntry then
      let item ← nodeBefore [.blockEntry, .key, .value, .blockEnd] .block fuel
      return item :: (← indentlessItems fuel)
    else return []

/-- The entries of a mapping in a block. -/
def blockEntries : Nat → Read (List (Node × Node))
  | 0 => throw .malformed
  | fuel + 1 => do
    if ← accept .key then
      let key ← nodeBefore [.key, .value, .blockEnd] .entry fuel
      let value ←
        if ← accept .value then nodeBefore [.key, .value, .blockEnd] .entry fuel
        else pure absent
      return (key, value) :: (← blockEntries fuel)
    else
      expect .blockEnd
      return []

/-- The items of a sequence in brackets; a pair is a mapping with one entry. -/
def flowItems (first : Bool) : Nat → Read (List Node)
  | 0 => throw .malformed
  | fuel + 1 => do
    if ← accept .flowSequenceEnd then return []
    else
      if !first then expect .flowEntry
      if ← accept .key then
        let key ← nodeBefore [.value, .flowEntry, .flowSequenceEnd] .flow fuel
        let value ←
          if ← accept .value then nodeBefore [.flowEntry, .flowSequenceEnd] .flow fuel
          else pure absent
        let pair ← mapping none none (pure [(key, value)])
        return pair :: (← flowItems false fuel)
      else if ← accept .flowSequenceEnd then return []
      else
        let item ← node .flow fuel
        return item :: (← flowItems false fuel)

/-- The entries of a mapping in braces; a node without a colon is a key. -/
def flowEntries (first : Bool) : Nat → Read (List (Node × Node))
  | 0 => throw .malformed
  | fuel + 1 => do
    if ← accept .flowMappingEnd then return []
    else
      if !first then expect .flowEntry
      if ← accept .key then
        let key ← nodeBefore [.value, .flowEntry, .flowMappingEnd] .flow fuel
        let value ←
          if ← accept .value then nodeBefore [.flowEntry, .flowMappingEnd] .flow fuel
          else pure absent
        return (key, value) :: (← flowEntries false fuel)
      else if ← accept .flowMappingEnd then return []
      else
        let key ← node .flow fuel
        return (key, absent) :: (← flowEntries false fuel)

end

/-- The directives of a document: at most one version, which has to begin with 1, and
handles that are all different. -/
def directives (versionSeen : Bool) : Nat → Read Unit
  | 0 => throw .malformed
  | fuel + 1 => do
    match ← peek with
    | some (.version major) =>
      require (!versionSeen && major = 1)
      advance
      directives true fuel
    | some (.tagHandle handle uri) =>
      require ((← get).handles.lookup handle).isNone
      modify fun feed => { feed with handles := (handle, uri) :: feed.handles }
      advance
      directives versionSeen fuel
    | some .directive =>
      advance
      directives versionSeen fuel
    | _ => return

/-- The handles that every document knows unless it says otherwise. -/
def standardHandles : List (String × String) :=
  [("!", "!"), ("!!", standardTag)]

/-- Whether an explicit document begins here. -/
def atExplicitStart : Read Bool := do
  match ← peek with
  | some (.version _) => return true
  | some (.tagHandle _ _) => return true
  | some .directive => return true
  | some .documentStart => return true
  | _ => return false

/-- The end of the text, behind any number of marks for the end of the document. -/
def noMore : Nat → Read Unit
  | 0 => throw .malformed
  | fuel + 1 => do
    match ← peek with
    | none => return
    | some .documentEnd =>
      advance
      noMore fuel
    | some _ =>
      directives false fuel
      throw .malformed

/-- The only document of the tokens. -/
def document (fuel : Nat) : Read (Option Document) := do
  if (← peek).isNone then return none
  let root ←
    if ← atExplicitStart then
      directives false fuel
      modify fun feed => { feed with handles := feed.handles ++ standardHandles }
      expect .documentStart
      if (← peek).isNone || (← atExplicitStart) || (← at? [.documentEnd]) then pure absent
      else node .block fuel
    else
      modify fun feed => { feed with handles := standardHandles }
      node .block fuel
  noMore fuel
  return some ⟨root, (← get).collections⟩

end Read

/-- The only document of a text, or nothing if the text holds no document. -/
def document (cut : Cut) : Except Flaw (Option Document) :=
  (Read.document (3 * cut.tokens.length + 3)).run' ⟨cut.tokens, cut.flaw, [], [], #[]⟩

end CallForm.Yaml
