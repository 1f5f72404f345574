import CallForm.Depth
import CallForm.Json
import CallForm.Source.Program
import CallForm.Worklist

/-!
# Source trees

`Node` is the type of the trees that are handed from one step to the next.  A program
makes such a tree by `Program.toNode`, but a tree may also be built by hand, and then
a program may stand below another one, and nodes of a foreign type may stand anywhere.
What a step does with those is its own affair.
-/

namespace CallForm.Source

/-- A node of a source tree. -/
inductive Node where
  | program (body : List Node)
  | number (text : String)
  | string (text : String)
  | call (name : String) (params : List Node)
  /-- Anything that is no node of a source tree, known by the name of its type. -/
  | foreign (typeName : String)

namespace Node

/-- The name of the type of a node. -/
def typeName : Node → String
  | program _ => "Program"
  | number _ => "NumberLiteral"
  | string _ => "StringLiteral"
  | call .. => "CallExpression"
  | foreign typeName => typeName

/-- What tells a node from others of its type: the name of a call, the text of a
literal. -/
def label : Node → String
  | program _ => "Program"
  | number text => text
  | string text => text
  | call name _ => name
  | foreign typeName => typeName

/-- The nodes that a node directly holds. -/
def children : Node → List Node
  | program body => body
  | call _ params => params
  | number _ | string _ | foreign _ => []

mutual

/-- The nodes of a tree in pre-order: a node comes before its children. -/
def preorder : Node → List Node
  | program body => program body :: preorders body
  | number text => [number text]
  | string text => [string text]
  | call name params => call name params :: preorders params
  | foreign typeName => [foreign typeName]

/-- The nodes of trees in pre-order, one tree after the other. -/
def preorders : List Node → List Node
  | [] => []
  | n :: ns => n.preorder ++ preorders ns

end

/-- The number of nodes of a tree. -/
def size (n : Node) : Nat :=
  n.preorder.length

theorem length_preorders (ns : List Node) :
  (preorders ns).length = total size ns
  := by
  induction ns with
  | nil => rfl
  | cons n ns ih => simp [preorders, size, ih]

/-- The nodes of a tree are its root and the nodes below the children of the root. -/
theorem size_eq (n : Node) :
  n.size = total size n.children + 1
  := by
  cases n with
  | program body => simp [size, preorder, children, length_preorders]
  | number text => rfl
  | string text => rfl
  | call name params => simp [size, preorder, children, length_preorders]
  | foreign typeName => rfl

mutual

/-- The record of a node: the name of its type and its parts.  A record takes a level of the
stack, and the list of the records inside it takes another.  What is foreign has no record. -/
def toJson : Node → Nat → Except RecordError Json
  | program body, depth => do
    let items ← toJsons body (← RecordError.below 2 depth)
    return .object [("type", .string "Program"), ("body", .array items)]
  | number text, depth => do
    let _ ← RecordError.below 1 depth
    return .object [("type", .string "NumberLiteral"), ("value", .string text)]
  | string text, depth => do
    let _ ← RecordError.below 1 depth
    return .object [("type", .string "StringLiteral"), ("value", .string text)]
  | call name params, depth => do
    let items ← toJsons params (← RecordError.below 2 depth)
    return .object [("type", .string "CallExpression"), ("name", .string name),
      ("params", .array items)]
  | foreign typeName, _ => .error (.noRecord typeName)

/-- The records of nodes, one after the other. -/
def toJsons : List Node → Nat → Except RecordError (List Json)
  | [], _ => .ok []
  | n :: ns, depth => do
    let item ← n.toJson depth
    return item :: (← toJsons ns depth)

end

end Node

mutual

/-- The node of an expression. -/
def Expr.toNode : Expr → Node
  | .number text => .number text
  | .string text => .string text
  | .call name params => .call name (toNodes params)

/-- The nodes of expressions. -/
def toNodes : List Expr → List Node
  | [] => []
  | e :: es => e.toNode :: toNodes es

end

/-- The node of a program. -/
def Program.toNode (p : Program) : Node :=
  .program (toNodes p.body)

end CallForm.Source
