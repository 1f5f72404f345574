import CallForm.Depth
import CallForm.Json

/-!
# Target trees

The tree of a text in call form: a program is a list of statements, a statement ends
an expression, and an expression is a number, a string or a call with arguments.

`Node` puts no bound on what may stand where.  Programs and statements may stand
anywhere.  So may identifiers and nodes of a foreign type, which have no call form, and so
may texts, which are no nodes but stand for themselves in the call form.
-/

namespace CallForm.Target

/-- A node of a target tree. -/
inductive Node where
  | program (body : List Node)
  | statement (expression : Node)
  | call (callee : String) (arguments : List Node)
  | number (text : String)
  | string (text : String)
  /-- A name that stands by itself and not as the callee of a call. -/
  | identifier (name : String)
  /-- A text that stands where a node should. -/
  | raw (text : String)
  /-- Anything else, known by the name of its type. -/
  | foreign (typeName : String)

namespace Node

/-- The name of the type of a node. -/
def typeName : Node → String
  | program _ => "Program"
  | statement _ => "ExpressionStatement"
  | call .. => "CallExpression"
  | number _ => "NumberLiteral"
  | string _ => "StringLiteral"
  | identifier _ => "Identifier"
  | raw _ => "str"
  | foreign typeName => typeName

mutual

/-- The nodes of a tree in pre-order, which is the order of their texts. -/
def preorder : Node → List Node
  | program body => program body :: preorders body
  | statement e => statement e :: e.preorder
  | call callee arguments => call callee arguments :: preorders arguments
  | number text => [number text]
  | string text => [string text]
  | identifier name => [identifier name]
  | raw text => [raw text]
  | foreign typeName => [foreign typeName]

/-- The nodes of trees in pre-order, one tree after the other. -/
def preorders : List Node → List Node
  | [] => []
  | n :: ns => n.preorder ++ preorders ns

end

mutual

/-- The record of a node: the name of its type and its parts.  A record takes a level of the
stack, and the list of the records inside it takes another.  Texts and what is foreign have no
records. -/
def toJson : Node → Nat → Except RecordError Json
  | program body, depth => do
    let items ← toJsons body (← RecordError.below 2 depth)
    return .object [("type", .string "Program"), ("body", .array items)]
  | statement e, depth => do
    let expression ← e.toJson (← RecordError.below 1 depth)
    return .object [("type", .string "ExpressionStatement"), ("expression", expression)]
  | call callee arguments, depth => do
    let items ← toJsons arguments (← RecordError.below 2 depth)
    return .object [("type", .string "CallExpression"),
      ("callee", .object [("type", .string "Identifier"), ("name", .string callee)]),
      ("arguments", .array items)]
  | number text, depth => do
    let _ ← RecordError.below 1 depth
    return .object [("type", .string "NumberLiteral"), ("value", .string text)]
  | string text, depth => do
    let _ ← RecordError.below 1 depth
    return .object [("type", .string "StringLiteral"), ("value", .string text)]
  | identifier name, depth => do
    let _ ← RecordError.below 1 depth
    return .object [("type", .string "Identifier"), ("name", .string name)]
  | raw _, _ => .error (.noRecord "str")
  | foreign typeName, _ => .error (.noRecord typeName)

/-- The records of nodes, one after the other. -/
def toJsons : List Node → Nat → Except RecordError (List Json)
  | [], _ => .ok []
  | n :: ns, depth => do
    let item ← n.toJson depth
    return item :: (← toJsons ns depth)

end

end Node

end CallForm.Target
