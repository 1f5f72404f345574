import CallForm.Error
import CallForm.Source.Node
import CallForm.Target.Node

/-!
# The target tree of a source program

Each node of the source has one node in the target: a literal keeps its text, and a
call becomes the call of its name with the nodes of its parameters as arguments.  Each
expression of the program becomes a statement, and nothing below it does.  The first
node, in the order of the source, that is neither a literal nor a call makes
`ofSource` fail.

The nodes that are still to be converted are kept in a list, so a tree may be as deep as
it likes.  A call is put into its place before its arguments are there: it holds the number
of a list that is filled later, and `nodesIn` reads the finished lists.
-/

namespace CallForm.Target

/-- A node of the type with the given name has no target. -/
def unsupported (typeName : String) : CompileError :=
  .transforming ("Unsupported node type '" ++ typeName ++ "'")

/-- A target node in the making.  The arguments of a call are in the list with the given
number. -/
inductive Draft where
  | number (text : String)
  | string (text : String)
  | call (callee : String) (arguments : Nat)
  | statement (expression : Draft)

/-- The lists of drafts by their numbers, each with the latest draft first. -/
abbrev Drafts := Array (List Draft)

/-- A source node to be converted: whether it stands below another node, and the number of
the list that its draft goes into. -/
structure Task where
  node : Source.Node
  nested : Bool
  out : Nat

/-- The tasks of nodes that go into the same list. -/
def tasks (nested : Bool) (out : Nat) (ns : List Source.Node) : List Task :=
  ns.map (⟨·, nested, out⟩)

theorem total_size_tasks (nested : Bool) (out : Nat) (ns : List Source.Node) :
  total (·.node.size) (tasks nested out ns) = total Source.Node.size ns
  := by
  induction ns with
  | nil => rfl
  | cons n ns ih => rw [tasks, List.map_cons, total_cons, total_cons, ← ih, tasks]

/-- A draft as it stands in its list: as a statement, unless it is nested. -/
def Draft.placed (nested : Bool) (d : Draft) : Draft :=
  if nested then d else .statement d

namespace Drafts

/-- Puts a draft behind those in the list `out`. -/
def put (ds : Drafts) (nested : Bool) (out : Nat) (d : Draft) : Drafts :=
  ds.modify out (d.placed nested :: ·)

/-- Carries out the tasks, the first one first.  A call begins a list, and its parameters
come before the other tasks. -/
def fill (ds : Drafts) : List Task → Except CompileError Drafts
  | [] => .ok ds
  | ⟨.number text, nested, out⟩ :: others => fill (ds.put nested out (.number text)) others
  | ⟨.string text, nested, out⟩ :: others => fill (ds.put nested out (.string text)) others
  | ⟨.call name params, nested, out⟩ :: others =>
    fill ((ds.put nested out (.call name ds.size)).push []) (tasks true ds.size params ++ others)
  | ⟨.program _, _, _⟩ :: _ => .error (unsupported "Program")
  | ⟨.foreign typeName, _, _⟩ :: _ => .error (unsupported typeName)
termination_by work => total (·.node.size) work
decreasing_by
  · simp [Source.Node.size_eq]
  · simp [Source.Node.size_eq]
  · have hcall := (Source.Node.call name params).size_eq
    rw [Source.Node.children] at hcall
    simp only [total_append, total_cons, total_size_tasks]
    omega

end Drafts

/-! ### Reading the finished lists -/

/-- The node of a draft, given the nodes in each list. -/
def Draft.node (nodesIn : Nat → List Node) : Draft → Node
  | number text => .number text
  | string text => .string text
  | call callee arguments => .call callee (nodesIn arguments)
  | statement e => .statement (e.node nodesIn)

/-- The nodes in the list with the given number.  The arguments of a call are in a list that
was begun after the one that the call is in. -/
def Drafts.nodesIn (ds : Drafts) (number : Nat) : List Node :=
  if _ : number < ds.size then
    ds[number].reverse.map <| Draft.node fun later =>
      if _ : number < later then ds.nodesIn later else []
  else []
termination_by ds.size - number

/-- The target of the program with the given body. -/
def ofSource (body : List Source.Node) : Except CompileError Node := do
  let ds ← Drafts.fill #[[]] (tasks false 0 body)
  return .program (ds.nodesIn 0)

end CallForm.Target
