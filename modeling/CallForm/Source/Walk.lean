import CallForm.Source.Node

/-!
# Walks through a source tree

A walk goes through a tree depth first: a node is entered before its children and left
after them, and each visit knows the node that directly holds the visited one.  What is
called at a visit is up to a `Visitor`, and a state is handed from call to call.  The
visits that are still to come are kept in a list, so a tree may be as deep as it likes.

A program below the root or a foreign node is misplaced.  A walk breaks off where it
would enter one, and what was called before stays.

`Node.traverse` walks through a tree and keeps the visits that someone asked for.
-/

namespace CallForm.Source

/-- The types of nodes that can be visited. -/
inductive NodeKind where
  | program
  | number
  | string
  | call
  deriving DecidableEq

/-- The word for a type of nodes. -/
def NodeKind.word : NodeKind → String
  | program => "program"
  | number => "number_literal"
  | string => "string_literal"
  | call => "call_expression"

/-- The type of a node that is not foreign. -/
def Node.kind? : Node → Option NodeKind
  | program _ => some .program
  | number _ => some .number
  | string _ => some .string
  | call .. => some .call
  | foreign _ => none

/-- Whether a node is entered or left. -/
inductive Moment where
  | enter
  | exit
  deriving DecidableEq

/-- The word for a moment. -/
def Moment.word : Moment → String
  | enter => "enter"
  | exit => "exit"

/-- A visit of a node, which `parent` directly holds unless it is the root. -/
structure Visit where
  moment : Moment
  node : Node
  parent : Option Node

namespace Visit

/-- The type of a visited node, unless it is misplaced. -/
def kind? (v : Visit) : Option NodeKind :=
  match v.node, v.parent with
  | .program _, some _ => none
  | n, _ => n.kind?

/-- The visits that a visit leads to: when a node is entered, its children are entered next,
and then the node is left. -/
def next (v : Visit) : List Visit :=
  match v.moment with
  | .enter => v.node.children.map (⟨.enter, ·, some v.node⟩) ++ [⟨.exit, v.node, v.parent⟩]
  | .exit => []

/-- The number of visits that come of a visit, itself included. -/
def weight (v : Visit) : Nat :=
  match v.moment with
  | .enter => 2 * v.node.size
  | .exit => 1

theorem total_weight_enter (parent : Option Node) (ns : List Node) :
  total weight (ns.map (⟨.enter, ·, parent⟩)) = 2 * total Node.size ns
  := by
  induction ns with
  | nil => rfl
  | cons n ns ih =>
      simp only [List.map_cons, total_cons, ih, weight]
      omega

/-- Fewer visits come of those that a visit leads to than of the visit itself. -/
theorem total_weight_next_lt (v : Visit) :
  total weight v.next < v.weight
  := by
  obtain ⟨_ | _, n, parent⟩ := v
  · have hsize := n.size_eq
    simp only [next, total_append, total_weight_enter, total_cons, total_nil, weight]
    omega
  · simp [next, weight]

end Visit

/-- A node that may not stand where it does: the name of its type. -/
structure Misplaced where
  typeName : String

/-- The message about a misplaced node. -/
def Misplaced.message (m : Misplaced) : String :=
  "traverse: " ++ m.typeName ++ " cannot appear as a child node"

/-! ### Walking -/

/-- What is called when a node of some type is entered or left, if anything is.  A call
gets the node, its parent and the state, and gives the next state. -/
structure Visitor (σ : Type) where
  callback? : NodeKind → Moment → Option (Node → Option Node → σ → σ)

variable {σ : Type}

/-- The state after the call, if there is one, at a visit of a node of the given type. -/
def Visitor.call (visitor : Visitor σ) (kind : NodeKind) (v : Visit) (state : σ) : σ :=
  match visitor.callback? kind v.moment with
  | some f => f v.node v.parent state
  | none => state

/-- How far a walk came: the state after its calls, and the misplaced node at which it
broke off, if it did. -/
structure Progress (σ : Type) where
  state : σ
  stop : Option Misplaced

/-- Makes the visits in the list, the first one first.  What a visit leads to comes before
the others. -/
def walkAll (visitor : Visitor σ) (state : σ) : List Visit → Progress σ
  | [] => ⟨state, none⟩
  | v :: others =>
    match v.kind? with
    | none => ⟨state, some ⟨v.node.typeName⟩⟩
    | some kind => walkAll visitor (visitor.call kind v state) (v.next ++ others)
termination_by visits => total Visit.weight visits
decreasing_by
  have hnext := v.total_weight_next_lt
  simp only [total_append, total_cons]
  omega

/-- The walk through a whole tree, from a state on. -/
def Node.walk (visitor : Visitor σ) (state : σ) (root : Node) : Progress σ :=
  walkAll visitor state [⟨.enter, root, none⟩]

/-! ### Recording -/

/-- The visitor that keeps those visits that `wanted` asks for, the latest first. -/
def Visitor.recorder (wanted : NodeKind → Moment → Bool) : Visitor (List Visit) where
  callback? kind moment :=
    if wanted kind moment then some fun node parent kept => ⟨moment, node, parent⟩ :: kept
    else none

/-- The visits that were kept of a walk, and the misplaced node at which it broke off, if
it did. -/
structure Walk where
  visits : List Visit
  stop : Option Misplaced

/-- The walk through a tree with those visits that `wanted` asks for. -/
def Node.traverse (wanted : NodeKind → Moment → Bool) (root : Node) : Walk :=
  let progress := root.walk (.recorder wanted) []
  ⟨progress.state.reverse, progress.stop⟩

end CallForm.Source
