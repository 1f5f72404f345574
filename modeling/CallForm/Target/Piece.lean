import CallForm.Error
import CallForm.Target.Node
import CallForm.Worklist

/-!
# Texts of target trees

`Node.render` writes a target tree as text, piece by piece.  The pieces that are still to
be written are kept in a list, so a tree may be as deep as it likes.  The first node without
a text, in the order of the text, makes it fail.
-/

namespace CallForm.Target

/-- What is still to be written: a text that stands as it is, or a node. -/
inductive Piece where
  | text (contents : String)
  | node (n : Node)

/-- Nodes with a comma between them. -/
def separated (ns : List Node) : List Piece :=
  (ns.map .node).intersperse (.text ", ")

/-- The pieces of a node, if it has a text.  The contents of a string stand between the
quotes as they are. -/
def Node.pieces? : Node → Option (List Piece)
  | program body => some (body.map .node)
  | statement e => some [.node e, .text ";"]
  | call callee arguments =>
    some (.text (callee ++ "(") :: separated arguments ++ [.text ")"])
  | number text => some [.text text]
  | string text => some [.text ("\"" ++ text ++ "\"")]
  | raw text => some [.text text]
  | identifier _ | foreign _ => none

mutual

/-- A bound on the number of pieces that come of a node, itself included. -/
def Node.weight : Node → Nat
  | .program body => weights body + 1
  | .statement e => e.weight + 2
  | .call _ arguments => weights arguments + 3
  | .number _ | .string _ | .identifier _ | .raw _ | .foreign _ => 2

/-- A bound on the number of pieces that come of nodes with a comma between them. -/
def weights : List Node → Nat
  | [] => 0
  | n :: ns => n.weight + 1 + weights ns

end

/-- A bound on the number of pieces that come of a piece, itself included. -/
def Piece.weight : Piece → Nat
  | text _ => 1
  | node n => n.weight

theorem total_weight_nodes_le (ns : List Node) :
  total Piece.weight (ns.map Piece.node) ≤ weights ns
  := by
  induction ns with
  | nil => simp
  | cons n ns ih =>
      simp only [List.map_cons, total_cons, Piece.weight, weights]
      omega

theorem total_weight_separated_le (ns : List Node) :
  total Piece.weight (separated ns) ≤ weights ns
  := by
  rw [separated]
  induction ns with
  | nil => simp
  | cons n ns ih =>
      cases ns with
      | nil => simp [Piece.weight, weights]
      | cons m ms =>
          simp only [List.map_cons, List.intersperse_cons_cons, total_cons, Piece.weight,
            weights] at ih ⊢
          omega

/-- Fewer pieces come of the pieces of a node than of the node itself. -/
theorem total_weight_pieces_lt {n : Node} {pieces : List Piece} (h : n.pieces? = some pieces) :
  total Piece.weight pieces < n.weight
  := by
  cases n with
  | program body =>
      obtain rfl := Option.some.inj h
      have hbody := total_weight_nodes_le body
      rw [Node.weight]
      omega
  | statement e =>
      obtain rfl := Option.some.inj h
      simp [Piece.weight, Node.weight]
  | call callee arguments =>
      obtain rfl := Option.some.inj h
      have harguments := total_weight_separated_le arguments
      simp only [List.cons_append, total_cons, total_append, total_nil, Piece.weight,
        Node.weight]
      omega
  | number text =>
      obtain rfl := Option.some.inj h
      simp [Piece.weight, Node.weight]
  | string text =>
      obtain rfl := Option.some.inj h
      simp [Piece.weight, Node.weight]
  | identifier name => cases h
  | raw text =>
      obtain rfl := Option.some.inj h
      simp [Piece.weight, Node.weight]
  | foreign typeName => cases h

/-- A node of the type with the given name has no text. -/
def notRenderable (typeName : String) : CompileError :=
  .generating ("Cannot generate code for '" ++ typeName ++ "'")

/-- Writes the pieces in the list behind the text written so far, the first one first.  The
pieces of a node come before the others. -/
def writeAll (written : String) : List Piece → Except CompileError String
  | [] => .ok written
  | .text contents :: others => writeAll (written ++ contents) others
  | .node n :: others =>
    match _h : n.pieces? with
    | none => .error (notRenderable n.typeName)
    | some pieces => writeAll written (pieces ++ others)
termination_by pieces => total Piece.weight pieces
decreasing_by
  · simp [Piece.weight]
  · have hpieces := total_weight_pieces_lt _h
    simp only [total_append, total_cons, Piece.weight]
    omega

/-- The text of a node. -/
def Node.render (n : Node) : Except CompileError String :=
  writeAll "" [.node n]

end CallForm.Target
