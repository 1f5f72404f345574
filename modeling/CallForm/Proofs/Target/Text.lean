import CallForm.Target.Piece

/-!
# The text of a target tree by recursion

`Node.text` writes a tree as text by recursion on its nodes.  Rendering piece by piece
gives that text, unless there are nodes without a text: then it fails because of the first
of them in pre-order.  A text that stands where a node should is no node without a text: it
stands for itself.

The pieces that are still to be written stand for their texts, one behind the other, and
for the nodes in them in pre-order.  Taking a node apart into its pieces changes neither.
-/

namespace CallForm.Target

mutual

/-- The text of a node, if all nodes below it have texts. -/
def Node.text : Node → String
  | .program body => String.join (texts body)
  | .statement e => e.text ++ ";"
  | .call callee arguments => callee ++ "(" ++ ", ".intercalate (texts arguments) ++ ")"
  | .number text => text
  | .string text => "\"" ++ text ++ "\""
  | .raw text => text
  | .identifier _ | .foreign _ => ""

/-- The texts of nodes. -/
def texts : List Node → List String
  | [] => []
  | n :: ns => n.text :: texts ns

end

/-- Whether a node has a text, given the texts of the nodes below it. -/
def Node.hasText : Node → Bool
  | .program _ | .statement _ | .call .. | .number _ | .string _ | .raw _ => true
  | .identifier _ | .foreign _ => false

/-! ### What pieces stand for -/

/-- The text of a piece. -/
def Piece.contents : Piece → String
  | text contents => contents
  | node n => n.text

/-- The nodes in a piece in pre-order. -/
def Piece.nodes : Piece → List Node
  | text _ => []
  | node n => n.preorder

theorem contents_nodes (ns : List Node) :
  (ns.map Piece.node).map Piece.contents = texts ns
  := by
  induction ns with
  | nil => rfl
  | cons n ns ih => rw [List.map_cons, List.map_cons, ih, texts, Piece.contents]

theorem nodes_nodes (ns : List Node) :
  (ns.map Piece.node).flatMap Piece.nodes = Node.preorders ns
  := by
  induction ns with
  | nil => rfl
  | cons n ns ih => rw [List.map_cons, List.flatMap_cons, ih, Node.preorders, Piece.nodes]

/-- The pieces of nodes with a comma between them stand for texts with a comma between
them. -/
theorem join_separated (ns : List Node) :
  String.join ((separated ns).map Piece.contents) = ", ".intercalate (texts ns)
  := by
  rw [separated]
  induction ns with
  | nil => simp [texts]
  | cons n ns ih =>
      cases ns with
      | nil => simp [texts, Piece.contents]
      | cons m ms =>
          simp only [List.map_cons, texts] at ih ⊢
          rw [List.intersperse_cons_cons, List.map_cons, List.map_cons, String.join_cons,
            String.join_cons, ih, String.intercalate_cons_cons, ← String.append_assoc,
            Piece.contents, Piece.contents]

/-- Commas are no nodes. -/
theorem nodes_separated (ns : List Node) :
  (separated ns).flatMap Piece.nodes = Node.preorders ns
  := by
  rw [separated]
  induction ns with
  | nil => rfl
  | cons n ns ih =>
      cases ns with
      | nil => simp [Node.preorders, Piece.nodes]
      | cons m ms =>
          rw [Node.preorders, ← ih]
          simp [Piece.nodes]

/-- A node is without a text if there are no pieces to write it with. -/
theorem pieces?_eq_none_iff {n : Node} :
  n.pieces? = none ↔ n.hasText = false
  := by
  cases n <;> simp [Node.pieces?, Node.hasText]

/-- The pieces of a node stand for its text. -/
theorem join_pieces {n : Node} {pieces : List Piece} (h : n.pieces? = some pieces) :
  String.join (pieces.map Piece.contents) = n.text
  := by
  cases n with
  | program body =>
      obtain rfl := Option.some.inj h
      rw [contents_nodes, Node.text]
  | statement e =>
      obtain rfl := Option.some.inj h
      simp [Piece.contents, Node.text]
  | call callee arguments =>
      obtain rfl := Option.some.inj h
      simp [Piece.contents, join_separated, Node.text, String.append_assoc]
  | number text =>
      obtain rfl := Option.some.inj h
      simp [Piece.contents, Node.text]
  | string text =>
      obtain rfl := Option.some.inj h
      simp [Piece.contents, Node.text]
  | identifier name => cases h
  | raw text =>
      obtain rfl := Option.some.inj h
      simp [Piece.contents, Node.text]
  | foreign typeName => cases h

/-- The pieces of a node stand for the nodes below it. -/
theorem nodes_pieces {n : Node} {pieces : List Piece} (h : n.pieces? = some pieces) :
  n.preorder = n :: pieces.flatMap Piece.nodes
  := by
  cases n with
  | program body =>
      obtain rfl := Option.some.inj h
      rw [nodes_nodes, Node.preorder]
  | statement e =>
      obtain rfl := Option.some.inj h
      simp [Piece.nodes, Node.preorder]
  | call callee arguments =>
      obtain rfl := Option.some.inj h
      simp [Piece.nodes, nodes_separated, Node.preorder]
  | number text =>
      obtain rfl := Option.some.inj h
      rfl
  | string text =>
      obtain rfl := Option.some.inj h
      rfl
  | identifier name => cases h
  | raw text =>
      obtain rfl := Option.some.inj h
      rfl
  | foreign typeName => cases h

/-- The root of a tree comes first in pre-order. -/
theorem Node.exists_preorder_eq_cons (n : Node) :
  ∃ below, n.preorder = n :: below
  := by
  cases n <;> exact ⟨_, by rw [Node.preorder]⟩

/-! ### Writing -/

/-- What writing pieces gives is read off what they stand for. -/
theorem writeAll_eq (written : String) (pieces : List Piece) :
  writeAll written pieces
    = match (pieces.flatMap Piece.nodes).find? (!·.hasText) with
      | none => .ok (written ++ String.join (pieces.map Piece.contents))
      | some n => .error (notRenderable n.typeName)
  := by
  fun_induction writeAll written pieces with
  | case1 written => simp
  | case2 written contents others ih =>
      rw [ih]
      simp [Piece.nodes, Piece.contents, String.append_assoc]
  | case3 written n others h =>
      obtain ⟨below, hn⟩ := n.exists_preorder_eq_cons
      have htext := pieces?_eq_none_iff.mp h
      simp [Piece.nodes, hn, htext]
  | case4 written n others pieces h ih =>
      have htext : n.hasText = true := by
        simpa using mt pieces?_eq_none_iff.mpr (by simp [h])
      rw [ih]
      simp [Piece.nodes, Piece.contents, nodes_pieces h, htext, ← join_pieces h]

/-- A tree whose nodes all have texts is rendered as its text. -/
theorem render_of_hasText {n : Node} (h : n.preorder.find? (!·.hasText) = none) :
  n.render = .ok n.text
  := by
  rw [Node.render, writeAll_eq]
  simp [Piece.nodes, Piece.contents, h]

end CallForm.Target
