import CallForm.Proofs.Source.Trace
import CallForm.Source.Outline
import Mathlib.Tactic.Use

/-!
# The lines of an outline

`Node.places` lists the nodes of a tree in pre-order, each with its ancestors.  An outline has
one line for each of them, indented by the number of ancestors.  If a node is misplaced, no
outline is made, and the printer stands as deep as the first misplaced node.

The depth of a sheet is the number of ancestors at every point of a walk: a node that is
entered becomes an ancestor of what is below it, and is left before its siblings come.  So a
node among other visits that are still to come puts its lines on the sheet, and the others go
on at the depth at which it was found.
-/

namespace CallForm.Source

/-- A node of a tree with its ancestors, the nearest one first. -/
structure Place where
  ancestors : List Node
  node : Node

namespace Place

/-- Whether the node may not stand where it does: it is foreign, or a program below the
root. -/
def isMisplaced (p : Place) : Bool :=
  match p.node with
  | .program _ => !p.ancestors.isEmpty
  | .number _ | .string _ | .call .. => false
  | .foreign _ => true

/-- The line of the node: the indent once for each ancestor, and the headline. -/
def line (indent : String) (p : Place) : String :=
  String.join (List.replicate p.ancestors.length indent) ++ p.node.headline

end Place

mutual

/-- The nodes of a tree in pre-order, the root of which has the given ancestors. -/
def Node.places (ancestors : List Node) : Node → List Place
  | .program body => ⟨ancestors, .program body⟩ :: placesAll (.program body :: ancestors) body
  | .number text => [⟨ancestors, .number text⟩]
  | .string text => [⟨ancestors, .string text⟩]
  | .call name params =>
    ⟨ancestors, .call name params⟩ :: placesAll (.call name params :: ancestors) params
  | .foreign typeName => [⟨ancestors, .foreign typeName⟩]

/-- The nodes of trees in pre-order, the roots of which have the given ancestors. -/
def placesAll (ancestors : List Node) : List Node → List Place
  | [] => []
  | n :: ns => n.places ancestors ++ placesAll ancestors ns

end

mutual

/-- The places of a tree are those of its nodes in pre-order. -/
theorem map_node_places (ancestors : List Node) :
    ∀ n : Node, (n.places ancestors).map (·.node) = n.preorder
  | .program body => by rw [Node.places, List.map_cons, map_node_placesAll, Node.preorder]
  | .number text => rfl
  | .string text => rfl
  | .call name params => by rw [Node.places, List.map_cons, map_node_placesAll, Node.preorder]
  | .foreign typeName => rfl

/-- The places of trees are those of their nodes in pre-order. -/
theorem map_node_placesAll (ancestors : List Node) :
    ∀ ns : List Node, (placesAll ancestors ns).map (·.node) = Node.preorders ns
  | [] => rfl
  | n :: ns => by
      rw [placesAll, List.map_append, map_node_places, map_node_placesAll, Node.preorders]

end

/-- A node comes before what is below it, of which it is the nearest ancestor. -/
theorem places_eq (ancestors : List Node) (n : Node) :
  n.places ancestors = ⟨ancestors, n⟩ :: placesAll (n :: ancestors) n.children
  := by
  cases n <;> rfl

/-! ### Walking with a sheet -/

variable (indent : String)

/-- The progress of a walk that puts the lines of nodes on a sheet, beginning with the given
lines.  It breaks off at the first misplaced node; behind the last one, `go` tells how it goes
on. -/
def putLines (go : List String → Progress Sheet) (lines : List String) :
    List Place → Progress Sheet
  | [] => go lines
  | p :: ps =>
    if p.isMisplaced then ⟨⟨p.ancestors.length, lines⟩, some ⟨p.node.typeName⟩⟩
    else putLines go (p.line indent :: lines) ps

/-- The lines of the nodes before the first misplaced one. -/
def linesBefore (ps : List Place) : List String :=
  (ps.takeWhile (!·.isMisplaced)).map (·.line indent)

theorem putLines_append (go : List String → Progress Sheet) (lines : List String)
    (ps qs : List Place) :
  putLines indent go lines (ps ++ qs)
    = putLines indent (fun lines => putLines indent go lines qs) lines ps
  := by
  induction ps generalizing lines with
  | nil => rfl
  | cons p ps ih => simp only [List.cons_append, putLines, ih]

/-- A walk breaks off at the first misplaced node, with the lines of the nodes before it on the
sheet and as deep as it has ancestors, or puts all the lines on the sheet. -/
theorem putLines_eq (go : List String → Progress Sheet) (lines : List String) (ps : List Place) :
  putLines indent go lines ps
    = match ps.find? (·.isMisplaced) with
      | none => go ((ps.map (·.line indent)).reverse ++ lines)
      | some p => ⟨⟨p.ancestors.length, (linesBefore indent ps).reverse ++ lines⟩,
          some ⟨p.node.typeName⟩⟩
  := by
  induction ps generalizing lines with
  | nil => rfl
  | cons p ps ih =>
      cases hp : p.isMisplaced with
      | true => simp [putLines, linesBefore, hp]
      | false =>
          rw [putLines, if_neg (by simp [hp]), ih, List.find?_cons_of_neg (by simp [hp])]
          simp [linesBefore, hp]

/-- A node that is in place gets its line, and its children come before the other visits. -/
theorem walkAll_enter {n : Node} {parent : Option Node}
    (h : Visit.isPlaced ⟨.enter, n, parent⟩ = true) (sheet : Sheet) (others : List Visit) :
  walkAll (Sheet.visitor indent) sheet (⟨.enter, n, parent⟩ :: others)
    = walkAll (Sheet.visitor indent) (sheet.enter indent n)
      (n.children.map (⟨.enter, ·, some n⟩) ++ ⟨.exit, n, parent⟩ :: others)
  := by
  rw [Visit.isPlaced_eq_isSome_kind?] at h
  obtain ⟨kind, hkind⟩ := Option.isSome_iff_exists.mp h
  rw [walkAll]
  simp [hkind, Visitor.call, Sheet.visitor, Visit.next]

/-- Behind a node that is left, the sheet is one level higher. -/
theorem walkAll_exit {n : Node} {parent : Option Node}
    (h : Visit.isPlaced ⟨.exit, n, parent⟩ = true) (sheet : Sheet) (others : List Visit) :
  walkAll (Sheet.visitor indent) sheet (⟨.exit, n, parent⟩ :: others)
    = walkAll (Sheet.visitor indent) sheet.exit others
  := by
  rw [Visit.isPlaced_eq_isSome_kind?] at h
  obtain ⟨kind, hkind⟩ := Option.isSome_iff_exists.mp h
  rw [walkAll]
  simp [hkind, Visitor.call, Sheet.visitor, Visit.next]

/-- A walk breaks off where it would enter a misplaced node. -/
theorem walkAll_misplaced {v : Visit} (h : v.isPlaced = false) (sheet : Sheet)
    (others : List Visit) :
  walkAll (Sheet.visitor indent) sheet (v :: others) = ⟨sheet, some ⟨v.node.typeName⟩⟩
  := by
  rw [Visit.isPlaced_eq_isSome_kind?, Option.isSome_eq_false_iff, Option.isNone_iff_eq_none] at h
  rw [walkAll, h]

/-- Whether a node is misplaced shows when it is visited. -/
theorem isPlaced_eq (moment : Moment) (ancestors : List Node) (n : Node) :
  Visit.isPlaced ⟨moment, n, ancestors.head?⟩ = !Place.isMisplaced ⟨ancestors, n⟩
  := by
  cases n <;> cases ancestors <;> rfl

/-- A node puts its line and those of what is below it on the sheet, before the other visits are
made, if its children do so. -/
theorem walkAll_around {n : Node} {ancestors : List Node}
    (hchildren : ∀ lines others,
      walkAll (Sheet.visitor indent) ⟨ancestors.length + 1, lines⟩
          (n.children.map (⟨.enter, ·, some n⟩) ++ others)
        = putLines indent
          (fun lines => walkAll (Sheet.visitor indent) ⟨ancestors.length + 1, lines⟩ others) lines
          (placesAll (n :: ancestors) n.children))
    (lines : List String) (others : List Visit) :
  walkAll (Sheet.visitor indent) ⟨ancestors.length, lines⟩ (⟨.enter, n, ancestors.head?⟩ :: others)
    = putLines indent
      (fun lines => walkAll (Sheet.visitor indent) ⟨ancestors.length, lines⟩ others) lines
      (n.places ancestors)
  := by
  rw [places_eq, putLines]
  cases hmisplaced : Place.isMisplaced ⟨ancestors, n⟩ with
  | true =>
      rw [walkAll_misplaced]
      · rfl
      · rw [isPlaced_eq, hmisplaced]
        rfl
  | false =>
      have hplaced : ∀ moment, Visit.isPlaced ⟨moment, n, ancestors.head?⟩ = true := by
        intro moment
        rw [isPlaced_eq, hmisplaced]
        rfl
      rw [walkAll_enter indent (hplaced .enter)]
      simp only [Sheet.enter, hchildren, walkAll_exit indent (hplaced .exit)]
      rfl

mutual

/-- A node puts its line and those of what is below it on the sheet, before the other visits are
made. -/
theorem walkAll_places (ancestors : List Node) :
    ∀ (n : Node) (lines : List String) (others : List Visit),
      walkAll (Sheet.visitor indent) ⟨ancestors.length, lines⟩
          (⟨.enter, n, ancestors.head?⟩ :: others)
        = putLines indent
          (fun lines => walkAll (Sheet.visitor indent) ⟨ancestors.length, lines⟩ others) lines
          (n.places ancestors)
  | .program body => walkAll_around indent (walkAll_placesAll (.program body) ancestors body)
  | .number _ => walkAll_around indent fun _ _ => rfl
  | .string _ => walkAll_around indent fun _ _ => rfl
  | .call name params =>
      walkAll_around indent (walkAll_placesAll (.call name params) ancestors params)
  | .foreign _ => walkAll_around indent fun _ _ => rfl

/-- The nodes below a node put their lines on the sheet, before the other visits are made. -/
theorem walkAll_placesAll (parent : Node) (ancestors : List Node) :
    ∀ (ns : List Node) (lines : List String) (others : List Visit),
      walkAll (Sheet.visitor indent) ⟨ancestors.length + 1, lines⟩
          (ns.map (⟨.enter, ·, some parent⟩) ++ others)
        = putLines indent
          (fun lines => walkAll (Sheet.visitor indent) ⟨ancestors.length + 1, lines⟩ others) lines
          (placesAll (parent :: ancestors) ns)
  | [], lines, others => rfl
  | n :: ns, lines, others => by
      have hfirst := walkAll_places (parent :: ancestors) n lines
        (ns.map (⟨.enter, ·, some parent⟩) ++ others)
      rw [List.map_cons, List.cons_append, placesAll, putLines_append]
      simp only [← walkAll_placesAll parent ancestors ns]
      apply hfirst

end

/-- The walk that makes an outline breaks off at the first misplaced node, as deep as this has
ancestors and with the lines of the nodes before it on the sheet, or puts the lines of all nodes
on the sheet. -/
theorem walk_visitor (root : Node) :
  root.walk (Sheet.visitor indent) .empty
    = match (root.places []).find? (·.isMisplaced) with
      | none => ⟨⟨0, ((root.places []).map (·.line indent)).reverse⟩, none⟩
      | some p => ⟨⟨p.ancestors.length, (linesBefore indent (root.places [])).reverse⟩,
          some ⟨p.node.typeName⟩⟩
  := by
  have hwalk : root.walk (Sheet.visitor indent) .empty
      = putLines indent (fun lines => walkAll (Sheet.visitor indent) ⟨0, lines⟩ []) []
        (root.places []) :=
    walkAll_places indent [] root [] []
  rw [hwalk, putLines_eq]
  simp only [List.append_nil, walkAll]

/-! ### Printing -/

namespace Printer

/-- The printer after it has printed trees, one after the other. -/
def after (p : Printer) (roots : List Node) : Printer :=
  roots.foldl (fun p root => (p.print root).2) p

/-- Only its indent is left of a printer that is cleared. -/
theorem clear_eq (p : Printer) :
  p.clear = new p.indent
  := rfl

/-- A printer keeps its indent, whether it succeeds or fails. -/
theorem indent_print (p : Printer) (root : Node) :
  (p.print root).2.indent = p.indent
  := by
  rw [print]
  split
  · rfl
  · rfl

theorem indent_after (p : Printer) (roots : List Node) :
  (p.after roots).indent = p.indent
  := by
  induction roots generalizing p with
  | nil => rfl
  | cons root roots ih => exact (ih (p.print root).2).trans (p.indent_print root)

/-- A cleared printer prints as a new one does. -/
theorem print_eq (p : Printer) (root : Node) :
  p.print root
    = match (root.places []).find? (·.isMisplaced) with
      | none =>
        (.ok ("\n".intercalate ((root.places []).map (·.line p.indent))),
          ⟨⟨0, ((root.places []).map (·.line p.indent)).reverse⟩, p.indent⟩)
      | some q =>
        (.error ⟨q.node.typeName⟩,
          ⟨⟨q.ancestors.length, (linesBefore p.indent (root.places [])).reverse⟩, p.indent⟩)
  := by
  have hwalk : root.walk (Sheet.visitor p.clear.indent) p.clear.toSheet = _ :=
    walk_visitor p.indent root
  rw [print, hwalk]
  cases (root.places []).find? (·.isMisplaced) with
  | none => simp [Sheet.text, clear_eq, new]
  | some q => rfl

end Printer

/-- Whatever trees were printed before, with or without success, a printer makes an outline that
has one line for each node, in pre-order, and stands at the top then.  If a node is misplaced it
fails at the first one in pre-order, and stands as deep as this has ancestors, with the lines of
the nodes before it on its sheet. -/
theorem print_after_eq (indent : String) (history : List Node) (root : Node) :
  ((Printer.new indent).after history).print root
    = (match (root.places []).find? (·.isMisplaced) with
      | none =>
        (.ok ("\n".intercalate ((root.places []).map (·.line indent))),
          ⟨⟨0, ((root.places []).map (·.line indent)).reverse⟩, indent⟩)
      | some p =>
        (.error ⟨p.node.typeName⟩,
          ⟨⟨p.ancestors.length, (linesBefore indent (root.places [])).reverse⟩, indent⟩))
  ∧ (root.places []).map (·.node) = root.preorder
  := by
  constructor
  · rw [Printer.print_eq, Printer.indent_after]
    rfl
  · apply map_node_places

end CallForm.Source
