import CallForm.Source.Walk

/-!
# Outlines of source trees

The outline of a tree has one line for each node, in the order in which a walk enters
them, indented by the number of its ancestors.  The text of a string is quoted, so it
takes one line whatever it holds.

A `Printer` makes outlines with an indent of its own, on a `Sheet` of its own that it clears
before each.  The sheet tells how deep the printer stands after the last outline: at the top,
or as deep as the misplaced node that kept it from finishing.
-/

namespace CallForm.Source

/-- The line of a node, without indent. -/
def Node.headline : Node → String
  | .program _ => "Program"
  | .call name _ => "CallExpression: " ++ name
  | .number text => "NumberLiteral: " ++ text
  | .string text => "StringLiteral: " ++ String.ofList (Json.quote .unicode text)
  | .foreign typeName => typeName

namespace Node

@[simp]
theorem headline_program (body : List Node) :
  (program body).headline = "Program"
  := rfl

@[simp]
theorem headline_call (name : String) (params : List Node) :
  (call name params).headline = "CallExpression: " ++ name
  := rfl

@[simp]
theorem headline_number (text : String) :
  (number text).headline = "NumberLiteral: " ++ text
  := rfl

@[simp]
theorem headline_string (text : String) :
  (string text).headline = "StringLiteral: " ++ String.ofList (Json.quote .unicode text)
  := rfl

end Node

/-- An outline in the making: how deep the walk is, and the lines so far, the latest
first. -/
structure Sheet where
  depth : Nat
  lines : List String

namespace Sheet

/-- Nothing written yet. -/
def empty : Sheet := ⟨0, []⟩

/-- A node that is entered has a line, and what follows is one level deeper. -/
def enter (indent : String) (n : Node) (s : Sheet) : Sheet :=
  ⟨s.depth + 1, (String.join (List.replicate s.depth indent) ++ n.headline) :: s.lines⟩

/-- Behind a node that is left, the level is that of the node again. -/
def exit (s : Sheet) : Sheet :=
  ⟨s.depth - 1, s.lines⟩

/-- The lines as one text. -/
def text (s : Sheet) : String :=
  "\n".intercalate s.lines.reverse

/-- What is called at the visits of a walk to make an outline. -/
def visitor (indent : String) : Visitor Sheet where
  callback?
    | _, .enter => some fun n _ s => s.enter indent n
    | _, .exit => some fun _ _ s => s.exit

end Sheet

/-- A maker of outlines: a sheet, and the indent for each level. -/
structure Printer extends Sheet where
  indent : String

namespace Printer

/-- A printer that has not printed yet. -/
def new (indent : String) : Printer :=
  ⟨.empty, indent⟩

/-- The printer with nothing on its sheet. -/
def clear (p : Printer) : Printer :=
  { p with depth := 0, lines := [] }

/-- The outline of a tree, and the printer after it.  It starts on a cleared sheet, wherever
the last one ended. -/
def print (p : Printer) (root : Node) : Except Misplaced String × Printer :=
  let p := p.clear
  let progress := root.walk (Sheet.visitor p.indent) p.toSheet
  let p := { p with toSheet := progress.state }
  match progress.stop with
  | none => (.ok p.text, p)
  | some m => (.error m, p)

end Printer

/-- The outline of a tree with two spaces for each level. -/
def Node.outline (root : Node) : Except Misplaced String :=
  ((Printer.new "  ").print root).1

/-- The outline of a program.  No node of a program is misplaced, so every program has
one. -/
def Program.outline (p : Program) : String :=
  (p.toNode.walk (Sheet.visitor "  ") .empty).state.text

end CallForm.Source
