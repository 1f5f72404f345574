import CallForm.Compile
import CallForm.Proofs.Source.Flattening
import CallForm.Proofs.Target.Drafts
import CallForm.Proofs.Target.Text

/-!
# The call form of a program

`Program.callForm` writes a program as text by recursion on its expressions.  The target
tree of a program can always be built, and its text is the call form of the program.
-/

namespace CallForm

namespace Source

mutual

/-- The call form of an expression. -/
def Expr.callForm : Expr → String
  | .number text => text
  | .string text => "\"" ++ text ++ "\""
  | .call name params => name ++ "(" ++ ", ".intercalate (callForms params) ++ ")"

/-- The call forms of expressions. -/
def callForms : List Expr → List String
  | [] => []
  | e :: es => e.callForm :: callForms es

end

/-- The call form of a program: each expression of the body ends with a semicolon, and
nothing stands between them. -/
def Program.callForm (p : Program) : String :=
  String.join ((callForms p.body).map (· ++ ";"))

mutual

/-- The target tree of an expression. -/
def Expr.target : Expr → Target.Node
  | .number text => .number text
  | .string text => .string text
  | .call name params => .call name (targets params)

/-- The target trees of expressions. -/
def targets : List Expr → List Target.Node
  | [] => []
  | e :: es => e.target :: targets es

end

/-! ### Target trees -/

mutual

/-- The node of an expression has the target tree of the expression as its target. -/
theorem target_toNode :
    ∀ e : Expr, e.toNode.target = e.target
  | .number text => rfl
  | .string text => rfl
  | .call name params => by
      rw [Expr.toNode, Node.target, targets_toNodes, Expr.target]

/-- The nodes of expressions have the target trees of the expressions as their targets. -/
theorem targets_toNodes :
    ∀ es : List Expr, Node.targets (toNodes es) = targets es
  | [] => rfl
  | e :: es => by
      rw [toNodes, Node.targets, target_toNode, targets_toNodes, targets]

end

mutual

/-- All nodes of an expression are expressions. -/
theorem find?_preorder_toNode :
    ∀ e : Expr, e.toNode.preorder.find? (!·.isExpression) = none
  | .number text => rfl
  | .string text => rfl
  | .call name params => by
      rw [Expr.toNode, Node.preorder, List.find?_cons_of_neg (by simp [Node.isExpression]),
        find?_preorders_toNodes]

/-- All nodes of expressions are expressions. -/
theorem find?_preorders_toNodes :
    ∀ es : List Expr, (Node.preorders (toNodes es)).find? (!·.isExpression) = none
  | [] => rfl
  | e :: es => by
      rw [toNodes, Node.preorders, List.find?_append, find?_preorder_toNode,
        find?_preorders_toNodes, Option.none_or]

end

/-- A program has a target tree. -/
theorem Program.target_eq (p : Program) :
  p.target = .ok (.program ((targets p.body).map .statement))
  := by
  rw [Program.target, Target.ofSource_of_isExpression (find?_preorders_toNodes p.body),
    targets_toNodes]

/-! ### Texts of target trees -/

mutual

/-- The text of the target tree of an expression is its call form. -/
theorem text_target :
    ∀ e : Expr, e.target.text = e.callForm
  | .number text => rfl
  | .string text => rfl
  | .call name params => by
      rw [Expr.target, Target.Node.text, texts_targets, Expr.callForm]

/-- The texts of the target trees of expressions are their call forms. -/
theorem texts_targets :
    ∀ es : List Expr, Target.texts (targets es) = callForms es
  | [] => rfl
  | e :: es => by
      rw [targets, Target.texts, text_target, texts_targets, callForms]

end

mutual

/-- All nodes of the target tree of an expression have texts. -/
theorem find?_preorder_target :
    ∀ e : Expr, e.target.preorder.find? (!·.hasText) = none
  | .number text => rfl
  | .string text => rfl
  | .call name params => by
      rw [Expr.target, Target.Node.preorder,
        List.find?_cons_of_neg (by simp [Target.Node.hasText]), find?_preorders_targets]

/-- All nodes of the target trees of expressions have texts. -/
theorem find?_preorders_targets :
    ∀ es : List Expr, (Target.Node.preorders (targets es)).find? (!·.hasText) = none
  | [] => rfl
  | e :: es => by
      rw [targets, Target.Node.preorders, List.find?_append, find?_preorder_target,
        find?_preorders_targets, Option.none_or]

end

/-- Statements have the texts of their expressions, each with a semicolon. -/
theorem texts_statements (es : List Expr) :
  Target.texts ((targets es).map .statement) = (callForms es).map (· ++ ";")
  := by
  induction es with
  | nil => rfl
  | cons e es ih =>
      rw [targets, List.map_cons, Target.texts, Target.Node.text, text_target, ih, callForms,
        List.map_cons]

/-- All nodes of statements have texts. -/
theorem find?_preorders_statements (es : List Expr) :
  (Target.Node.preorders ((targets es).map .statement)).find? (!·.hasText) = none
  := by
  induction es with
  | nil => rfl
  | cons e es ih =>
      rw [targets, List.map_cons, Target.Node.preorders, Target.Node.preorder,
        List.find?_append, List.find?_cons_of_neg (by simp [Target.Node.hasText]),
        find?_preorder_target, ih, Option.none_or]

/-- The target tree of a program is rendered as the call form of the program. -/
theorem render_statements (es : List Expr) :
  (Target.Node.program ((targets es).map .statement)).render
    = .ok (String.join ((callForms es).map (· ++ ";")))
  := by
  have hnodes : (Target.Node.program ((targets es).map .statement)).preorder.find? (!·.hasText)
      = none := by
    rw [Target.Node.preorder, List.find?_cons_of_neg (by simp [Target.Node.hasText]),
      find?_preorders_statements]
  rw [Target.render_of_hasText hnodes, Target.Node.text, texts_statements]

end Source

/-- A text compiles exactly if it can be read as a program, to the call form of that
program. -/
theorem compile_eq (source : String) :
  compile source = (readProgram source).map Source.Program.callForm
  := by
  rw [compile]
  cases readProgram source with
  | error e => rfl
  | ok p =>
      show (do let target ← p.target; target.render) = .ok p.callForm
      rw [p.target_eq]
      apply Source.render_statements p.body

end CallForm
