import CallForm.Target.OfSource
import Mathlib.Data.List.Basic
import Mathlib.Tactic.Use

/-!
# The target tree by recursion

`Node.target` is the target of a source node by recursion on the node.  `ofSource` builds
that target, unless some node below the program is no expression: then it fails because of
the first such node in pre-order.

Drafts are put into lists that may still grow, and a call is drafted before its arguments.
So what carries the proof is the layout of the lists: `draft k n` is the draft of the node
`n` if the lists begun for it have the numbers from `k` on, and `begun k n` are these lists
as they are when they are finished.  Carrying out the task of a node puts its draft into one
list, begins its lists and leaves all others as they are.
-/

namespace CallForm

namespace Source

/-- Whether a node may stand below a program: whether it is a literal or a call. -/
def Node.isExpression : Node → Bool
  | .number _ | .string _ | .call .. => true
  | .program _ | .foreign _ => false

mutual

/-- The target of a node, if all nodes of its tree are expressions.  Any node would do for
the others. -/
def Node.target : Node → Target.Node
  | .number text => .number text
  | .string text => .string text
  | .call name params => .call name (Node.targets params)
  | .program _ | .foreign _ => .number ""

/-- The targets of nodes. -/
def Node.targets : List Node → List Target.Node
  | [] => []
  | n :: ns => n.target :: Node.targets ns

end

end Source

namespace Target

open Source.Node (targets preorders)

/-! ### The layout of the lists -/

/-- The draft of a node whose lists have the numbers from `fresh` on. -/
def draft (fresh : Nat) : Source.Node → Draft
  | .number text => .number text
  | .string text => .string text
  | .call name _ => .call name fresh
  | .program _ | .foreign _ => .number ""

mutual

/-- The finished lists of the calls in a node, from the number `fresh` on. -/
def begun (fresh : Nat) : Source.Node → List (List Draft)
  | .call _ params => (drafts (fresh + 1) params).reverse :: begunAll (fresh + 1) params
  | .number _ | .string _ | .program _ | .foreign _ => []

/-- The drafts of nodes whose lists have the numbers from `fresh` on. -/
def drafts (fresh : Nat) : List Source.Node → List Draft
  | [] => []
  | n :: ns => draft fresh n :: drafts (fresh + (begun fresh n).length) ns

/-- The finished lists of the calls in nodes, from the number `fresh` on. -/
def begunAll (fresh : Nat) : List Source.Node → List (List Draft)
  | [] => []
  | n :: ns => begun fresh n ++ begunAll (fresh + (begun fresh n).length) ns

end

namespace Drafts

variable {ds : Drafts} {nested : Bool} {out : Nat}

@[simp]
theorem size_put (d : Draft) :
  (ds.put nested out d).size = ds.size
  := Array.size_modify

/-- A draft that is put into a list leaves the lists behind it as they are. -/
theorem put_append (d : Draft) (lists : Array (List Draft)) (h : out < ds.size) :
  put (ds ++ lists) nested out d = ds.put nested out d ++ lists
  := by
  rw [put, put]
  grind

/-- A draft that is put into the last list. -/
theorem put_push (d : Draft) (list : List Draft) :
  put (ds.push list) nested ds.size d = ds.push (d.placed nested :: list)
  := by
  rw [put]
  grind

/-- Puts drafts behind those in the list `out`, one after the other. -/
def putAll (ds : Drafts) (nested : Bool) (out : Nat) (new : List Draft) : Drafts :=
  new.foldl (·.put nested out ·) ds

theorem putAll_append (new : List Draft) (lists : Array (List Draft)) (h : out < ds.size) :
  putAll (ds ++ lists) nested out new = ds.putAll nested out new ++ lists
  := by
  rw [putAll, putAll]
  induction new generalizing ds with
  | nil => rfl
  | cons d new ih =>
      rw [List.foldl_cons, List.foldl_cons, put_append d lists h]
      apply ih
      rw [size_put]
      apply h

theorem putAll_push (new : List Draft) (list : List Draft) :
  putAll (ds.push list) nested ds.size new
    = ds.push ((new.map (·.placed nested)).reverse ++ list)
  := by
  rw [putAll]
  induction new generalizing list with
  | nil => rfl
  | cons d new ih =>
      rw [List.foldl_cons, put_push, ih, List.map_cons, List.reverse_cons, List.append_assoc]
      rfl

/-! ### Carrying out tasks -/

mutual

/-- The task of a node puts its draft into a list and leaves behind the finished lists of the
node, unless the node holds something that is no expression. -/
theorem fill_task : ∀ (n : Source.Node) (ds : Drafts) (nested : Bool) (out : Nat)
    (others : List Task), out < ds.size →
    fill ds (⟨n, nested, out⟩ :: others)
      = match n.preorder.find? (!·.isExpression) with
        | none => fill (ds.put nested out (draft ds.size n) ++ (begun ds.size n).toArray) others
        | some m => .error (unsupported m.typeName)
  | .number text, ds, nested, out, others, h => by
      rw [fill]
      simp [Source.Node.preorder, Source.Node.isExpression, draft, begun]
  | .string text, ds, nested, out, others, h => by
      rw [fill]
      simp [Source.Node.preorder, Source.Node.isExpression, draft, begun]
  | .call name params, ds, nested, out, others, h => by
      have hsize : (ds.put nested out (.call name ds.size)).size = ds.size := size_put _
      rw [fill, draft]
      generalize ds.put nested out (.call name ds.size) = before at hsize ⊢
      -- The call has been drafted, and its list is the last one.
      have hlast : ds.size < (before.push []).size := by
        rw [Array.size_push, hsize]
        apply Nat.lt_succ_self
      have hlists : putAll (before.push []) true ds.size (drafts (ds.size + 1) params)
            ++ (begunAll (ds.size + 1) params).toArray
          = before ++ (begun ds.size (.call name params)).toArray := by
        have hplaced : (drafts (ds.size + 1) params).map (·.placed true)
            = drafts (ds.size + 1) params := List.map_id' _
        rw [← hsize, putAll_push, hsize, hplaced, List.append_nil, begun]
        simp
      rw [fill_tasks params _ true ds.size others hlast, Array.size_push, hsize, hlists]
      simp [Source.Node.preorder, Source.Node.isExpression]
  | .program body, ds, nested, out, others, h => by
      rw [fill]
      simp [Source.Node.preorder, Source.Node.isExpression, Source.Node.typeName]
  | .foreign typeName, ds, nested, out, others, h => by
      rw [fill]
      simp [Source.Node.preorder, Source.Node.isExpression, Source.Node.typeName]

/-- The tasks of nodes whose drafts go into the same list. -/
theorem fill_tasks : ∀ (ns : List Source.Node) (ds : Drafts) (nested : Bool) (out : Nat)
    (others : List Task), out < ds.size →
    fill ds (tasks nested out ns ++ others)
      = match (preorders ns).find? (!·.isExpression) with
        | none =>
          fill (ds.putAll nested out (drafts ds.size ns) ++ (begunAll ds.size ns).toArray) others
        | some m => .error (unsupported m.typeName)
  | [], ds, nested, out, others, h => by
      simp [tasks, preorders, drafts, putAll, begunAll]
  | n :: ns, ds, nested, out, others, h => by
      have hcons : tasks nested out (n :: ns) ++ others
          = ⟨n, nested, out⟩ :: (tasks nested out ns ++ others) := rfl
      have hlists : putAll (ds.put nested out (draft ds.size n) ++ (begun ds.size n).toArray)
            nested out (drafts (ds.size + (begun ds.size n).length) ns)
            ++ (begunAll (ds.size + (begun ds.size n).length) ns).toArray
          = ds.putAll nested out (drafts ds.size (n :: ns))
            ++ (begunAll ds.size (n :: ns)).toArray := by
        rw [putAll_append _ _ (by rwa [size_put]), drafts, begunAll, Array.append_assoc,
          List.append_toArray (begun ds.size n)]
        rfl
      rw [hcons, fill_task n ds nested out _ h, preorders, List.find?_append]
      cases n.preorder.find? (!·.isExpression) with
      | some m => rfl
      | none =>
          rw [Option.none_or, ← hlists]
          have hsize : (ds.put nested out (draft ds.size n) ++ (begun ds.size n).toArray).size
              = ds.size + (begun ds.size n).length := by
            simp
          apply Eq.trans (fill_tasks ns _ nested out others (by omega))
          rw [hsize]

end

/-! ### Reading the lists -/

/-- `ds.Holds k lists`: the lists with the numbers from `k` on are `lists`. -/
def Holds (ds : Drafts) (k : Nat) (lists : List (List Draft)) : Prop :=
  ∃ before after, ds.toList = before ++ lists ++ after ∧ before.length = k

variable {k : Nat} {list : List Draft} {front back : List (List Draft)}

theorem Holds.head (h : ds.Holds k (list :: back)) :
  ds[k]? = some list
  := by
  obtain ⟨before, after, hds, rfl⟩ := h
  rw [← Array.getElem?_toList, hds]
  simp

theorem Holds.tail (h : ds.Holds k (list :: back)) :
  ds.Holds (k + 1) back
  := by
  obtain ⟨before, after, hds, rfl⟩ := h
  use before ++ [list], after
  rw [hds]
  simp

theorem Holds.left (h : ds.Holds k (front ++ back)) :
  ds.Holds k front
  := by
  obtain ⟨before, after, hds, rfl⟩ := h
  use before, back ++ after
  rw [hds]
  simp

theorem Holds.right (h : ds.Holds k (front ++ back)) :
  ds.Holds (k + front.length) back
  := by
  obtain ⟨before, after, hds, rfl⟩ := h
  use before ++ front, after
  rw [hds]
  simp

/-- The nodes in the list `later`, if it was begun after the list `k`. -/
def nodesAfter (ds : Drafts) (k later : Nat) : List Node :=
  if k < later then ds.nodesIn later else []

theorem nodesIn_eq (h : ds[k]? = some list) :
  ds.nodesIn k = list.reverse.map (Draft.node (ds.nodesAfter k))
  := by
  obtain ⟨hk, rfl⟩ := Array.getElem?_eq_some_iff.mp h
  rw [nodesIn, dif_pos hk]
  rfl

mutual

/-- Where its lists are finished, the draft of a node is read as its target. -/
theorem node_draft : ∀ (n : Source.Node) (k fresh : Nat), k < fresh →
    ds.Holds fresh (begun fresh n) →
    (draft fresh n).node (ds.nodesAfter k) = n.target
  | .number text, _, _, _, _ => rfl
  | .string text, _, _, _, _ => rfl
  | .call name params, k, fresh, hk, h => by
      rw [begun] at h
      have hlists : ds.Holds (fresh + 1) (begunAll (fresh + 1) params) := h.tail
      have hparams := map_node_drafts params fresh (fresh + 1) (Nat.lt_succ_self fresh) hlists
      rw [draft, Draft.node, nodesAfter, if_pos hk, nodesIn_eq h.head, List.reverse_reverse,
        hparams, Source.Node.target]
  | .program body, _, _, _, _ => rfl
  | .foreign typeName, _, _, _, _ => rfl

/-- Where their lists are finished, the drafts of nodes are read as their targets. -/
theorem map_node_drafts : ∀ (ns : List Source.Node) (k fresh : Nat), k < fresh →
    ds.Holds fresh (begunAll fresh ns) →
    (drafts fresh ns).map (Draft.node (ds.nodesAfter k)) = targets ns
  | [], _, _, _, _ => rfl
  | n :: ns, k, fresh, hk, h => by
      rw [begunAll] at h
      rw [drafts, List.map_cons, node_draft n k fresh hk h.left,
        map_node_drafts ns k _ (Nat.lt_add_right _ hk) h.right, targets]

end

end Drafts

/-! ### The target of a program -/

/-- The lists that are left when all tasks of the program have been carried out. -/
def finished (body : List Source.Node) : Drafts :=
  #[((drafts 1 body).map .statement).reverse] ++ (begunAll 1 body).toArray

theorem nodesIn_finished (body : List Source.Node) :
  (finished body).nodesIn 0 = (targets body).map .statement
  := by
  have hbody : (finished body).Holds 1 (begunAll 1 body) := by
    use [((drafts 1 body).map .statement).reverse], []
    simp [finished]
  have hhead : (finished body)[0]? = some ((drafts 1 body).map .statement).reverse := by
    simp [finished]
  rw [Drafts.nodesIn_eq hhead, List.reverse_reverse, List.map_map,
    ← Drafts.map_node_drafts body 0 1 Nat.zero_lt_one hbody, List.map_map]
  rfl

theorem fill_body (body : List Source.Node) :
  Drafts.fill #[[]] (tasks false 0 body)
    = match (preorders body).find? (!·.isExpression) with
      | none => .ok (finished body)
      | some m => .error (unsupported m.typeName)
  := by
  have hput : Drafts.putAll #[[]] false 0 (drafts 1 body)
      = #[((drafts 1 body).map .statement).reverse] := by
    show Drafts.putAll (Array.push #[] []) false 0 (drafts 1 body) = _
    rw [← Array.size_empty, Drafts.putAll_push, List.append_nil]
    rfl
  have htasks := Drafts.fill_tasks body #[[]] false 0 [] Nat.zero_lt_one
  rw [List.append_nil] at htasks
  rw [htasks]
  cases (preorders body).find? (!·.isExpression) with
  | none =>
      show Drafts.fill (Drafts.putAll #[[]] false 0 (drafts 1 body)
        ++ (begunAll 1 body).toArray) [] = _
      rw [hput, Drafts.fill]
      rfl
  | some m => rfl

/-- If all nodes below a program are expressions, its target is found by recursion. -/
theorem ofSource_of_isExpression {body : List Source.Node}
    (h : (preorders body).find? (!·.isExpression) = none) :
  ofSource body = .ok (.program ((targets body).map .statement))
  := by
  rw [ofSource, fill_body, h]
  show Except.ok (Node.program ((finished body).nodesIn 0)) = _
  rw [nodesIn_finished]

/-- The target of a program is found by recursion on its nodes: each node of the body is
converted and becomes a statement, and nothing below becomes one.  But if some nodes below the
program are neither literals nor calls, there is no target because of the first of them in
pre-order. -/
theorem ofSource_eq_targets_or_failure (body : List Source.Node) :
  ofSource body
    = match (preorders body).find? (!·.isExpression) with
      | none => .ok (.program ((targets body).map .statement))
      | some n => .error (.transforming ("Unsupported node type '" ++ n.typeName ++ "'"))
  := by
  cases h : (preorders body).find? (!·.isExpression) with
  | none => apply ofSource_of_isExpression h
  | some n =>
      rw [ofSource, fill_body, h]
      rfl

end Target

end CallForm
