import CallForm.Source.Walk
import Mathlib.Data.List.TakeWhile

/-!
# The visits of a walk by recursion

`Node.trace` lists all visits of a tree by recursion on its nodes, whether they may stand
where they do or not.  A walk makes the calls for the visits in this list, as far as the
first visit of a misplaced node.

The visits that are still to come stand for the visits that come of them, one after the
other.  Making a visit takes it off this list and leaves the rest of the list as it is.
-/

namespace CallForm.Source

mutual

/-- The visits of a tree: its root, which `parent` holds, is entered before the visits of
its children, and left after them. -/
def Node.trace (parent : Option Node) : Node → List Visit
  | .program body =>
    ⟨.enter, .program body, parent⟩ :: traceAll (.program body) body
      ++ [⟨.exit, .program body, parent⟩]
  | .number text => [⟨.enter, .number text, parent⟩, ⟨.exit, .number text, parent⟩]
  | .string text => [⟨.enter, .string text, parent⟩, ⟨.exit, .string text, parent⟩]
  | .call name params =>
    ⟨.enter, .call name params, parent⟩ :: traceAll (.call name params) params
      ++ [⟨.exit, .call name params, parent⟩]
  | .foreign typeName => [⟨.enter, .foreign typeName, parent⟩, ⟨.exit, .foreign typeName, parent⟩]

/-- The visits of nodes that `parent` holds, one node after the other. -/
def traceAll (parent : Node) : List Node → List Visit
  | [] => []
  | n :: ns => n.trace (some parent) ++ traceAll parent ns

end

mutual

/-- The nodes of a tree are entered in pre-order. -/
theorem enter_trace (parent : Option Node) :
    ∀ n : Node, ((n.trace parent).filter (·.moment = .enter)).map (·.node) = n.preorder
  | .program body => by
      have hbody := enter_traceAll (.program body) body
      simp [Node.trace, Node.preorder, hbody]
  | .number text => rfl
  | .string text => rfl
  | .call name params => by
      have hparams := enter_traceAll (.call name params) params
      simp [Node.trace, Node.preorder, hparams]
  | .foreign typeName => rfl

/-- The nodes of trees are entered in pre-order. -/
theorem enter_traceAll (parent : Node) :
    ∀ ns : List Node,
      ((traceAll parent ns).filter (·.moment = .enter)).map (·.node) = Node.preorders ns
  | [] => rfl
  | n :: ns => by
      rw [traceAll, List.filter_append, List.map_append, enter_trace, enter_traceAll,
        Node.preorders]

end

namespace Visit

/-- Whether a visited node may stand where it does: it is neither foreign nor a program
below the root. -/
def isPlaced (v : Visit) : Bool :=
  match v.node with
  | .program _ => v.parent.isNone
  | .number _ | .string _ | .call .. => true
  | .foreign _ => false

/-- Whether a visit is among those that `wanted` asks for. -/
def isWanted (wanted : NodeKind → Moment → Bool) (v : Visit) : Bool :=
  v.kind?.any (wanted · v.moment)

theorem isPlaced_eq_isSome_kind? (v : Visit) :
  v.isPlaced = v.kind?.isSome
  := by
  obtain ⟨moment, _ | _ | _ | _ | _, _ | _⟩ := v <;> rfl

/-- The visits that come of a visit, itself included. -/
def trace (v : Visit) : List Visit :=
  match v.moment with
  | .enter => v.node.trace v.parent
  | .exit => [v]

theorem flatMap_trace_enter (parent : Node) (ns : List Node) :
  (ns.map (⟨.enter, ·, some parent⟩)).flatMap trace = traceAll parent ns
  := by
  induction ns with
  | nil => rfl
  | cons n ns ih => rw [List.map_cons, List.flatMap_cons, ih, traceAll, trace]

/-- A visit comes before the visits that it leads to. -/
theorem trace_eq (v : Visit) :
  v.trace = v :: v.next.flatMap trace
  := by
  obtain ⟨_ | _, n, parent⟩ := v
  · rw [next, List.flatMap_append, flatMap_trace_enter]
    cases n <;> rfl
  · rfl

end Visit

/-- Among the visits of a node and those of what is below it, the first visit of a misplaced
node is that in which it is entered, if it is so among the latter. -/
theorem moment_of_find?_around {n : Node} {parent : Option Node} {inner : List Visit} {v : Visit}
    (hinner : inner.find? (!·.isPlaced) = some v → v.moment = .enter)
    (h : (⟨.enter, n, parent⟩ :: inner ++ [⟨.exit, n, parent⟩] : List Visit).find? (!·.isPlaced)
      = some v) :
  v.moment = .enter
  := by
  cases henter : Visit.isPlaced ⟨.enter, n, parent⟩ with
  | false =>
      rw [List.cons_append, List.find?_cons_of_pos (by simp [henter])] at h
      obtain rfl := Option.some.inj h
      rfl
  | true =>
      -- The node is in place when it is left as it was when it was entered.
      have hexit : Visit.isPlaced ⟨.exit, n, parent⟩ = true := henter
      rw [List.cons_append, List.find?_cons_of_neg (by simp [henter]), List.find?_append,
        List.find?_singleton, hexit] at h
      apply hinner
      simpa using h

mutual

/-- The first visit of a misplaced node in a tree is that in which it is entered. -/
theorem moment_of_find?_trace (parent : Option Node) :
    ∀ (n : Node) (v : Visit),
      (n.trace parent).find? (!·.isPlaced) = some v → v.moment = .enter
  | .program body, v, h => by
      apply moment_of_find?_around _ h
      apply moment_of_find?_traceAll
  | .number text, v, h => by cases h
  | .string text, v, h => by cases h
  | .call name params, v, h => by
      apply moment_of_find?_around _ h
      apply moment_of_find?_traceAll
  | .foreign typeName, v, h => by
      obtain rfl := Option.some.inj h
      rfl

/-- The first visit of a misplaced node in trees is that in which it is entered. -/
theorem moment_of_find?_traceAll (parent : Node) :
    ∀ (ns : List Node) (v : Visit),
      (traceAll parent ns).find? (!·.isPlaced) = some v → v.moment = .enter
  | [], v, h => by cases h
  | n :: ns, v, h => by
      rw [traceAll, List.find?_append, Option.or_eq_some_iff] at h
      rcases h with h | ⟨-, h⟩
      · apply moment_of_find?_trace _ n v h
      · apply moment_of_find?_traceAll _ ns v h

end

/-! ### Walking along the trace -/

variable {σ : Type}

/-- The state after the call at a visit, if there is one. -/
def Visitor.visit (visitor : Visitor σ) (state : σ) (v : Visit) : σ :=
  match v.kind? with
  | some kind => visitor.call kind v state
  | none => state

/-- A walk makes the calls for the visits to come, as far as the first misplaced node. -/
theorem walkAll_eq (visitor : Visitor σ) (state : σ) (visits : List Visit) :
  walkAll visitor state visits
    = ⟨((visits.flatMap Visit.trace).takeWhile (·.isPlaced)).foldl visitor.visit state,
      ((visits.flatMap Visit.trace).find? (!·.isPlaced)).map fun v => ⟨v.node.typeName⟩⟩
  := by
  fun_induction walkAll visitor state visits with
  | case1 state => rfl
  | case2 state v others hkind =>
      have hplaced : v.isPlaced = false := by
        rw [v.isPlaced_eq_isSome_kind?, hkind]
        rfl
      simp [Visit.trace_eq v, hplaced]
  | case3 state v others kind hkind ih =>
      have hplaced : v.isPlaced = true := by
        rw [v.isPlaced_eq_isSome_kind?, hkind]
        rfl
      have hvisit : visitor.visit state v = visitor.call kind v state := by
        rw [Visitor.visit, hkind]
      rw [ih, List.flatMap_cons, List.flatMap_append, Visit.trace_eq v]
      simp [hplaced, hvisit]

theorem visit_recorder (wanted : NodeKind → Moment → Bool) (kept : List Visit) (v : Visit) :
  (Visitor.recorder wanted).visit kept v = if v.isWanted wanted then v :: kept else kept
  := by
  rw [Visitor.visit, Visit.isWanted]
  cases v.kind? with
  | none => rfl
  | some kind =>
      rw [Option.any_some]
      cases h : wanted kind v.moment with
      | true => simp [Visitor.call, Visitor.recorder, h]
      | false => simp [Visitor.call, Visitor.recorder, h]

/-- What is recorded of visits are those that are wanted, the latest first. -/
theorem foldl_recorder (wanted : NodeKind → Moment → Bool) (kept visits : List Visit) :
  visits.foldl (Visitor.recorder wanted).visit kept
    = (visits.filter (·.isWanted wanted)).reverse ++ kept
  := by
  induction visits generalizing kept with
  | nil => rfl
  | cons v visits ih =>
      rw [List.foldl_cons, ih, visit_recorder]
      cases h : v.isWanted wanted with
      | true => simp [h]
      | false => simp [h]

/-- A walk through a tree without misplaced nodes makes all visits of the tree. -/
theorem takeWhile_isPlaced {visits : List Visit} (h : visits.find? (!·.isPlaced) = none) :
  visits.takeWhile (·.isPlaced) = visits
  := by
  rw [List.takeWhile_eq_self_iff]
  simpa using h

/-- A walk through a tree makes the visits that are found by recursion on the tree, and keeps
those of them that were asked for.  If some node is misplaced, the walk breaks off before the
first one is entered, and tells its type; it has made the visits before that one.  Nodes are
entered in pre-order. -/
theorem traverse_eq_trace (wanted : NodeKind → Moment → Bool) (root : Node) :
  root.traverse wanted
    = (match (root.trace none).find? (!·.isPlaced) with
      | none => ⟨(root.trace none).filter (·.isWanted wanted), none⟩
      | some v =>
        ⟨((root.trace none).takeWhile (·.isPlaced)).filter (·.isWanted wanted),
          some ⟨v.node.typeName⟩⟩)
  ∧ (∀ v, (root.trace none).find? (!·.isPlaced) = some v → v.moment = .enter)
  ∧ ((root.trace none).filter (·.moment = .enter)).map (·.node) = root.preorder
  := by
  refine ⟨?_, fun v => moment_of_find?_trace none root v, enter_trace none root⟩
  rw [Node.traverse, Node.walk, walkAll_eq, foldl_recorder]
  simp only [List.flatMap_cons, List.flatMap_nil, List.append_nil, Visit.trace,
    List.reverse_reverse]
  cases h : (root.trace none).find? (!·.isPlaced) with
  | none => rw [takeWhile_isPlaced h, Option.map_none]
  | some v => rfl

end CallForm.Source
