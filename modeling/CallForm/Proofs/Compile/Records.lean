import CallForm.Compile
import CallForm.Proofs.Json.Text
import CallForm.Proofs.Target.Rendering

/-!
# Records

A tree has a record if nothing in it is foreign and if it nests no deeper than the stack allows.
`Node.record` is that record by recursion on the tree alone, and `Node.nesting` how deep it nests.
No depth is enough for all programs.

The record of a source tree, of a target tree, of an error and of a compilation holds no
surrogates, and it tells what it is the record of.  So nothing is lost in its text, in whatever
layout it is written.
-/

namespace CallForm

open Json (Lossless PlainItems)

namespace RecordError

/-! ### Depths -/

/-- What nests inside some levels nests deeper by these. -/
theorem below_bind {α : Type} (levels nesting depth : Nat) (a : α) :
  (below levels depth >>= fun inner => within nesting inner a)
    = within (nesting + levels) depth a
  := by
  by_cases hlevels : levels ≤ depth
  · have hinner : nesting ≤ depth - levels ↔ nesting + levels ≤ depth := by omega
    simp [below, within, hlevels, hinner, bind, Except.bind]
  · have hdepth : ¬nesting + levels ≤ depth := by omega
    simp [below, within, hlevels, hdepth, bind, Except.bind]

/-- What is made of something nests as deep as that. -/
theorem within_bind_pure {α β : Type} (nesting depth : Nat) (a : α) (f : α → β) :
  (within nesting depth a >>= fun x => pure (f x)) = within nesting depth (f a)
  := by
  unfold within
  split
  · rfl
  · rfl

/-- What is made of two things nests as deep as the deeper one. -/
theorem within_bind_within {α β : Type} (nesting nesting' depth : Nat) (a : α) (f : α → β) :
  (within nesting depth a >>= fun x => within nesting' depth (f x))
    = within (max nesting nesting') depth (f a)
  := by
  unfold within
  by_cases hfirst : nesting ≤ depth
  · simp [hfirst, bind, Except.bind]
  · simp [hfirst, bind, Except.bind]

theorem below_bind_pure {α : Type} (levels depth : Nat) (a : α) :
  (below levels depth >>= fun _ => pure a) = within levels depth a
  := within_bind_pure levels depth _ fun _ => a

/-- What comes of two steps comes of the second one on what the first one gives. -/
theorem exists_of_bind_eq_ok {α β : Type} {first : Except RecordError α}
    {second : α → Except RecordError β} {b : β} (h : (first >>= second) = .ok b) :
  ∃ a, first = .ok a ∧ second a = .ok b
  := by
  cases first with
  | error e => cases h
  | ok a => exact ⟨a, rfl, h⟩

theorem within_eq_ok_iff {α : Type} {nesting depth : Nat} {a b : α} :
  within nesting depth a = .ok b ↔ nesting ≤ depth ∧ a = b
  := by
  unfold within
  split
  case isTrue h => simp [h]
  case isFalse h => simp [h]

end RecordError

open RecordError (within exists_of_bind_eq_ok within_eq_ok_iff)

/-! ### Source trees -/

namespace Source

namespace Node

/-- Whether a node has a record, given the records of the nodes below it. -/
def hasRecord : Node → Bool
  | foreign _ => false
  | _ => true

/-- Whether all nodes of a tree have records. -/
def recorded (n : Node) : Bool :=
  n.preorder.all hasRecord

theorem recorded_program (body : List Node) :
  (program body).recorded = (preorders body).all hasRecord
  := rfl

theorem recorded_call (name : String) (params : List Node) :
  (call name params).recorded = (preorders params).all hasRecord
  := rfl

theorem all_hasRecord_cons (n : Node) (ns : List Node) :
  (preorders (n :: ns)).all hasRecord ↔ n.recorded ∧ (preorders ns).all hasRecord
  := by
  rw [preorders, List.all_append, Bool.and_eq_true, recorded]

mutual

/-- The record of a node, if all nodes of the tree have records. -/
def record : Node → Json
  | program body => .object [("type", .string "Program"), ("body", .array (records body))]
  | number text => .object [("type", .string "NumberLiteral"), ("value", .string text)]
  | string text => .object [("type", .string "StringLiteral"), ("value", .string text)]
  | call name params =>
    .object [("type", .string "CallExpression"), ("name", .string name),
      ("params", .array (records params))]
  | foreign _ => .null

/-- The records of nodes. -/
def records : List Node → List Json
  | [] => []
  | n :: ns => n.record :: records ns

end

mutual

/-- How deep the record of a node nests. -/
def nesting : Node → Nat
  | program body => nestings body + 2
  | number _ | string _ => 1
  | call _ params => nestings params + 2
  | foreign _ => 0

/-- How deep the records of nodes nest. -/
def nestings : List Node → Nat
  | [] => 0
  | n :: ns => max n.nesting (nestings ns)

end

mutual

/-- A tree whose nodes all have records has its record, if it nests no deeper than the depth. -/
theorem toJson_eq :
    ∀ (n : Node) (depth : Nat), n.recorded → n.toJson depth = within n.nesting depth n.record
  | program body, depth, h => by
      rw [recorded_program] at h
      simp only [toJson, toJsons_eq body _ h, RecordError.within_bind_pure,
        RecordError.below_bind, nesting, record]
  | number text, depth, _ => by
      simp only [toJson, RecordError.below_bind_pure, nesting, record]
  | string text, depth, _ => by
      simp only [toJson, RecordError.below_bind_pure, nesting, record]
  | call name params, depth, h => by
      rw [recorded_call] at h
      simp only [toJson, toJsons_eq params _ h, RecordError.within_bind_pure,
        RecordError.below_bind, nesting, record]

/-- Trees whose nodes all have records have their records, if they nest no deeper than the
depth. -/
theorem toJsons_eq :
    ∀ (ns : List Node) (depth : Nat), (preorders ns).all hasRecord →
      toJsons ns depth = within (nestings ns) depth (records ns)
  | [], depth, _ => by simp [toJsons, within, nestings, records]
  | n :: ns, depth, h => by
      rw [all_hasRecord_cons] at h
      simp only [toJsons, toJson_eq n depth h.1, toJsons_eq ns depth h.2,
        RecordError.within_bind_pure, RecordError.within_bind_within, nestings, records]

end

mutual

/-- Only a tree whose nodes all have records has a record. -/
theorem recorded_of_toJson :
    ∀ {n : Node} {depth : Nat} {j : Json}, n.toJson depth = .ok j → n.recorded
  | program body, depth, j, h => by
      obtain ⟨_, -, h⟩ := exists_of_bind_eq_ok h
      obtain ⟨items, hitems, -⟩ := exists_of_bind_eq_ok h
      rw [recorded_program]
      apply recorded_of_toJsons hitems
  | number text, _, _, _ => rfl
  | string text, _, _, _ => rfl
  | call name params, depth, j, h => by
      obtain ⟨_, -, h⟩ := exists_of_bind_eq_ok h
      obtain ⟨items, hitems, -⟩ := exists_of_bind_eq_ok h
      rw [recorded_call]
      apply recorded_of_toJsons hitems

/-- Only trees whose nodes all have records have records. -/
theorem recorded_of_toJsons :
    ∀ {ns : List Node} {depth : Nat} {js : List Json},
      toJsons ns depth = .ok js → (preorders ns).all hasRecord
  | [], _, _, _ => rfl
  | n :: ns, depth, js, h => by
      obtain ⟨item, hitem, h⟩ := exists_of_bind_eq_ok h
      obtain ⟨items, hitems, -⟩ := exists_of_bind_eq_ok h
      rw [all_hasRecord_cons]
      exact ⟨recorded_of_toJson hitem, recorded_of_toJsons hitems⟩

end

/-- A tree has a record exactly if all its nodes have records and it nests no deeper than the
depth. -/
theorem toJson_eq_ok_iff {n : Node} {depth : Nat} {j : Json} :
  n.toJson depth = .ok j ↔ n.recorded ∧ n.nesting ≤ depth ∧ n.record = j
  := by
  constructor
  · intro h
    have hrecorded := recorded_of_toJson h
    rw [toJson_eq n depth hrecorded, within_eq_ok_iff] at h
    exact ⟨hrecorded, h⟩
  · rintro ⟨hrecorded, h⟩
    rw [toJson_eq n depth hrecorded, within_eq_ok_iff]
    apply h

/-- A tree that nests deeper than the depth has no record for that reason, unless there is
something in it that has none. -/
theorem toJson_of_lt {n : Node} {depth : Nat} (hrecorded : n.recorded) (h : depth < n.nesting) :
  n.toJson depth = .error .tooDeep
  := by
  rw [toJson_eq n depth hrecorded, within, if_neg (Nat.not_le.mpr h)]

mutual

theorem plain_record : ∀ n : Node, n.record.Plain
  | program body => by simp [record, plain_records body]
  | number text => by simp [record]
  | string text => by simp [record]
  | call name params => by simp [record, plain_records params]
  | foreign typeName => trivial

theorem plain_records : ∀ ns : List Node, PlainItems (records ns)
  | [] => trivial
  | n :: ns => ⟨plain_record n, plain_records ns⟩

end

mutual

/-- A tree is determined by its record.  Only one of the two trees needs to have one, since what
has none stands as null in `record`, and no node with a record does. -/
theorem record_inj : ∀ {n m : Node}, n.recorded → n.record = m.record → n = m
  | program body, m, hn, h => by
      rw [recorded_program] at hn
      cases m with
      | program others =>
          have hbody : records body = records others := by simpa [record] using h
          rw [records_inj hn hbody]
      | _ => simp [record] at h
  | number text, m, _, h => by
      cases m with
      | number other => simpa [record] using h
      | _ => simp [record] at h
  | string text, m, _, h => by
      cases m with
      | string other => simpa [record] using h
      | _ => simp [record] at h
  | call name params, m, hn, h => by
      rw [recorded_call] at hn
      cases m with
      | call other others =>
          have hparts : name = other ∧ records params = records others := by
            simpa [record] using h
          rw [hparts.1, records_inj hn hparts.2]
      | _ => simp [record] at h

/-- Trees are determined by their records. -/
theorem records_inj :
    ∀ {ns ms : List Node}, (preorders ns).all hasRecord → records ns = records ms → ns = ms
  | [], [], _, _ => rfl
  | n :: ns, m :: ms, hns, h => by
      rw [all_hasRecord_cons] at hns
      obtain ⟨hfirst, hrest⟩ := List.cons.inj h
      rw [record_inj hns.1 hfirst, records_inj hns.2 hrest]

end

end Node

/-- All nodes of a program have records. -/
theorem Program.recorded_toNode (p : Program) :
  p.toNode.recorded
  := by
  rw [Node.recorded, List.all_eq_true]
  intro n hn
  rcases List.mem_cons.mp hn with rfl | hn
  · rfl
  · have hexpression := List.find?_eq_none.mp (find?_preorders_toNodes p.body) n hn
    cases n with
    | foreign typeName => simp [Node.isExpression] at hexpression
    | _ => rfl

/-- Calls inside one another, with none around the outermost for zero. -/
def Expr.nested : Nat → Expr
  | 0 => .call "f" []
  | n + 1 => .call "f" [nested n]

theorem nesting_nested (n : Nat) :
  (Expr.nested n).toNode.nesting = 2 * n + 2
  := by
  induction n with
  | zero => rfl
  | succ n ih => simp [Expr.nested, Expr.toNode, toNodes, Node.nesting, Node.nestings, ih]; omega

/-- Calls inside one another may be as deep as one likes. -/
theorem toJson_nested (depth : Nat) :
  (Program.toNode ⟨[Expr.nested depth]⟩).toJson depth = .error .tooDeep
  := by
  apply Node.toJson_of_lt (Program.recorded_toNode _)
  have hnesting := nesting_nested depth
  simp only [Program.toNode, toNodes, Node.nesting, Node.nestings]
  omega

end Source

/-! ### Target trees -/

namespace Target.Node

/-- Whether a node has a record, given the records of the nodes below it. -/
def hasRecord : Node → Bool
  | raw _ | foreign _ => false
  | _ => true

/-- Whether all nodes of a tree have records. -/
def recorded (n : Node) : Bool :=
  n.preorder.all hasRecord

theorem recorded_program (body : List Node) :
  (program body).recorded = (preorders body).all hasRecord
  := rfl

theorem recorded_statement (e : Node) :
  (statement e).recorded = e.recorded
  := rfl

theorem recorded_call (callee : String) (arguments : List Node) :
  (call callee arguments).recorded = (preorders arguments).all hasRecord
  := rfl

theorem all_hasRecord_cons (n : Node) (ns : List Node) :
  (preorders (n :: ns)).all hasRecord ↔ n.recorded ∧ (preorders ns).all hasRecord
  := by
  rw [preorders, List.all_append, Bool.and_eq_true, recorded]

mutual

/-- The record of a node, if all nodes of the tree have records. -/
def record : Node → Json
  | program body => .object [("type", .string "Program"), ("body", .array (records body))]
  | statement e =>
    .object [("type", .string "ExpressionStatement"), ("expression", e.record)]
  | call callee arguments =>
    .object [("type", .string "CallExpression"),
      ("callee", .object [("type", .string "Identifier"), ("name", .string callee)]),
      ("arguments", .array (records arguments))]
  | number text => .object [("type", .string "NumberLiteral"), ("value", .string text)]
  | string text => .object [("type", .string "StringLiteral"), ("value", .string text)]
  | identifier name => .object [("type", .string "Identifier"), ("name", .string name)]
  | raw _ | foreign _ => .null

/-- The records of nodes. -/
def records : List Node → List Json
  | [] => []
  | n :: ns => n.record :: records ns

end

mutual

/-- How deep the record of a node nests. -/
def nesting : Node → Nat
  | program body => nestings body + 2
  | statement e => e.nesting + 1
  | call _ arguments => nestings arguments + 2
  | number _ | string _ | identifier _ => 1
  | raw _ | foreign _ => 0

/-- How deep the records of nodes nest. -/
def nestings : List Node → Nat
  | [] => 0
  | n :: ns => max n.nesting (nestings ns)

end

mutual

/-- A tree whose nodes all have records has its record, if it nests no deeper than the depth. -/
theorem toJson_eq :
    ∀ (n : Node) (depth : Nat), n.recorded → n.toJson depth = within n.nesting depth n.record
  | program body, depth, h => by
      rw [recorded_program] at h
      simp only [toJson, toJsons_eq body _ h, RecordError.within_bind_pure,
        RecordError.below_bind, nesting, record]
  | statement e, depth, h => by
      rw [recorded_statement] at h
      simp only [toJson, toJson_eq e _ h, RecordError.within_bind_pure,
        RecordError.below_bind, nesting, record]
  | call callee arguments, depth, h => by
      rw [recorded_call] at h
      simp only [toJson, toJsons_eq arguments _ h, RecordError.within_bind_pure,
        RecordError.below_bind, nesting, record]
  | number text, depth, _ => by
      simp only [toJson, RecordError.below_bind_pure, nesting, record]
  | string text, depth, _ => by
      simp only [toJson, RecordError.below_bind_pure, nesting, record]
  | identifier name, depth, _ => by
      simp only [toJson, RecordError.below_bind_pure, nesting, record]

/-- Trees whose nodes all have records have their records, if they nest no deeper than the
depth. -/
theorem toJsons_eq :
    ∀ (ns : List Node) (depth : Nat), (preorders ns).all hasRecord →
      toJsons ns depth = within (nestings ns) depth (records ns)
  | [], depth, _ => by simp [toJsons, within, nestings, records]
  | n :: ns, depth, h => by
      rw [all_hasRecord_cons] at h
      simp only [toJsons, toJson_eq n depth h.1, toJsons_eq ns depth h.2,
        RecordError.within_bind_pure, RecordError.within_bind_within, nestings, records]

end

mutual

/-- Only a tree whose nodes all have records has a record. -/
theorem recorded_of_toJson :
    ∀ {n : Node} {depth : Nat} {j : Json}, n.toJson depth = .ok j → n.recorded
  | program body, depth, j, h => by
      obtain ⟨_, -, h⟩ := exists_of_bind_eq_ok h
      obtain ⟨items, hitems, -⟩ := exists_of_bind_eq_ok h
      rw [recorded_program]
      apply recorded_of_toJsons hitems
  | statement e, depth, j, h => by
      obtain ⟨_, -, h⟩ := exists_of_bind_eq_ok h
      obtain ⟨expression, he, -⟩ := exists_of_bind_eq_ok h
      rw [recorded_statement]
      apply recorded_of_toJson he
  | call callee arguments, depth, j, h => by
      obtain ⟨_, -, h⟩ := exists_of_bind_eq_ok h
      obtain ⟨items, hitems, -⟩ := exists_of_bind_eq_ok h
      rw [recorded_call]
      apply recorded_of_toJsons hitems
  | number text, _, _, _ => rfl
  | string text, _, _, _ => rfl
  | identifier name, _, _, _ => rfl

/-- Only trees whose nodes all have records have records. -/
theorem recorded_of_toJsons :
    ∀ {ns : List Node} {depth : Nat} {js : List Json},
      toJsons ns depth = .ok js → (preorders ns).all hasRecord
  | [], _, _, _ => rfl
  | n :: ns, depth, js, h => by
      obtain ⟨item, hitem, h⟩ := exists_of_bind_eq_ok h
      obtain ⟨items, hitems, -⟩ := exists_of_bind_eq_ok h
      rw [all_hasRecord_cons]
      exact ⟨recorded_of_toJson hitem, recorded_of_toJsons hitems⟩

end

/-- A tree has a record exactly if all its nodes have records and it nests no deeper than the
depth. -/
theorem toJson_eq_ok_iff {n : Node} {depth : Nat} {j : Json} :
  n.toJson depth = .ok j ↔ n.recorded ∧ n.nesting ≤ depth ∧ n.record = j
  := by
  constructor
  · intro h
    have hrecorded := recorded_of_toJson h
    rw [toJson_eq n depth hrecorded, within_eq_ok_iff] at h
    exact ⟨hrecorded, h⟩
  · rintro ⟨hrecorded, h⟩
    rw [toJson_eq n depth hrecorded, within_eq_ok_iff]
    apply h

/-- A tree that nests deeper than the depth has no record for that reason, unless there is
something in it that has none. -/
theorem toJson_of_lt {n : Node} {depth : Nat} (hrecorded : n.recorded) (h : depth < n.nesting) :
  n.toJson depth = .error .tooDeep
  := by
  rw [toJson_eq n depth hrecorded, within, if_neg (Nat.not_le.mpr h)]

mutual

theorem plain_record : ∀ n : Node, n.record.Plain
  | program body => by simp [record, plain_records body]
  | statement e => by simp [record, plain_record e]
  | call callee arguments => by simp [record, plain_records arguments]
  | number text => by simp [record]
  | string text => by simp [record]
  | identifier name => by simp [record]
  | raw text => trivial
  | foreign typeName => trivial

theorem plain_records : ∀ ns : List Node, PlainItems (records ns)
  | [] => trivial
  | n :: ns => ⟨plain_record n, plain_records ns⟩

end

mutual

/-- A tree is determined by its record.  Only one of the two trees needs to have one, since what
has none stands as null in `record`, and no node with a record does. -/
theorem record_inj : ∀ {n m : Node}, n.recorded → n.record = m.record → n = m
  | program body, m, hn, h => by
      rw [recorded_program] at hn
      cases m with
      | program others =>
          have hbody : records body = records others := by simpa [record] using h
          rw [records_inj hn hbody]
      | _ => simp [record] at h
  | statement e, m, hn, h => by
      rw [recorded_statement] at hn
      cases m with
      | statement other =>
          have he : e.record = other.record := by simpa [record] using h
          rw [record_inj hn he]
      | _ => simp [record] at h
  | call callee arguments, m, hn, h => by
      rw [recorded_call] at hn
      cases m with
      | call other others =>
          have hparts : callee = other ∧ records arguments = records others := by
            simpa [record] using h
          rw [hparts.1, records_inj hn hparts.2]
      | _ => simp [record] at h
  | number text, m, _, h => by
      cases m with
      | number other => simpa [record] using h
      | _ => simp [record] at h
  | string text, m, _, h => by
      cases m with
      | string other => simpa [record] using h
      | _ => simp [record] at h
  | identifier name, m, _, h => by
      cases m with
      | identifier other => simpa [record] using h
      | _ => simp [record] at h

/-- Trees are determined by their records. -/
theorem records_inj :
    ∀ {ns ms : List Node}, (preorders ns).all hasRecord → records ns = records ms → ns = ms
  | [], [], _, _ => rfl
  | n :: ns, m :: ms, hns, h => by
      rw [all_hasRecord_cons] at hns
      obtain ⟨hfirst, hrest⟩ := List.cons.inj h
      rw [record_inj hns.1 hfirst, records_inj hns.2 hrest]

end

end Target.Node

/-! ### Errors -/

namespace CompileError

/-- The details are left out of a record exactly when there are none, so the record tells
them. -/
theorem parts_of_toJson {e f : CompileError} (h : e.toJson = f.toJson) :
  e.kind = f.kind ∧ e.message = f.message ∧ e.details = f.details
  := by
  simp only [toJson, Json.object.injEq, List.cons.injEq, Prod.mk.injEq, Json.string.injEq,
    Json.ofString_inj, true_and] at h
  obtain ⟨hkind, hmessage, hdetails⟩ := h
  refine ⟨hkind, hmessage, ?_⟩
  revert hdetails
  cases e.details <;> cases f.details <;> simp

/-- An error is determined by its kind, and then by what locates it or else by its message. -/
theorem toJson_injective :
  Function.Injective toJson
  := by
  intro e f h
  obtain ⟨hkind, hmessage, hdetails⟩ := parts_of_toJson h
  cases e with
  | invalidCharacter c n =>
      cases f with
      | invalidCharacter d m => simpa [details] using hdetails
      | _ => simp [kind] at hkind
  | unexpectedToken t n =>
      cases f with
      | unexpectedToken u m => simpa [details] using hdetails
      | _ => simp [kind] at hkind
  | unexpectedEnd =>
      cases f with
      | unexpectedEnd => rfl
      | _ => simp [kind] at hkind
  | tokenizing reason =>
      cases f with
      | tokenizing other => rw [(String.append_right_inj _).mp hmessage]
      | _ => simp [kind] at hkind
  | parsing reason =>
      cases f with
      | parsing other => rw [(String.append_right_inj _).mp hmessage]
      | _ => simp [kind] at hkind
  | transforming reason =>
      cases f with
      | transforming other => rw [(String.append_right_inj _).mp hmessage]
      | _ => simp [kind] at hkind
  | generating reason =>
      cases f with
      | generating other => rw [(String.append_right_inj _).mp hmessage]
      | _ => simp [kind] at hkind

theorem plain_toJson (e : CompileError) :
  e.toJson.Plain
  := by
  cases e <;> simp [toJson, details, Json.Plain]

end CompileError

/-! ### Compilations -/

namespace Compilation

theorem plain_toJson (c : Compilation) :
  c.toJson.Plain
  := by
  obtain ⟨source, outcome⟩ := c
  cases outcome with
  | ok output => simp [toJson, record, Json.Plain]
  | error e => simp [toJson, record, Json.Plain, e.plain_toJson]

/-- A compilation is determined by its record. -/
theorem toJson_injective :
  Function.Injective toJson
  := by
  rintro ⟨source, outcome⟩ ⟨source', outcome'⟩ h
  cases outcome with
  | ok output =>
      cases outcome' with
      | ok output' => simpa [toJson, record, ok, Except.isOk, Except.toBool] using h
      | error e => simp [toJson, record] at h
  | error e =>
      cases outcome' with
      | ok output' => simp [toJson, record] at h
      | error e' =>
          have hparts : source = source' ∧ e.toJson = e'.toJson := by
            simpa [toJson, record, ok, Except.isOk, Except.toBool] using h
          rw [hparts.1, CompileError.toJson_injective hparts.2]

end Compilation

/-! ### Records that are read back -/

/-- Trees that have records, errors and compilations are read back from the texts of their
records.  Errors and compilations always have records.  A tree has one exactly if all its nodes
do and it nests no deeper than the stack allows, and a program fails to have one for no other
reason than its depth. -/
theorem records_lossless (depth : Nat) :
  Lossless (fun n : {n : Source.Node // n.recorded} => n.1.record)
    ∧ Lossless (fun n : {n : Target.Node // n.recorded} => n.1.record)
    ∧ Lossless CompileError.toJson
    ∧ Lossless Compilation.toJson
    ∧ (∀ (n : Source.Node) (j : Json),
      n.toJson depth = .ok j ↔ n.recorded ∧ n.nesting ≤ depth ∧ n.record = j)
    ∧ (∀ (n : Target.Node) (j : Json),
      n.toJson depth = .ok j ↔ n.recorded ∧ n.nesting ≤ depth ∧ n.record = j)
    ∧ ∀ p : Source.Program, p.toNode.toJson depth
      = if p.toNode.nesting ≤ depth then .ok p.toNode.record else .error .tooDeep
  := by
  refine ⟨Lossless.of_injective ?_ ?_, Lossless.of_injective ?_ ?_, ?_, ?_, ?_, ?_, ?_⟩
  · intro n
    apply n.1.plain_record
  · intro n m h
    apply Subtype.ext (Source.Node.record_inj n.2 h)
  · intro n
    apply n.1.plain_record
  · intro n m h
    apply Subtype.ext (Target.Node.record_inj n.2 h)
  · apply Lossless.of_injective CompileError.plain_toJson CompileError.toJson_injective
  · apply Lossless.of_injective Compilation.plain_toJson Compilation.toJson_injective
  · intro n j
    apply Source.Node.toJson_eq_ok_iff
  · intro n j
    apply Target.Node.toJson_eq_ok_iff
  · intro p
    apply Source.Node.toJson_eq _ depth p.recorded_toNode

/-- No depth is enough for the records of all programs. -/
theorem records_not_total :
  ¬∃ depth, ∀ p : Source.Program, ∃ j, p.toNode.toJson depth = .ok j
  := by
  rintro ⟨depth, h⟩
  obtain ⟨j, hj⟩ := h ⟨[Source.Expr.nested depth]⟩
  cases (Source.toJson_nested depth).symm.trans hj

end CallForm
