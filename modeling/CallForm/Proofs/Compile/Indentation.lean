import CallForm.Proofs.Compile.Unambiguous
import CallForm.Proofs.Json.Quoting
import CallForm.Proofs.Source.Outline

/-!
# Reading a program back from its outline

A program in whose names and numbers there is no line feed can be read back from its outline,
whatever its strings hold: a quoted text has no line feed, so the outline is cut into lines,
one for each node.  The spaces in front of a line tell the level of its node, since no headline
begins with a space, and the headline tells what the node is.

The levels of the nodes in pre-order tell the tree.  The lines of expressions at some level end
where a line of a lower level comes, and everything deeper belongs to the expression before it.
-/

namespace CallForm.Source

/-- No line feed stands in a name or a number of the program. -/
def Program.Unbroken (p : Program) : Prop :=
  ∀ t ∈ p.tokens, t.kind = .name ∨ t.kind = .number → '\n' ∉ t.text.toList

/-- A line of an outline: the level of its node, and what stands behind the indent. -/
structure Entry where
  level : Nat
  headline : String

/-- The characters of a line, with two spaces for each level. -/
def Entry.chars (e : Entry) : List Char :=
  List.replicate (2 * e.level) ' ' ++ e.headline.toList

mutual

/-- The lines of an expression that stands at the given level. -/
def Expr.entries (level : Nat) : Expr → List Entry
  | .number text => [⟨level, (Node.number text).headline⟩]
  | .string text => [⟨level, (Node.string text).headline⟩]
  | .call name params =>
    ⟨level, (Node.call name (toNodes params)).headline⟩ :: entriesOf (level + 1) params

/-- The lines of expressions that stand at the given level. -/
def entriesOf (level : Nat) : List Expr → List Entry
  | [] => []
  | e :: es => e.entries level ++ entriesOf level es

end

/-- The lines of a program. -/
def Program.entries (p : Program) : List Entry :=
  ⟨0, p.toNode.headline⟩ :: entriesOf 1 p.body

/-! ### The lines of an outline -/

/-- The line of a node: its level is the number of its ancestors. -/
def Place.entry (p : Place) : Entry :=
  ⟨p.ancestors.length, p.node.headline⟩

theorem toList_line (p : Place) :
  (p.line "  ").toList = p.entry.chars
  := by
  have hindent : ∀ n,
      (String.join (List.replicate n "  ")).toList = List.replicate (2 * n) ' ' := by
    intro n
    induction n with
    | zero => rfl
    | succ n ih =>
        rw [List.replicate_succ, String.join_cons, String.toList_append, ih, Nat.mul_succ,
          Nat.add_comm, List.replicate_add]
        rfl
  rw [Place.line, String.toList_append, hindent]
  rfl

mutual

/-- The places of an expression have its lines. -/
theorem map_entry_places (ancestors : List Node) :
    ∀ e : Expr, (e.toNode.places ancestors).map Place.entry = e.entries ancestors.length
  | .number text => rfl
  | .string text => rfl
  | .call name params => by
      rw [Expr.toNode, Node.places, List.map_cons, map_entry_placesAll, Expr.entries]
      rfl

/-- The places of expressions have their lines. -/
theorem map_entry_placesAll (ancestors : List Node) :
    ∀ es : List Expr,
      (placesAll ancestors (toNodes es)).map Place.entry = entriesOf ancestors.length es
  | [] => rfl
  | e :: es => by
      rw [toNodes, placesAll, List.map_append, map_entry_places, map_entry_placesAll, entriesOf]

end

theorem isMisplaced_of_isExpression {p : Place} (h : p.node.isExpression) :
  p.isMisplaced = false
  := by
  obtain ⟨ancestors, _ | _ | _ | _ | _⟩ := p
  · cases h
  · rfl
  · rfl
  · rfl
  · cases h

/-- No node of a program is misplaced. -/
theorem Program.find?_places (p : Program) :
  (p.toNode.places []).find? (·.isMisplaced) = none
  := by
  rw [List.find?_eq_none]
  intro q hq
  rcases List.mem_cons.mp hq with rfl | hq
  · apply Bool.false_ne_true
  · have hnode := List.mem_map_of_mem (f := (·.node)) hq
    rw [map_node_placesAll] at hnode
    have hexpression := List.find?_eq_none.mp (find?_preorders_toNodes p.body) _ hnode
    rw [isMisplaced_of_isExpression (by simpa using hexpression)]
    apply Bool.false_ne_true

/-- The lines of a program are those of its nodes in pre-order. -/
theorem Program.map_entry_places (p : Program) :
  (p.toNode.places []).map Place.entry = p.entries
  := by
  rw [Program.toNode, Node.places, List.map_cons, map_entry_placesAll]
  rfl

/-- A program has an outline, which is made of its lines. -/
theorem Program.outline_eq (p : Program) :
  p.toNode.outline = .ok p.outline
    ∧ p.outline.toList = ['\n'].intercalate (p.entries.map Entry.chars)
  := by
  have houtline : p.outline = "\n".intercalate ((p.toNode.places []).map (·.line "  ")) := by
    rw [Program.outline, walk_visitor, p.find?_places, Sheet.text, List.reverse_reverse]
  constructor
  · rw [Node.outline, Printer.print_eq, p.find?_places, houtline]
    rfl
  · rw [houtline, String.toList_intercalate, List.map_map, ← p.map_entry_places, List.map_map]
    congr 1
    apply List.map_congr_left
    intro q _
    apply toList_line

/-! ### Cutting an outline into lines -/

/-- A line has no line feed if its headline has none. -/
theorem Entry.not_mem_chars {e : Entry} (h : '\n' ∉ e.headline.toList) :
  '\n' ∉ e.chars
  := by
  simp [Entry.chars, h]

/-- The headline of a string has no line feed, whatever the string holds. -/
theorem not_mem_headline_string (text : String) :
  '\n' ∉ (Node.string text).headline.toList
  := by
  have hquote : '\n' ∉ Json.quote .unicode text := by
    intro h
    exact absurd (Json.space_le_of_shows (Json.shows_of_mem_quote h)) (by decide)
  simp [hquote]

mutual

/-- The headlines of an expression have no line feed if its names and numbers have none. -/
theorem not_mem_headline_entries {x : Entry} (level : Nat) :
    ∀ e : Expr, (∀ t ∈ e.tokens, t.kind = .name ∨ t.kind = .number → '\n' ∉ t.text.toList) →
      x ∈ e.entries level → '\n' ∉ x.headline.toList
  | .number text, h, hx => by
      have htext := h ⟨.number, text⟩ (by simp [Expr.tokens]) (Or.inr rfl)
      rw [List.mem_singleton.mp hx]
      simpa using htext
  | .string text, h, hx => by
      rw [List.mem_singleton.mp hx]
      apply not_mem_headline_string
  | .call name params, h, hx => by
      rcases List.mem_cons.mp hx with rfl | hx
      · have hname := h ⟨.name, name⟩ (by simp [Expr.tokens]) (Or.inl rfl)
        simpa using hname
      · apply not_mem_headline_entriesOf (level + 1) params _ hx
        intro t ht
        apply h
        simp [Expr.tokens, ht]

/-- The headlines of expressions have no line feed if their names and numbers have none. -/
theorem not_mem_headline_entriesOf {x : Entry} (level : Nat) :
    ∀ es : List Expr,
      (∀ t ∈ tokensOf es, t.kind = .name ∨ t.kind = .number → '\n' ∉ t.text.toList) →
      x ∈ entriesOf level es → '\n' ∉ x.headline.toList
  | [], h, hx => by cases hx
  | e :: es, h, hx => by
      rw [tokensOf, List.forall_mem_append] at h
      rcases List.mem_append.mp hx with hx | hx
      · apply not_mem_headline_entries level e h.1 hx
      · apply not_mem_headline_entriesOf level es h.2 hx

end

/-- The outline of a program without line feeds in its names and numbers is cut into its
lines. -/
theorem Program.splitOn_outline {p : Program} (h : p.Unbroken) :
  p.outline.toList.splitOn '\n' = p.entries.map Entry.chars
  := by
  rw [p.outline_eq.2]
  apply List.splitOn_intercalate
  · simp only [List.mem_map]
    rintro _ ⟨e, he, rfl⟩
    apply Entry.not_mem_chars
    rcases List.mem_cons.mp he with rfl | he
    · show '\n' ∉ "Program".toList
      decide
    · apply not_mem_headline_entriesOf 1 p.body h he
  · simp [Program.entries]

/-- The line that some characters write. -/
def Entry.ofChars (cs : List Char) : Entry :=
  ⟨(cs.takeWhile (· = ' ')).length / 2, String.ofList (cs.dropWhile (· = ' '))⟩

/-- A line is read back from its characters if its headline does not begin with a space. -/
theorem Entry.ofChars_chars {e : Entry} (h : ∀ c ∈ e.headline.toList.head?, c ≠ ' ') :
  ofChars e.chars = e
  := by
  have hindent : ∀ c ∈ List.replicate (2 * e.level) ' ', decide (c = ' ') = true := by
    intro c hc
    rw [List.eq_of_mem_replicate hc]
    rfl
  have htake : e.headline.toList.takeWhile (· = ' ') = []
      ∧ e.headline.toList.dropWhile (· = ' ') = e.headline.toList := by
    cases hchars : e.headline.toList with
    | nil => exact ⟨rfl, rfl⟩
    | cons c cs =>
        rw [hchars] at h
        have hc : c ≠ ' ' := h c rfl
        simp [hc]
  rw [ofChars, chars, List.takeWhile_append_of_pos hindent, List.dropWhile_append_of_pos hindent,
    htake.1, htake.2]
  simp

/-- No line of a program has a headline that begins with a space. -/
theorem Program.head_headline_ne {p : Program} {x : Entry} (hx : x ∈ p.entries) :
  ∀ c ∈ x.headline.toList.head?, c ≠ ' '
  := by
  rw [← p.map_entry_places] at hx
  obtain ⟨q, hq, rfl⟩ := List.mem_map.mp hx
  have hplaced := List.find?_eq_none.mp p.find?_places q hq
  obtain ⟨ancestors, n⟩ := q
  cases n with
  | foreign typeName => simp [Place.isMisplaced] at hplaced
  | program body => simp [Place.entry]
  | number text => simp [Place.entry]
  | string text => simp [Place.entry]
  | call name params => simp [Place.entry]

/-- The lines of a program are read back from its outline. -/
theorem Program.map_ofChars_splitOn {p : Program} (h : p.Unbroken) :
  (p.outline.toList.splitOn '\n').map Entry.ofChars = p.entries
  := by
  rw [splitOn_outline h, List.map_map]
  conv_rhs => rw [← List.map_id p.entries]
  apply List.map_congr_left
  intro x hx
  apply Entry.ofChars_chars (head_headline_ne hx)

/-! ### Lines and levels -/

/-- The headline of an expression tells what it is, up to the parameters of a call. -/
theorem headline_inj {e f : Expr} (h : e.toNode.headline = f.toNode.headline) :
  (∃ text, e = .number text ∧ f = .number text)
  ∨ (∃ text, e = .string text ∧ f = .string text)
  ∨ ∃ name params params', e = .call name params ∧ f = .call name params'
  := by
  have hhead := congrArg (·.toList.head?) h
  cases e with
  | number text =>
      cases f with
      | number text' =>
          left
          use text, rfl
          rw [(String.append_right_inj _).mp h]
      | string _ => simp [Expr.toNode] at hhead
      | call _ _ => simp [Expr.toNode] at hhead
  | string text =>
      cases f with
      | number _ => simp [Expr.toNode] at hhead
      | string text' =>
          right; left
          use text, rfl
          have hquote := String.ofList_injective ((String.append_right_inj _).mp h)
          rw [Json.quote_injective hquote]
      | call _ _ => simp [Expr.toNode] at hhead
  | call name params =>
      cases f with
      | number _ => simp [Expr.toNode] at hhead
      | string _ => simp [Expr.toNode] at hhead
      | call name' params' =>
          right; right
          use name, params, params', rfl
          rw [(String.append_right_inj _).mp h]

/-- What follows belongs to no expression at the given level or below it. -/
def Shallower (level : Nat) (rest : List Entry) : Prop :=
  ∀ x ∈ rest.head?, x.level < level

/-- The lines of expressions at a level do not belong to an expression before them. -/
theorem Shallower.entriesOf {level : Nat} {rest : List Entry} (h : Shallower level rest)
    (es : List Expr) :
  Shallower (level + 1) (entriesOf level es ++ rest)
  := by
  cases es with
  | nil =>
      intro x hx
      apply Nat.lt_succ_of_lt (h x hx)
  | cons e es =>
      cases e <;> (rintro _ ⟨⟩; apply Nat.lt_succ_self)

/-- The parameters of a call. -/
def Expr.params : Expr → List Expr
  | .number _ | .string _ => []
  | .call _ params => params

/-- The line of an expression comes before those of its parameters, which stand one level
deeper. -/
theorem entries_eq (level : Nat) (e : Expr) :
  e.entries level = ⟨level, e.toNode.headline⟩ :: entriesOf (level + 1) e.params
  := by
  cases e <;> rfl

mutual

/-- An expression is determined by its lines, whatever follows that does not belong to it. -/
theorem entries_append_inj (level : Nat) :
    ∀ (e f : Expr) (rest rest' : List Entry),
      Shallower (level + 1) rest → Shallower (level + 1) rest' →
      e.entries level ++ rest = f.entries level ++ rest' → e = f ∧ rest = rest'
  | .number text, f, rest, rest', hrest, hrest', h => by
      rw [entries_eq, entries_eq] at h
      obtain ⟨hline, htail⟩ := List.cons.inj h
      have hheadline : (Expr.number text).toNode.headline = f.toNode.headline :=
        congrArg Entry.headline hline
      obtain ⟨_, he, rfl⟩ | ⟨_, ⟨⟩, _⟩ | ⟨_, _, _, ⟨⟩, _⟩ :=
        headline_inj hheadline
      exact ⟨he, htail⟩
  | .string text, f, rest, rest', hrest, hrest', h => by
      rw [entries_eq, entries_eq] at h
      obtain ⟨hline, htail⟩ := List.cons.inj h
      have hheadline : (Expr.string text).toNode.headline = f.toNode.headline :=
        congrArg Entry.headline hline
      obtain ⟨_, ⟨⟩, _⟩ | ⟨_, he, rfl⟩ | ⟨_, _, _, ⟨⟩, _⟩ :=
        headline_inj hheadline
      exact ⟨he, htail⟩
  | .call name params, f, rest, rest', hrest, hrest', h => by
      rw [entries_eq, entries_eq] at h
      obtain ⟨hline, htail⟩ := List.cons.inj h
      have hheadline : (Expr.call name params).toNode.headline = f.toNode.headline :=
        congrArg Entry.headline hline
      obtain ⟨_, ⟨⟩, _⟩ | ⟨_, ⟨⟩, _⟩ | ⟨_, _, params', ⟨⟩, rfl⟩ :=
        headline_inj hheadline
      obtain ⟨rfl, rfl⟩ := entriesOf_append_inj (level + 1) params params' rest rest' hrest hrest'
        htail
      exact ⟨rfl, rfl⟩

/-- Expressions are determined by their lines, whatever follows that does not belong to
them. -/
theorem entriesOf_append_inj (level : Nat) :
    ∀ (es fs : List Expr) (rest rest' : List Entry),
      Shallower level rest → Shallower level rest' →
      entriesOf level es ++ rest = entriesOf level fs ++ rest' → es = fs ∧ rest = rest'
  | [], [], rest, rest', hrest, hrest', h => ⟨rfl, h⟩
  | [], f :: fs, rest, rest', hrest, hrest', h => by
      rw [entriesOf, entriesOf, entries_eq] at h
      obtain rfl : rest = _ := h
      cases Nat.lt_irrefl level (hrest _ rfl)
  | e :: es, [], rest, rest', hrest, hrest', h => by
      rw [entriesOf, entriesOf, entries_eq] at h
      obtain rfl : _ = rest' := h
      cases Nat.lt_irrefl level (hrest' _ rfl)
  | e :: es, f :: fs, rest, rest', hrest, hrest', h => by
      rw [entriesOf, entriesOf, List.append_assoc, List.append_assoc] at h
      obtain ⟨rfl, htail⟩ := entries_append_inj level e f _ _ (hrest.entriesOf es)
        (hrest'.entriesOf fs) h
      obtain ⟨rfl, rfl⟩ := entriesOf_append_inj level es fs rest rest' hrest hrest' htail
      exact ⟨rfl, rfl⟩

end

/-- A program is determined by its lines. -/
theorem Program.entries_inj {p q : Program} (h : p.entries = q.entries) :
  p = q
  := by
  have hbody : entriesOf 1 p.body ++ [] = entriesOf 1 q.body ++ [] := by
    rw [(List.cons.inj h).2]
  have hnil : Shallower 1 [] := by
    rintro _ ⟨⟩
  obtain ⟨body⟩ := p
  obtain ⟨body'⟩ := q
  rw [(entriesOf_append_inj 1 body body' [] [] hnil hnil hbody).1]

/-! ### Programs of texts -/

theorem length_entries (p : Program) :
  p.entries.length = p.toNode.size
  := by
  rw [Node.size, ← map_node_places [] p.toNode, ← p.map_entry_places, List.length_map,
    List.length_map]

/-- No line feed stands in the names and numbers of a program that has been read from a text. -/
theorem unbroken_of_readProgram {source : String} {p : Program} (h : readProgram source = .ok p) :
  p.Unbroken
  := by
  have hlayout := layout_of_tokensFrom (readProgram_eq_ok_iff.mp h)
  intro t ht hkind
  obtain ⟨l, hl⟩ := hlayout.spelled t ht
  have hstring : t.kind ≠ .string := by
    rintro heq
    simp [heq] at hkind
  rw [← hl.eq_text hstring]
  intro hfeed
  exact hl.not_isBlank hstring hfeed (by decide)

/-- Programs without line feeds in their names and numbers have the same outline only if they are
the same, and the outline of such a program is cut into as many lines as the program has nodes.
Every program has an outline, and no line feed stands in a name or a number of a program that has
been read from a text. -/
theorem outline_injective :
  (∀ p q : Program, p.Unbroken → q.Unbroken → p.outline = q.outline → p = q)
  ∧ (∀ p : Program, p.Unbroken → (p.outline.toList.splitOn '\n').length = p.toNode.size)
  ∧ (∀ p : Program, p.toNode.outline = .ok p.outline)
  ∧ ∀ source p, readProgram source = .ok p → p.Unbroken
  := by
  refine ⟨?_, ?_, fun p => p.outline_eq.1, fun source p => unbroken_of_readProgram⟩
  · intro p q hp hq h
    apply Program.entries_inj
    rw [← Program.map_ofChars_splitOn hp, h, Program.map_ofChars_splitOn hq]
  · intro p hp
    rw [Program.splitOn_outline hp, List.length_map, length_entries]

/-- A string that looks like two lines is one line of an outline. -/
theorem outline_injective_two_lines :
  readProgram "(f \"1\\n  NumberLiteral: 2\")" = .ok ⟨[.call "f" [.string "1\n  NumberLiteral: 2"]]⟩
    ∧ Program.Unbroken ⟨[.call "f" [.string "1\n  NumberLiteral: 2"]]⟩
    ∧ (Program.outline ⟨[.call "f" [.string "1\n  NumberLiteral: 2"]]⟩
      = Program.outline ⟨[.call "f" [.string ("1\n" ++ "  NumberLiteral: 2")]]⟩)
    ∧ (⟨[.call "f" [.string "1\n  NumberLiteral: 2"]]⟩ : Program)
      = ⟨[.call "f" [.string ("1\n" ++ "  NumberLiteral: 2")]]⟩
    ∧ ((Program.outline ⟨[.call "f" [.string "1\n  NumberLiteral: 2"]]⟩).toList.splitOn '\n').length
      = 3
  := by
  have hread : readProgram "(f \"1\\n  NumberLiteral: 2\")"
      = .ok ⟨[.call "f" [.string "1\n  NumberLiteral: 2"]]⟩ := by
    rw [readProgram_eq_ok_iff]
    decide +kernel
  obtain ⟨hinj, hlines, houtline, hunbroken⟩ := outline_injective
  have hprogram := hunbroken _ _ hread
  exact ⟨hread, hprogram, rfl, hinj _ _ hprogram hprogram rfl, hlines _ hprogram⟩

end CallForm.Source
