import CallForm.Proofs.Compile.Unambiguous
import CallForm.Proofs.Text.Nesting
import Mathlib.Algebra.Order.Ring.Nat

/-!
# Semicolons and parentheses

What a text and its call form have in common.  The contents of strings go into the call form
as they are.  All other semicolons end statements, and all other parentheses stand for the
parentheses of the source, in the same order, although each opening one changes places with
the name of its call.

`Expr.depth` tells how deep calls are nested.  If no string holds a parenthesis, then the
parentheses of the source and of the call form are balanced and nested to this depth.
-/

namespace CallForm

open Text

/-! ### Marks -/

/-- The parentheses that a token brings into a text: itself, or those within a string. -/
def Token.parens (t : Token) : List Char :=
  match t.kind with
  | .paren => t.text.toList
  | .string => t.text.toList.filter isParenthesis
  | .name | .number => []

/-- The semicolons that a token brings into a text: those within a string. -/
def Token.semicolons (t : Token) : Nat :=
  match t.kind with
  | .string => t.text.toList.count ';'
  | .paren | .name | .number => 0

/-- The characters of a token that are not bound by its kind: those of a string, and the
parenthesis. -/
def Token.contents (t : Token) : List Char :=
  match t.kind with
  | .paren | .string => t.text.toList
  | .name | .number => []

/-- `Mark c`: no name and no number goes on with `c`, and call forms use it neither to quote
strings nor to separate arguments. -/
structure Mark (c : Char) : Prop where
  name : ¬Continues .name c
  number : ¬Continues .number c
  notQuote : c ≠ '"'
  notComma : c ≠ ','
  notSpace : c ≠ ' '

theorem begins_of_isParenthesis {c : Char} (h : isParenthesis c) :
  Begins .paren c
  := by
  simpa [isParenthesis, Begins] using h

theorem mark_of_isParenthesis {c : Char} (h : isParenthesis c) :
  Mark c
  := by
  have hc := begins_of_isParenthesis h
  refine ⟨hc.not_continues (by decide), hc.not_continues (by decide), ?_, ?_, ?_⟩
  · rintro rfl
    cases h
  · rintro rfl
    cases h
  · rintro rfl
    cases h

theorem mark_semicolon :
  Mark ';'
  := ⟨by decide, by decide, by decide, by decide, by decide⟩

/-- No mark stands in a name or a number. -/
theorem filter_eq_nil_of_spells {t : Token} {l : List Char} (h : Spells l t)
    (hkind : t.kind = .name ∨ t.kind = .number) {keep : Char → Bool}
    (hkeep : ∀ c, keep c → Mark c) :
  t.text.toList.filter keep = []
  := by
  have hreadable : Readable ⟨t.kind, t.text⟩ := by
    refine ⟨⟨l, h⟩, ?_⟩
    intro hstring
    rcases hkind with hname | hnumber
    · cases hname.symm.trans hstring
    · cases hnumber.symm.trans hstring
  rw [List.filter_eq_nil_iff]
  intro c hc hmark
  have hcontinues := (hreadable.continues hkind).2 c hc
  rcases hkind with hname | hnumber
  · rw [hname] at hcontinues
    apply (hkeep c hmark).name hcontinues
  · rw [hnumber] at hcontinues
    apply (hkeep c hmark).number hcontinues

/-- What selects only marks selects no other character. -/
theorem keep_eq_false {keep : Char → Bool} (hkeep : ∀ c, keep c → Mark c) {c : Char}
    (hc : ¬Mark c) :
  keep c = false
  := by
  cases h : keep c with
  | false => rfl
  | true => cases hc (hkeep c h)

namespace Source

/-! ### Marks in call forms -/

mutual

/-- The marks in the call form of an expression are those in the contents of its tokens. -/
theorem filter_callForm {keep : Char → Bool} (hkeep : ∀ c, keep c → Mark c) :
    ∀ e : Expr, (∀ t ∈ e.tokens, ∃ l, Spells l t) →
      e.callForm.toList.filter keep = (e.tokens.flatMap Token.contents).filter keep
  | .number text, he => by
      obtain ⟨l, hl⟩ := he ⟨.number, text⟩ (by simp [Expr.tokens])
      rw [Expr.callForm, filter_eq_nil_of_spells hl (Or.inr rfl) hkeep]
      rfl
  | .string text, he => by
      have hquote : keep '"' = false := keep_eq_false hkeep fun h => h.notQuote rfl
      rw [toList_callForm_string]
      simp [Expr.tokens, Token.contents, hquote]
  | .call name params, he => by
      obtain ⟨l, hl⟩ := he ⟨.name, name⟩ (by simp [Expr.tokens])
      have hname := filter_eq_nil_of_spells hl (Or.inl rfl) hkeep
      have hparams : ∀ t ∈ tokensOf params, ∃ l, Spells l t := by
        intro t ht
        apply he
        simp [Expr.tokens, ht]
      have hcontents : (Expr.call name params).tokens.flatMap Token.contents
          = '(' :: ((tokensOf params).flatMap Token.contents ++ [')']) := by
        simp [Expr.tokens, Token.contents]
      rw [toList_callForm_call, hcontents, List.filter_append, hname, List.nil_append,
        List.filter_cons, List.filter_cons, List.filter_append, List.filter_append,
        filter_argumentChars hkeep params hparams]

/-- The marks in the arguments of a call are those in the contents of their tokens. -/
theorem filter_argumentChars {keep : Char → Bool} (hkeep : ∀ c, keep c → Mark c) :
    ∀ es : List Expr, (∀ t ∈ tokensOf es, ∃ l, Spells l t) →
      (argumentChars es).filter keep = ((tokensOf es).flatMap Token.contents).filter keep
  | [], _ => rfl
  | e :: es, hall => by
      obtain ⟨he, hes⟩ := List.forall_mem_append.mp hall
      rw [argumentChars, tokensOf, List.flatMap_append, List.filter_append, List.filter_append,
        filter_callForm hkeep e he, filter_furtherChars hkeep es hes]

/-- The marks in further arguments are those in the contents of their tokens: neither the
commas nor the spaces between arguments are marks. -/
theorem filter_furtherChars {keep : Char → Bool} (hkeep : ∀ c, keep c → Mark c) :
    ∀ es : List Expr, (∀ t ∈ tokensOf es, ∃ l, Spells l t) →
      (furtherChars es).filter keep = ((tokensOf es).flatMap Token.contents).filter keep
  | [], _ => rfl
  | e :: es, hall => by
      obtain ⟨he, hes⟩ := List.forall_mem_append.mp hall
      have hcomma : keep ',' = false := keep_eq_false hkeep fun h => h.notComma rfl
      have hspace : keep ' ' = false := keep_eq_false hkeep fun h => h.notSpace rfl
      rw [furtherChars, tokensOf, List.flatMap_append, List.filter_cons_of_neg (by simp [hcomma]),
        List.filter_cons_of_neg (by simp [hspace]), List.filter_append, List.filter_append,
        filter_callForm hkeep e he, filter_furtherChars hkeep es hes]

end

/-- The parentheses of statements are those of their tokens. -/
theorem filter_statementChars {es : List Expr} (hall : ∀ t ∈ tokensOf es, ∃ l, Spells l t) :
  (statementChars es).filter isParenthesis
    = ((tokensOf es).flatMap Token.contents).filter isParenthesis
  := by
  induction es with
  | nil => rfl
  | cons e es ih =>
      obtain ⟨he, hes⟩ := List.forall_mem_append.mp hall
      rw [statementChars, tokensOf, List.flatMap_append, List.filter_append, List.filter_append,
        List.filter_cons_of_neg (by decide), filter_callForm (fun _ => mark_of_isParenthesis) e he,
        ih hes]

/-- The semicolons of statements are those in the contents of their tokens, and one for each
statement. -/
theorem count_statementChars {es : List Expr} (hall : ∀ t ∈ tokensOf es, ∃ l, Spells l t) :
  (statementChars es).count ';'
    = es.length + ((tokensOf es).flatMap Token.contents).count ';'
  := by
  have hmark : ∀ c, (c == ';') = true → Mark c := by
    intro c hc
    rw [eq_of_beq hc]
    apply mark_semicolon
  induction es with
  | nil => rfl
  | cons e es ih =>
      obtain ⟨he, hes⟩ := List.forall_mem_append.mp hall
      have hcount : e.callForm.toList.count ';' = (e.tokens.flatMap Token.contents).count ';' := by
        rw [List.count_eq_length_filter, List.count_eq_length_filter, filter_callForm hmark e he]
      rw [statementChars, tokensOf, List.flatMap_append, List.count_append, List.count_append,
        List.count_cons_self, ih hes, hcount, List.length_cons]
      omega

/-! ### The depth of calls -/

mutual

/-- How deep calls are nested in an expression. -/
def Expr.depth : Expr → Nat
  | .number _ => 0
  | .string _ => 0
  | .call _ params => depthOf params + 1

/-- How deep calls are nested in expressions. -/
def depthOf : List Expr → Nat
  | [] => 0
  | e :: es => max e.depth (depthOf es)

end

/-- How deep calls are nested in a program. -/
def Program.depth (p : Program) : Nat :=
  depthOf p.body

mutual

/-- If no string of an expression holds a parenthesis, the parentheses of its tokens are
nested as deep as its calls. -/
theorem nested_tokens :
    ∀ e : Expr, (∀ t ∈ e.tokens, t.kind = .string → t.parens = []) →
      Nested e.depth (e.tokens.flatMap Token.parens)
  | .number text, _ => Nested.nil
  | .string text, he => by
      have hparens := he ⟨.string, text⟩ (by simp [Expr.tokens]) rfl
      rw [Expr.tokens, List.flatMap_singleton, hparens]
      apply Nested.nil
  | .call name params, he => by
      have hparams : ∀ t ∈ tokensOf params, t.kind = .string → t.parens = [] := by
        intro t ht
        apply he
        simp [Expr.tokens, ht]
      have hparens : (Expr.call name params).tokens.flatMap Token.parens
          = '(' :: ((tokensOf params).flatMap Token.parens ++ [')']) := by
        simp [Expr.tokens, Token.parens]
      rw [hparens]
      apply (nested_tokensOf params hparams).enclose

/-- If no string of some expressions holds a parenthesis, the parentheses of their tokens are
nested as deep as their calls. -/
theorem nested_tokensOf :
    ∀ es : List Expr, (∀ t ∈ tokensOf es, t.kind = .string → t.parens = []) →
      Nested (depthOf es) ((tokensOf es).flatMap Token.parens)
  | [], _ => Nested.nil
  | e :: es, hall => by
      obtain ⟨he, hes⟩ := List.forall_mem_append.mp hall
      rw [tokensOf, List.flatMap_append]
      apply (nested_tokens e he).append (nested_tokensOf es hes)

end

end Source

/-! ### Marks in sources -/

/-- The parentheses in the contents of a token that is spelled somehow are those that it
brings into a text. -/
theorem filter_contents {t : Token} {l : List Char} (h : Spells l t) :
  t.contents.filter isParenthesis = t.parens
  := by
  cases h with
  | opening => rfl
  | closing => rfl
  | name => rfl
  | number => rfl
  | string => rfl

/-- The semicolons in the contents of a token that is spelled somehow are those that it brings
into a text. -/
theorem count_contents {t : Token} {l : List Char} (h : Spells l t) :
  t.contents.count ';' = t.semicolons
  := by
  cases h with
  | opening => rfl
  | closing => rfl
  | name => rfl
  | number => rfl
  | string => rfl

/-- An escape denotes a text with the same parentheses as the escaped character. -/
theorem Escape.filter_isParenthesis {c : Char} {u : List Char} (h : Escape c u) :
  u.filter isParenthesis = [c].filter isParenthesis
  := by
  cases h with
  | lineFeed => decide
  | tabulator => decide
  | carriageReturn => decide
  | backslash => rfl
  | quote => rfl
  | other _ => rw [List.filter_cons_of_neg (by decide)]

/-- The body of a string has the parentheses of the value that it denotes. -/
theorem Body.filter_isParenthesis {b value : List Char} (h : Body b value) :
  b.filter isParenthesis = value.filter isParenthesis
  := by
  induction h with
  | empty => rfl
  | plain _ _ ih => rw [List.filter_cons, List.filter_cons, ih]
  | @escape c u b value hc _ ih =>
      rw [List.filter_append, hc.filter_isParenthesis, List.filter_cons_of_neg (by decide),
        ← List.singleton_append, List.filter_append, ih]

/-- A lexeme has the parentheses of the token that it spells. -/
theorem Spells.filter_isParenthesis {l : List Char} {t : Token} (h : Spells l t) :
  l.filter isParenthesis = t.parens
  := by
  have hword := fun hkind => filter_eq_nil_of_spells h hkind (fun _ => mark_of_isParenthesis)
  cases h with
  | opening => rfl
  | closing => rfl
  | name =>
      have hname := hword (Or.inl rfl)
      rw [String.toList_ofList] at hname
      apply hname
  | number =>
      have hnumber := hword (Or.inr rfl)
      rw [String.toList_ofList] at hnumber
      apply hnumber
  | @string b value hb =>
      rw [List.cons_append, List.filter_cons_of_neg (by decide), List.filter_append,
        hb.filter_isParenthesis, List.filter_singleton]
      simp [Token.parens, isParenthesis]

/-- A text has the parentheses of its tokens, in the same order. -/
theorem Layout.filter_isParenthesis {A : Token → List Token → List Char → Prop} {ts : List Token}
    {cs : List Char} (h : Layout A ts cs) :
  cs.filter isParenthesis = ts.flatMap Token.parens
  := by
  have hblanks : ∀ gap : List Char, (∀ c ∈ gap, isBlank c) → gap.filter isParenthesis = [] := by
    intro gap hgap
    rw [List.filter_eq_nil_iff]
    intro c hc hparen
    apply (begins_of_isParenthesis hparen).not_isBlank (hgap c hc)
  induction h with
  | done hgap => rw [hblanks _ hgap, List.flatMap_nil]
  | next hgap hl _ _ ih =>
      rw [List.filter_append, List.filter_append, hblanks _ hgap, hl.filter_isParenthesis, ih,
        List.flatMap_cons, List.nil_append]

/-! ### Compiling -/

/-- Punctuation is preserved from a text to its call form.  The semicolons of the call form
are those within strings, and one for each expression of the program.  Its parentheses are
those of the tokens, in the same order.  If no string holds a parenthesis, the parentheses of
the call form and of the text are balanced, and nested as deep as the calls of the program. -/
theorem compile_punctuation {source output : String} (h : compile source = .ok output) :
  ∃ ts p, tokenize source = .ok ts ∧ Source.parse ts = .ok p
    ∧ output.toList.count ';' = p.body.length + (ts.map Token.semicolons).sum
    ∧ output.toList.filter isParenthesis = ts.flatMap Token.parens
    ∧ ((∀ t ∈ ts, t.kind = .string → t.parens = []) →
      Nested p.depth output.toList ∧ Nested p.depth source.toList)
  := by
  obtain ⟨p, htokens, rfl⟩ := exists_program_of_compile h
  have hlayout := layout_of_tokensFrom htokens
  have hspelled := hlayout.spelled
  have hparens : p.callForm.toList.filter isParenthesis = p.tokens.flatMap Token.parens := by
    rw [Source.toList_callForm_program, Source.filter_statementChars hspelled, List.filter_flatMap]
    apply List.flatMap_congr
    intro t ht
    obtain ⟨l, hl⟩ := hspelled t ht
    apply filter_contents hl
  refine ⟨p.tokens, p, htokens, Source.parse_tokens p, ?_, hparens, ?_⟩
  · have hsum : (p.tokens.flatMap Token.contents).count ';'
        = (p.tokens.map Token.semicolons).sum := by
      rw [List.count_flatMap]
      congr 1
      apply List.map_congr_left
      intro t ht
      obtain ⟨l, hl⟩ := hspelled t ht
      apply count_contents hl
    rw [Source.toList_callForm_program, Source.count_statementChars hspelled, ← hsum]
    rfl
  · intro hstrings
    have hself : (p.tokens.flatMap Token.parens).filter isParenthesis
        = p.tokens.flatMap Token.parens := by
      rw [← hparens, List.filter_filter]
      simp only [Bool.and_self]
    have hnested := Source.nested_tokensOf p.body hstrings
    constructor
    · apply hnested.of_filter_eq (hself.trans hparens.symm)
    · apply hnested.of_filter_eq (hself.trans hlayout.filter_isParenthesis.symm)

/-- A call within a call, and a string that holds a semicolon. -/
theorem compile_punctuation_nested :
  compile "(f (g) \"a;\") 1" = .ok "f(g(), \"a;\");1;"
    ∧ ∃ ts p, tokenize "(f (g) \"a;\") 1" = .ok ts ∧ Source.parse ts = .ok p
      ∧ "f(g(), \"a;\");1;".toList.count ';' = p.body.length + (ts.map Token.semicolons).sum
      ∧ "f(g(), \"a;\");1;".toList.filter isParenthesis = ts.flatMap Token.parens
      ∧ ((∀ t ∈ ts, t.kind = .string → t.parens = []) →
        Nested p.depth "f(g(), \"a;\");1;".toList ∧ Nested p.depth "(f (g) \"a;\") 1".toList)
  := by
  have h : compile "(f (g) \"a;\") 1" = .ok "f(g(), \"a;\");1;" := by decide +kernel
  exact ⟨h, compile_punctuation h⟩

end CallForm
