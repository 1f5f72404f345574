import CallForm.Proofs.Compile.Grammar

/-!
# Unambiguous call forms

A program whose names, numbers and strings could stand in a text, and whose strings hold
no quote, can be read back from its call form.  The first character of an expression
tells its kind, and each kind shows its own end: a name ends before a parenthesis, a
number before a comma, a parenthesis or a semicolon, and a string at its second quote,
whatever its contents look like.
-/

namespace CallForm

open Text

/-! ### Characters of call forms -/

namespace Source

/-- The characters of the arguments of a call after the first. -/
def furtherChars : List Expr → List Char
  | [] => []
  | e :: es => ',' :: ' ' :: (e.callForm.toList ++ furtherChars es)

/-- The characters of the arguments of a call. -/
def argumentChars : List Expr → List Char
  | [] => []
  | e :: es => e.callForm.toList ++ furtherChars es

/-- The characters of statements that follow one another. -/
def statementChars : List Expr → List Char
  | [] => []
  | e :: es => e.callForm.toList ++ ';' :: statementChars es

/-- Texts with a separator between them are the first text and, for each further one, the
separator and the text. -/
theorem intercalate_cons (s t : String) (ts : List String) :
  s.intercalate (t :: ts) = t ++ String.join (ts.map (s ++ ·))
  := by
  induction ts generalizing t with
  | nil => simp
  | cons u us ih =>
      rw [String.intercalate_cons_cons, ih, List.map_cons, String.join_cons]
      simp only [String.append_assoc]

theorem toList_further (es : List Expr) :
  (String.join ((callForms es).map (", " ++ ·))).toList = furtherChars es
  := by
  induction es with
  | nil => rfl
  | cons e es ih =>
      rw [callForms, List.map_cons, String.join_cons, String.toList_append, String.toList_append,
        ih]
      rfl

theorem toList_callForm_string (text : String) :
  (Expr.string text).callForm.toList = '"' :: (text.toList ++ ['"'])
  := by
  rw [Expr.callForm, String.toList_append, String.toList_append]
  rfl

theorem toList_callForm_call (name : String) (params : List Expr) :
  (Expr.call name params).callForm.toList
    = name.toList ++ '(' :: (argumentChars params ++ [')'])
  := by
  have harguments : (", ".intercalate (callForms params)).toList = argumentChars params := by
    cases params with
    | nil => rfl
    | cons e es =>
        rw [callForms, intercalate_cons, String.toList_append, toList_further, argumentChars]
  simp only [Expr.callForm, String.toList_append, harguments]
  simp

theorem toList_callForm_program (p : Program) :
  p.callForm.toList = statementChars p.body
  := by
  have h : ∀ es : List Expr,
      (String.join ((callForms es).map (· ++ ";"))).toList = statementChars es := by
    intro es
    induction es with
    | nil => rfl
    | cons e es ih =>
        rw [callForms, List.map_cons, String.join_cons, String.toList_append,
          String.toList_append, ih]
        simp [statementChars]
  apply h

end Source

/-! ### Tokens that can be read back -/

/-- A token that is spelled by some lexeme and, if it is a string, holds no quote. -/
def Readable (t : Token) : Prop :=
  (∃ l, Spells l t) ∧ (t.kind = .string → '"' ∉ t.text.toList)

/-- A name or a number begins as its kind says and goes on so to its end. -/
theorem Readable.continues {k : TokenKind} {text : String} (h : Readable ⟨k, text⟩)
    (hk : k = .name ∨ k = .number) :
  (∃ c cs, text.toList = c :: cs ∧ Begins k c) ∧ ∀ d ∈ text.toList, Continues k d
  := by
  obtain ⟨⟨l, hl⟩, -⟩ := h
  have hword : ∀ c cs, Begins k c → (∀ d ∈ cs, Continues k d) →
      (∃ b bs, (String.ofList (c :: cs)).toList = b :: bs ∧ Begins k b)
        ∧ ∀ d ∈ (String.ofList (c :: cs)).toList, Continues k d := by
    intro c cs hc hcs
    rw [String.toList_ofList]
    constructor
    · use c, cs, rfl, hc
    · rw [List.forall_mem_cons]
      exact ⟨hc.continues hk, hcs⟩
  cases hl with
  | opening => simp at hk
  | closing => simp at hk
  | name hc hcs => apply hword _ _ hc hcs
  | number hc hcs => apply hword _ _ hc hcs
  | string _ => simp at hk

theorem Readable.string {text : String} (h : Readable ⟨.string, text⟩) :
  ∀ d ∈ text.toList, d ≠ '"'
  := by
  rintro d hd rfl
  apply h.2 rfl hd

/-! ### Reading back -/

/-- Two texts that agree when something that cannot be continued stands behind them agree
themselves, and so does what stands behind them. -/
theorem append_inj_of_head? {P : Char → Prop} {cs cs' rest rest' : List Char}
    (hcs : ∀ c ∈ cs, P c) (hcs' : ∀ c ∈ cs', P c)
    (hrest : ∀ c ∈ rest.head?, ¬P c) (hrest' : ∀ c ∈ rest'.head?, ¬P c)
    (h : cs ++ rest = cs' ++ rest') :
  cs = cs' ∧ rest = rest'
  := by
  induction cs generalizing cs' with
  | nil =>
      cases cs' with
      | nil => exact ⟨rfl, h⟩
      | cons c' cs' =>
          obtain rfl : rest = c' :: (cs' ++ rest') := h
          cases hrest c' rfl (hcs' c' List.mem_cons_self)
  | cons c cs ih =>
      rw [List.forall_mem_cons] at hcs
      cases cs' with
      | nil =>
          obtain rfl : c :: (cs ++ rest) = rest' := h
          cases hrest' c rfl hcs.1
      | cons c' cs' =>
          rw [List.forall_mem_cons] at hcs'
          obtain ⟨rfl, htail⟩ := List.cons.inj h
          obtain ⟨rfl, rfl⟩ := ih hcs.2 hcs'.2 htail
          exact ⟨rfl, rfl⟩

/-- What may stand behind an expression in a call form: a comma, a closing parenthesis or
a semicolon. -/
def Follows (rest : List Char) : Prop :=
  ∃ c cs, rest = c :: cs ∧ (c = ',' ∨ c = ')' ∨ c = ';')

theorem Follows.ends_number {rest : List Char} (h : Follows rest) :
  Ends .number rest
  := by
  obtain ⟨c, cs, rfl, hc⟩ := h
  rintro _ ⟨⟩
  rcases hc with rfl | rfl | rfl <;> decide

namespace Source

/-- The kind of lexeme that the call form of an expression begins with. -/
def Expr.kind : Expr → TokenKind
  | .number _ => .number
  | .string _ => .string
  | .call .. => .name

/-- The first character of a call form tells the kind of the expression. -/
theorem callForm_head {e : Expr} (he : ∀ t ∈ e.tokens, Readable t) :
  ∃ c cs, e.callForm.toList = c :: cs ∧ Begins e.kind c
  := by
  cases e with
  | number text => apply ((he ⟨.number, text⟩ (by simp [Expr.tokens])).continues (Or.inr rfl)).1
  | string text =>
      rw [toList_callForm_string]
      exact ⟨'"', _, rfl, rfl⟩
  | call name params =>
      obtain ⟨c, cs, hname, hc⟩ := ((he ⟨.name, name⟩ (by simp [Expr.tokens])).continues (Or.inl rfl)).1
      rw [toList_callForm_call, hname]
      exact ⟨c, _, rfl, hc⟩

/-- Expressions whose call forms begin alike are of one kind. -/
theorem kind_eq_of_callForm {e e' : Expr} {rest rest' : List Char}
    (he : ∀ t ∈ e.tokens, Readable t) (he' : ∀ t ∈ e'.tokens, Readable t)
    (h : e.callForm.toList ++ rest = e'.callForm.toList ++ rest') :
  e.kind = e'.kind
  := by
  obtain ⟨c, cs, hcs, hc⟩ := callForm_head he
  obtain ⟨c', cs', hcs', hc'⟩ := callForm_head he'
  rw [hcs, hcs'] at h
  obtain ⟨rfl, -⟩ := List.cons.inj h
  apply hc.unique hc'

/-- No call form begins with a closing parenthesis. -/
theorem callForm_append_ne {e : Expr} {rest rest' : List Char}
    (he : ∀ t ∈ e.tokens, Readable t) :
  e.callForm.toList ++ rest ≠ ')' :: rest'
  := by
  intro h
  obtain ⟨c, cs, hcs, hc⟩ := callForm_head he
  rw [hcs] at h
  obtain ⟨rfl, -⟩ := List.cons.inj h
  have hparen : Begins .paren ')' := Or.inr rfl
  have hkind := hc.unique hparen
  cases e with
  | number _ => cases hkind
  | string _ => cases hkind
  | call _ _ => cases hkind

theorem follows_furtherChars (es : List Expr) (rest : List Char) :
  Follows (furtherChars es ++ ')' :: rest)
  := by
  cases es with
  | nil => exact ⟨')', rest, rfl, Or.inr (Or.inl rfl)⟩
  | cons e es => exact ⟨',', _, rfl, Or.inl rfl⟩

mutual

/-- An expression and what stands behind it can be read back from their text. -/
theorem callForm_append_inj :
    ∀ (e e' : Expr) {rest rest' : List Char}, (∀ t ∈ e.tokens, Readable t) →
      (∀ t ∈ e'.tokens, Readable t) → Follows rest → Follows rest' →
      e.callForm.toList ++ rest = e'.callForm.toList ++ rest' → e = e' ∧ rest = rest'
  | .number text, e', rest, rest', he, he', hrest, hrest', h => by
      have hkind := kind_eq_of_callForm he he' h
      cases e' with
      | string _ => cases hkind
      | call _ _ => cases hkind
      | number text' =>
          have hnumber := (he ⟨.number, text⟩ (by simp [Expr.tokens])).continues (Or.inr rfl)
          have hnumber' := (he' ⟨.number, text'⟩ (by simp [Expr.tokens])).continues (Or.inr rfl)
          obtain ⟨htext, rfl⟩ := append_inj_of_head? hnumber.2 hnumber'.2 hrest.ends_number
            hrest'.ends_number h
          rw [String.toList_inj.mp htext]
          exact ⟨rfl, rfl⟩
  | .string text, e', rest, rest', he, he', hrest, hrest', h => by
      have hkind := kind_eq_of_callForm he he' h
      cases e' with
      | number _ => cases hkind
      | call _ _ => cases hkind
      | string text' =>
          have hstring := (he ⟨.string, text⟩ (by simp [Expr.tokens])).string
          have hstring' := (he' ⟨.string, text'⟩ (by simp [Expr.tokens])).string
          rw [toList_callForm_string, toList_callForm_string] at h
          simp only [List.append_assoc, List.cons_append, List.nil_append] at h
          obtain ⟨htext, htail⟩ := append_inj_of_head? hstring hstring'
            (by rintro _ ⟨⟩; decide) (by rintro _ ⟨⟩; decide) (List.cons.inj h).2
          rw [String.toList_inj.mp htext, (List.cons.inj htail).2]
          exact ⟨rfl, rfl⟩
  | .call name params, e', rest, rest', he, he', hrest, hrest', h => by
      have hkind := kind_eq_of_callForm he he' h
      cases e' with
      | number _ => cases hkind
      | string _ => cases hkind
      | call name' params' =>
          have hname := (he ⟨.name, name⟩ (by simp [Expr.tokens])).continues (Or.inl rfl)
          have hname' := (he' ⟨.name, name'⟩ (by simp [Expr.tokens])).continues (Or.inl rfl)
          have hparams : ∀ t ∈ tokensOf params, Readable t := by
            intro t ht
            apply he
            simp [Expr.tokens, ht]
          have hparams' : ∀ t ∈ tokensOf params', Readable t := by
            intro t ht
            apply he'
            simp [Expr.tokens, ht]
          rw [toList_callForm_call, toList_callForm_call] at h
          simp only [List.append_assoc, List.cons_append, List.nil_append] at h
          obtain ⟨htext, htail⟩ := append_inj_of_head? hname.2 hname'.2
            (by rintro _ ⟨⟩; decide) (by rintro _ ⟨⟩; decide) h
          obtain ⟨rfl, rfl⟩ := argumentChars_append_inj params params' hparams hparams'
            (List.cons.inj htail).2
          rw [String.toList_inj.mp htext]
          exact ⟨rfl, rfl⟩

/-- The arguments of a call and what stands behind it can be read back from their text. -/
theorem argumentChars_append_inj :
    ∀ (es es' : List Expr) {rest rest' : List Char}, (∀ t ∈ tokensOf es, Readable t) →
      (∀ t ∈ tokensOf es', Readable t) →
      argumentChars es ++ ')' :: rest = argumentChars es' ++ ')' :: rest' →
      es = es' ∧ rest = rest'
  | [], [], rest, rest', hes, hes', h => ⟨rfl, (List.cons.inj h).2⟩
  | [], e' :: es', rest, rest', hes, hes', h => by
      rw [argumentChars, argumentChars, List.append_assoc] at h
      cases callForm_append_ne (List.forall_mem_append.mp hes').1 h.symm
  | e :: es, [], rest, rest', hes, hes', h => by
      rw [argumentChars, argumentChars, List.append_assoc] at h
      cases callForm_append_ne (List.forall_mem_append.mp hes).1 h
  | e :: es, e' :: es', rest, rest', hall, hall', h => by
      obtain ⟨he, hes⟩ := List.forall_mem_append.mp hall
      obtain ⟨he', hes'⟩ := List.forall_mem_append.mp hall'
      rw [argumentChars, argumentChars, List.append_assoc, List.append_assoc] at h
      obtain ⟨rfl, htail⟩ := callForm_append_inj e e' he he' (follows_furtherChars es rest)
        (follows_furtherChars es' rest') h
      obtain ⟨rfl, rfl⟩ := furtherChars_append_inj es es' hes hes' htail
      exact ⟨rfl, rfl⟩

/-- The further arguments of a call and what stands behind it can be read back from their
text. -/
theorem furtherChars_append_inj :
    ∀ (es es' : List Expr) {rest rest' : List Char}, (∀ t ∈ tokensOf es, Readable t) →
      (∀ t ∈ tokensOf es', Readable t) →
      furtherChars es ++ ')' :: rest = furtherChars es' ++ ')' :: rest' →
      es = es' ∧ rest = rest'
  | [], [], rest, rest', hes, hes', h => ⟨rfl, (List.cons.inj h).2⟩
  | [], e' :: es', rest, rest', hes, hes', h => by
      cases (List.cons.inj h).1
  | e :: es, [], rest, rest', hes, hes', h => by
      cases (List.cons.inj h).1
  | e :: es, e' :: es', rest, rest', hall, hall', h => by
      obtain ⟨he, hes⟩ := List.forall_mem_append.mp hall
      obtain ⟨he', hes'⟩ := List.forall_mem_append.mp hall'
      rw [furtherChars, furtherChars] at h
      simp only [List.cons_append, List.append_assoc, List.cons.injEq, true_and] at h
      obtain ⟨rfl, htail⟩ := callForm_append_inj e e' he he' (follows_furtherChars es rest)
        (follows_furtherChars es' rest') h
      obtain ⟨rfl, rfl⟩ := furtherChars_append_inj es es' hes hes' htail
      exact ⟨rfl, rfl⟩

end

/-- Statements can be read back from their text. -/
theorem statementChars_inj {es es' : List Expr} (hall : ∀ t ∈ tokensOf es, Readable t)
    (hall' : ∀ t ∈ tokensOf es', Readable t) (h : statementChars es = statementChars es') :
  es = es'
  := by
  induction es generalizing es' with
  | nil =>
      cases es' with
      | nil => rfl
      | cons e' es' => simp [statementChars] at h
  | cons e es ih =>
      cases es' with
      | nil => simp [statementChars] at h
      | cons e' es' =>
          obtain ⟨he, hes⟩ := List.forall_mem_append.mp hall
          obtain ⟨he', hes'⟩ := List.forall_mem_append.mp hall'
          have hfollows : ∀ fs : List Expr, Follows (';' :: statementChars fs) := by
            intro fs
            exact ⟨';', statementChars fs, rfl, Or.inr (Or.inr rfl)⟩
          obtain ⟨rfl, htail⟩ := callForm_append_inj e e' he he' (hfollows es) (hfollows es') h
          rw [ih hes hes' (List.cons.inj htail).2]

/-- A program can be read back from its call form. -/
theorem Program.callForm_inj {p q : Program} (hp : ∀ t ∈ p.tokens, Readable t)
    (hq : ∀ t ∈ q.tokens, Readable t) (h : p.callForm = q.callForm) :
  p = q
  := by
  obtain ⟨es⟩ := p
  obtain ⟨fs⟩ := q
  have hchars := congrArg String.toList h
  rw [toList_callForm_program, toList_callForm_program] at hchars
  obtain rfl : es = fs := statementChars_inj hp hq hchars
  rfl

end Source

/-! ### Compiling -/

/-- No string in the text holds a quote. -/
def QuoteFree (source : String) : Prop :=
  ∀ ts, tokenize source = .ok ts → ∀ t ∈ ts, t.kind = .string → '"' ∉ t.text.toList

instance (source : String) : Decidable (QuoteFree source) :=
  match h : tokenize source with
  | .error _ => isTrue (by simp [QuoteFree, h])
  | .ok ts =>
    decidable_of_iff (∀ t ∈ ts, t.kind = .string → '"' ∉ t.text.toList)
      (by simp [QuoteFree, h])

/-- A text that compiles spells a program, to whose call form it compiles, and if no string
in it holds a quote, the tokens of the program can be read back. -/
theorem readable_of_compile {source : String} (h : (compile source).isOk)
    (hquote : QuoteFree source) :
  ∃ p : Source.Program, tokenize source = .ok p.tokens ∧ compile source = .ok p.callForm
    ∧ ∀ t ∈ p.tokens, Readable t
  := by
  cases hcompile : compile source with
  | error e =>
      rw [hcompile] at h
      cases h
  | ok output =>
      obtain ⟨p, htokens, rfl⟩ := exists_program_of_compile hcompile
      use p, htokens, rfl
      intro t ht
      exact ⟨(layout_of_tokensFrom htokens).spelled t ht, hquote _ htokens t ht⟩

/-- Two texts in which no string holds a quote compile to the same call form exactly if
they are cut into the same tokens. -/
theorem compile_eq_compile_iff {source other : String}
    (hsource : (compile source).isOk) (hother : (compile other).isOk)
    (hquote : QuoteFree source) (hquote' : QuoteFree other) :
  compile source = compile other ↔ tokenize source = tokenize other
  := by
  obtain ⟨p, hp, hcompile, hreadable⟩ := readable_of_compile hsource hquote
  obtain ⟨q, hq, hcompile', hreadable'⟩ := readable_of_compile hother hquote'
  rw [hp, hq, hcompile, hcompile']
  constructor
  · intro h
    rw [Source.Program.callForm_inj hreadable hreadable' (Except.ok.inj h)]
  · intro h
    rw [Source.Program.tokens_injective (Except.ok.inj h)]

/-- Two layouts of a call with a string that looks like further arguments. -/
theorem compile_eq_compile_iff_layouts :
  (compile "(f \"a), b\" 1.2)").isOk ∧ (compile " ( f\n\"a), b\"1.2 ) ").isOk
    ∧ QuoteFree "(f \"a), b\" 1.2)" ∧ QuoteFree " ( f\n\"a), b\"1.2 ) "
    ∧ (compile "(f \"a), b\" 1.2)" = compile " ( f\n\"a), b\"1.2 ) "
      ↔ tokenize "(f \"a), b\" 1.2)" = tokenize " ( f\n\"a), b\"1.2 ) ")
  := by
  have h : (compile "(f \"a), b\" 1.2)").isOk := by decide +kernel
  have h' : (compile " ( f\n\"a), b\"1.2 ) ").isOk := by decide +kernel
  have hquote : QuoteFree "(f \"a), b\" 1.2)" := by decide +kernel
  have hquote' : QuoteFree " ( f\n\"a), b\"1.2 ) " := by decide +kernel
  exact ⟨h, h', hquote, hquote', compile_eq_compile_iff h h' hquote hquote'⟩

-- With quotes in strings, two statements cannot be told from one.
example : compile "\"a\\\";\\\"b\"" = compile "\"a\" \"b\"" := by
  decide +kernel

end CallForm
