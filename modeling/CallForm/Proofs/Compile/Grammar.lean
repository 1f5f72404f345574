import CallForm.Proofs.Target.Rendering
import CallForm.Proofs.Token.MaximalMunch
import Mathlib.Data.List.Chain

/-!
# The grammar of compilable texts

A text compiles exactly when it spells a program, and it then compiles to the call form
of that program.  Between the lexemes of a program blanks are needed only where a number
follows a number: a name is followed by a parenthesis, a string or a number, and neither
of them continues it.
-/

namespace CallForm

open Text

/-! ### Names in the tokens of a program -/

/-- No name follows a name. -/
def NamesApart (ts : List Token) : Prop :=
  ts.IsChain fun t u => t.kind = .name → u.kind ≠ .name

/-- No name stands at the front. -/
def NoNameAhead (ts : List Token) : Prop :=
  ∀ t ∈ ts.head?, t.kind ≠ .name

theorem NamesApart.cons {t : Token} {ts : List Token} (h : NamesApart ts)
    (ht : t.kind = .name → NoNameAhead ts) :
  NamesApart (t :: ts)
  := by
  cases ts with
  | nil => apply List.isChain_singleton
  | cons u us =>
      apply List.IsChain.cons_cons _ h
      intro hname
      apply ht hname u rfl

theorem NamesApart.noNameAhead {t : Token} {us : List Token} (h : NamesApart (t :: us))
    (ht : t.kind = .name) :
  NoNameAhead us
  := by
  cases us with
  | nil =>
      intro u hu
      cases hu
  | cons u us =>
      rintro _ ⟨⟩
      apply (List.isChain_cons_cons.mp h).1 ht

mutual

/-- The tokens of an expression can be put in front of any tokens. -/
theorem namesApart_tokens {rest : List Token} (hrest : NamesApart rest) :
    ∀ e : Source.Expr, NamesApart (e.tokens ++ rest) ∧ NoNameAhead (e.tokens ++ rest)
  | .number text => by
      constructor
      · apply hrest.cons
        rintro ⟨⟩
      · rintro _ ⟨⟩ ⟨⟩
  | .string text => by
      constructor
      · apply hrest.cons
        rintro ⟨⟩
      · rintro _ ⟨⟩ ⟨⟩
  | .call name params => by
      have hclose : NamesApart (⟨.paren, ")"⟩ :: rest) := by
        apply hrest.cons
        rintro ⟨⟩
      obtain ⟨hparams, hfirst⟩ := namesApart_tokensOf hclose (by rintro _ ⟨⟩ ⟨⟩) params
      rw [Source.Expr.tokens, List.cons_append, List.cons_append, List.append_assoc]
      constructor
      · apply NamesApart.cons
        · apply hparams.cons
          intro _
          apply hfirst
        · rintro ⟨⟩
      · rintro _ ⟨⟩ ⟨⟩

/-- The tokens of expressions can be put in front of tokens that no name leads. -/
theorem namesApart_tokensOf {rest : List Token} (hrest : NamesApart rest)
    (hahead : NoNameAhead rest) :
    ∀ es : List Source.Expr,
      NamesApart (Source.tokensOf es ++ rest) ∧ NoNameAhead (Source.tokensOf es ++ rest)
  | [] => ⟨hrest, hahead⟩
  | e :: es => by
      obtain ⟨hes, -⟩ := namesApart_tokensOf hrest hahead es
      rw [Source.tokensOf, List.append_assoc]
      apply namesApart_tokens hes e

end

/-- In the tokens of a program no name follows a name. -/
theorem namesApart_program (p : Source.Program) :
  NamesApart p.tokens
  := by
  have hnil : NoNameAhead [] := by
    intro t ht
    cases ht
  have h := (namesApart_tokensOf List.isChain_nil hnil p.body).1
  rw [List.append_nil] at h
  apply h

/-! ### Blanks between numbers -/

/-- A name or a number is not continued by a blank or by the beginning of a lexeme of
another kind, and nothing continues any other lexeme. -/
theorem ends_of_head? {k : TokenKind} {rest : List Char}
    (h : k = .name ∨ k = .number → ∀ c ∈ rest.head?, isBlank c ∨ ∃ j, j ≠ k ∧ Begins j c) :
  Ends k rest
  := by
  have hends : k = .name ∨ k = .number → Ends k rest := by
    intro hk c hc
    rcases h hk c hc with hblank | ⟨j, hj, hbegins⟩
    · apply not_continues_of_isBlank hblank
    · apply hbegins.not_continues hj
  cases k with
  | paren => apply ends_paren
  | name => apply hends (Or.inl rfl)
  | number => apply hends (Or.inr rfl)
  | string => apply ends_string

/-- If no name follows a name and no number is glued to the next one, then no lexeme is
continued by what follows it. -/
theorem Layout.munched {ts : List Token} {cs : List Char} (h : Layout NumbersApart ts cs)
    (hnames : NamesApart ts) :
  Layout Munched ts cs
  := by
  induction h with
  | done hgap => apply Layout.done hgap
  | @next gap l rest t us hgap hl ha hrest ih =>
      apply Layout.next hgap hl _ (ih hnames.tail)
      apply ends_of_head?
      intro hkind c hc
      rcases hrest.head c hc with hblank | ⟨u, hu, hbegins⟩
      · left
        apply hblank
      · rcases hkind with hname | hnumber
        · right
          use u.kind
          constructor
          · rw [hname]
            apply hnames.noNameAhead hname u hu
          · apply hbegins
        · by_cases hunumber : u.kind = .number
          · left
            obtain ⟨d, hd, hblank⟩ := ha hnumber ⟨u, hu, hunumber⟩
            obtain rfl := Option.some.inj (hc.symm.trans hd)
            apply hblank
          · right
            use u.kind
            constructor
            · rw [hnumber]
              apply hunumber
            · apply hbegins

/-- If no lexeme is continued by what follows it, then no number is glued to the next
one. -/
theorem Layout.numbersApart {ts : List Token} {cs : List Char} (h : Layout Munched ts cs) :
  Layout NumbersApart ts cs
  := by
  induction h with
  | done hgap => apply Layout.done hgap
  | @next gap l rest t us hgap hl ha hrest ih =>
      apply Layout.next hgap hl _ ih
      rintro hnumber ⟨u, hu, hunumber⟩
      obtain ⟨vs, rfl⟩ := List.head?_eq_some_iff.mp hu
      obtain ⟨c, rest, rfl⟩ := List.exists_cons_of_ne_nil hrest.ne_nil
      use c, rfl
      rcases hrest.head c rfl with hblank | ⟨v, hv, hbegins⟩
      · apply hblank
      · obtain rfl := Option.some.inj hv
        rw [hunumber] at hbegins
        rw [Munched, hnumber] at ha
        cases ha c rfl (hbegins.continues (Or.inr rfl))

/-- A text is read as the program `p` exactly if it is cut into the tokens of `p`. -/
theorem readProgram_eq_ok_iff {source : String} {p : Source.Program} :
  readProgram source = .ok p ↔ tokenize source = .ok p.tokens
  := by
  rw [readProgram]
  cases tokenize source with
  | error e =>
      constructor
      · rintro ⟨⟩
      · rintro ⟨⟩
  | ok ts =>
      constructor
      · intro h
        rw [Source.tokens_of_parse h]
      · rintro ⟨⟩
        apply Source.parse_tokens

/-- A text that compiles is cut into the tokens of a program. -/
theorem exists_program_of_compile {source output : String} (h : compile source = .ok output) :
  ∃ p : Source.Program, tokenize source = .ok p.tokens ∧ p.callForm = output
  := by
  rw [compile_eq] at h
  cases hp : readProgram source with
  | error e =>
      rw [hp] at h
      cases h
  | ok p =>
      rw [hp] at h
      exact ⟨p, readProgram_eq_ok_iff.mp hp, Except.ok.inj h⟩

/-- A text compiles to `out` exactly if it spells a program whose call form is `out`, with
a blank between adjacent numbers. -/
theorem compile_eq_ok_iff (source out : String) :
  compile source = .ok out
    ↔ ∃ p : Source.Program, Layout NumbersApart p.tokens source.toList ∧ p.callForm = out
  := by
  rw [compile_eq]
  constructor
  · intro h
    cases hp : readProgram source with
    | error e =>
        rw [hp] at h
        cases h
    | ok p =>
        rw [hp] at h
        use p, Layout.numbersApart (layout_of_tokensFrom (readProgram_eq_ok_iff.mp hp))
        apply Except.ok.inj h
  · rintro ⟨p, hp, rfl⟩
    have hread := tokensFrom_of_layout (hp.munched (namesApart_program p)) 0
    have htokens : tokenize source = .ok p.tokens := by
      rw [tokenize, hread]
      rfl
    rw [readProgram_eq_ok_iff.mpr htokens]
    rfl

example : compile "(add 2 (subtract 4\"\\n\"))1 2" = .ok "add(2, subtract(4, \"\n\"));1;2;" := by
  cbv

end CallForm
