import CallForm.Proofs.Token.Character
import Mathlib.Tactic.Use

/-!
# Spelling

How tokens are spelled in a text.  `Spells l t` says that the lexeme `l` spells the token
`t`: parentheses, names and numbers spell themselves, and a string is spelled between
quotes as a sequence of units, each a character or a backslash and a character.
`Layout A ts cs` says that `cs` is made of lexemes that spell `ts` in order, with runs of
blanks before, between and after them, where `A` constrains what may follow a lexeme.

Two such constraints are considered.  `Munched` asks that a name or a number is not
continued by what follows it, `NumbersApart` that a number is not glued to the next one.
-/

namespace CallForm

open Text

/-! ### Strings -/

/-- `Escape c value`: a backslash and `c` denote `value` in a string. -/
inductive Escape : Char → List Char → Prop where
  | lineFeed : Escape 'n' ['\n']
  | tabulator : Escape 't' ['\t']
  | carriageReturn : Escape 'r' ['\r']
  | backslash : Escape '\\' ['\\']
  | quote : Escape '"' ['"']
  /-- Any other character keeps its backslash. -/
  | other {c : Char} (h : c ∉ ['n', 't', 'r', '\\', '"']) : Escape c ['\\', c]

/-- `Body b value`: the units in `b`, read one after the other, denote `value`. -/
inductive Body : List Char → List Char → Prop where
  | empty : Body [] []
  /-- A character other than a quote and a backslash denotes itself. -/
  | plain {c : Char} {b value : List Char} (hc : c ∉ ['"', '\\']) (h : Body b value) :
    Body (c :: b) (c :: value)
  /-- A backslash is a unit with the character behind it, whatever that is. -/
  | escape {c : Char} {u b value : List Char} (hc : Escape c u) (h : Body b value) :
    Body ('\\' :: c :: b) (u ++ value)

/-! ### Lexemes -/

/-- `Spells l t`: the lexeme `l` spells the token `t`. -/
inductive Spells : List Char → Token → Prop where
  | opening : Spells ['('] ⟨.paren, "("⟩
  | closing : Spells [')'] ⟨.paren, ")"⟩
  | name {c : Char} {cs : List Char} (hc : isLetter c)
    (hcs : ∀ d ∈ cs, isLetter d ∨ d = '_') :
    Spells (c :: cs) ⟨.name, String.ofList (c :: cs)⟩
  | number {c : Char} {cs : List Char} (hc : c.isDigit)
    (hcs : ∀ d ∈ cs, d.isDigit ∨ d = '.') :
    Spells (c :: cs) ⟨.number, String.ofList (c :: cs)⟩
  | string {b value : List Char} (h : Body b value) :
    Spells ('"' :: b ++ ['"']) ⟨.string, String.ofList value⟩

/-- `Ends k rest`: what follows does not continue a lexeme of kind `k`. -/
def Ends (k : TokenKind) (rest : List Char) : Prop :=
  ∀ c ∈ rest.head?, ¬Continues k c

/-- Nothing continues a parenthesis. -/
theorem ends_paren (rest : List Char) :
  Ends .paren rest
  := by
  intro c _
  apply id

/-- Nothing continues a string. -/
theorem ends_string (rest : List Char) :
  Ends .string rest
  := by
  intro c _
  apply id

/-- A lexeme begins as its kind says. -/
theorem Spells.head {l : List Char} {t : Token} (h : Spells l t) :
  ∃ c cs, l = c :: cs ∧ Begins t.kind c
  := by
  cases h with
  | opening => use '(', [], rfl, Or.inl rfl
  | closing => use ')', [], rfl, Or.inr rfl
  | @name c cs hc _ => use c, cs, rfl, hc
  | @number c cs hc _ => use c, cs, rfl, hc
  | @string b _ _ => exact ⟨'"', b ++ ['"'], rfl, rfl⟩

/-- A lexeme other than a string is the text of its token. -/
theorem Spells.eq_text {l : List Char} {t : Token} (h : Spells l t) (hkind : t.kind ≠ .string) :
  l = t.text.toList
  := by
  cases h with
  | opening => rfl
  | closing => rfl
  | name => rw [String.toList_ofList]
  | number => rw [String.toList_ofList]
  | string => contradiction

/-- No blank stands in a lexeme other than a string. -/
theorem Spells.not_isBlank {l : List Char} {t : Token} (h : Spells l t) (hkind : t.kind ≠ .string)
    {c : Char} (hc : c ∈ l) :
  ¬isBlank c
  := by
  intro hblank
  have hcontinues := not_continues_of_isBlank hblank
  cases h with
  | opening =>
      obtain rfl := List.mem_singleton.mp hc
      exact Begins.not_isBlank (k := .paren) (Or.inl rfl) hblank
  | closing =>
      obtain rfl := List.mem_singleton.mp hc
      exact Begins.not_isBlank (k := .paren) (Or.inr rfl) hblank
  | name hletter hmore =>
      rcases List.mem_cons.mp hc with rfl | hc
      · exact hcontinues .name (Or.inl hletter)
      · exact hcontinues .name (hmore c hc)
  | number hdigit hmore =>
      rcases List.mem_cons.mp hc with rfl | hc
      · exact hcontinues .number (Or.inl hdigit)
      · exact hcontinues .number (hmore c hc)
  | string => contradiction

/-! ### Layouts -/

/-- `Layout A ts cs`: the text `cs` spells the tokens `ts` in order, with blanks before,
between and after the lexemes, and each token `t` that is followed by the tokens `us` and
the text `rest` satisfies `A t us rest`. -/
inductive Layout (A : Token → List Token → List Char → Prop) :
    List Token → List Char → Prop where
  | done {gap : List Char} (hgap : ∀ c ∈ gap, isBlank c) : Layout A [] gap
  | next {gap l rest : List Char} {t : Token} {us : List Token}
    (hgap : ∀ c ∈ gap, isBlank c) (hl : Spells l t) (ha : A t us rest) (h : Layout A us rest) :
    Layout A (t :: us) (gap ++ (l ++ rest))

/-- Each lexeme is taken as long as it can be. -/
def Munched (t : Token) (_ : List Token) (rest : List Char) : Prop :=
  Ends t.kind rest

/-- A number that is followed by another one is followed by a blank. -/
def NumbersApart (t : Token) (us : List Token) (rest : List Char) : Prop :=
  t.kind = .number → (∃ u ∈ us.head?, u.kind = .number) → ∃ c ∈ rest.head?, isBlank c

namespace Layout

variable {A : Token → List Token → List Char → Prop}

/-- A blank may be put in front of a layout. -/
theorem cons_blank {c : Char} {ts : List Token} {cs : List Char} (hc : isBlank c)
    (h : Layout A ts cs) :
  Layout A ts (c :: cs)
  := by
  cases h with
  | done hgap =>
      apply done
      simpa [hc] using hgap
  | @next gap l rest t us hgap hl ha h =>
      rw [← List.cons_append]
      apply next _ hl ha h
      simpa [hc] using hgap

/-- Every token of a layout is spelled by a lexeme. -/
theorem spelled {ts : List Token} {cs : List Char} (h : Layout A ts cs) :
  ∀ t ∈ ts, ∃ l, Spells l t
  := by
  induction h with
  | done => simp
  | @next _ l _ _ _ _ hl _ _ ih =>
      intro t ht
      rcases List.mem_cons.mp ht with rfl | ht
      · use l, hl
      · apply ih t ht

/-- A layout begins with a blank or with the beginning of its first lexeme. -/
theorem head {ts : List Token} {cs : List Char} (h : Layout A ts cs) :
  ∀ c ∈ cs.head?, isBlank c ∨ ∃ t ∈ ts.head?, Begins t.kind c
  := by
  cases h with
  | done hgap =>
      intro c hc
      left
      apply hgap c (List.mem_of_mem_head? hc)
  | @next gap l rest t us hgap hl _ _ =>
      obtain ⟨c, cs, rfl, hc⟩ := hl.head
      cases gap with
      | nil =>
          rintro _ ⟨⟩
          right
          use t, rfl, hc
      | cons b gap =>
          rintro _ ⟨⟩
          left
          apply hgap b List.mem_cons_self

/-- A layout of at least one token is not empty. -/
theorem ne_nil {t : Token} {us : List Token} {cs : List Char} (h : Layout A (t :: us) cs) :
  cs ≠ []
  := by
  cases h with
  | next _ hl _ _ =>
      obtain ⟨c, cs, rfl, -⟩ := hl.head
      simp

end Layout

end CallForm
