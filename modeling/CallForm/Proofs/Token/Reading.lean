import CallForm.Proofs.Token.Spelling
import CallForm.Token.Reader
import Mathlib.Data.List.TakeWhile

/-!
# Reading one lexeme

How `tokensFrom` goes on, by what stands in front.  A text is empty, or it begins with a
blank, with a lexeme that is not continued, with a string that is never closed, or with
a character that begins no lexeme: for each of these there is an equation, and
`readingInduction` is the induction along them.
-/

namespace CallForm

open Text

/-! ### Strings -/

/-- `unescape` is the meaning of escapes. -/
theorem escape_iff (c : Char) (value : List Char) :
  Escape c value ↔ unescape c = value
  := by
  constructor
  · rintro (_ | _ | _ | _ | _ | hc)
    · rfl
    · rfl
    · rfl
    · rfl
    · rfl
    · simp only [List.mem_cons, List.not_mem_nil, or_false, not_or] at hc
      unfold unescape
      split <;> simp_all
  · rintro rfl
    unfold unescape
    split
    · apply Escape.lineFeed
    · apply Escape.tabulator
    · apply Escape.carriageReturn
    · apply Escape.backslash
    · apply Escape.quote
    · apply Escape.other
      simp_all

/-- The body of a string and its closing quote are read as what the body denotes. -/
theorem stringBody?_of_body {b value : List Char} (h : Body b value) (rest : List Char) :
  stringBody? (b ++ '"' :: rest) = some (value, rest)
  := by
  induction h with
  | empty => rfl
  | plain hc _ ih =>
      simp only [List.mem_cons, List.not_mem_nil, or_false, not_or] at hc
      rw [List.cons_append, stringBody?]
      · rw [ih]
        rfl
      · simp [hc]
      · simp [hc]
      · simp [hc]
  | escape hc _ ih =>
      rw [List.cons_append, List.cons_append, stringBody?, ih]
      rw [← (escape_iff _ _).mp hc]
      rfl

/-- What is read as a string is a body and its closing quote. -/
theorem body_of_stringBody? {cs value rest : List Char} (h : stringBody? cs = some (value, rest)) :
  ∃ b, Body b value ∧ cs = b ++ '"' :: rest
  := by
  fun_induction stringBody? cs generalizing value with
  | case1 => cases h
  | case2 tail =>
      obtain ⟨rfl, rfl⟩ := Prod.mk.inj (Option.some.inj h)
      use [], Body.empty
      rfl
  | case3 => cases h
  | case4 c tail ih =>
      obtain ⟨⟨v, r⟩, hr, he⟩ := Option.map_eq_some_iff.mp h
      obtain ⟨rfl, rfl⟩ := Prod.mk.inj he
      obtain ⟨b, hb, rfl⟩ := ih hr
      use '\\' :: c :: b, Body.escape ((escape_iff _ _).mpr rfl) hb
      rfl
  | case5 c tail hquote hslash hend ih =>
      obtain ⟨⟨v, r⟩, hr, he⟩ := Option.map_eq_some_iff.mp h
      obtain ⟨rfl, rfl⟩ := Prod.mk.inj he
      obtain ⟨b, hb, rfl⟩ := ih hr
      have hc : c ∉ ['"', '\\'] := by
        simp only [List.mem_cons, List.not_mem_nil, or_false]
        rintro (hc | hc)
        · apply hquote hc
        · obtain ⟨d, ds, hd⟩ := List.exists_cons_of_ne_nil
            (List.append_ne_nil_of_right_ne_nil b (List.cons_ne_nil '"' r))
          apply hend d ds hc hd
      use c :: b, Body.plain hc hb
      rfl

/-! ### Names and numbers -/

variable {k : TokenKind} {p : Char → Bool}

/-- What continues a lexeme, up to where the lexeme ends, is what is taken from the front
of a text. -/
theorem takeWhile_append_of_ends (hp : ∀ c, p c ↔ Continues k c) {more rest : List Char}
    (hmore : ∀ c ∈ more, Continues k c) (hrest : Ends k rest) :
  (more ++ rest).takeWhile p = more
  := by
  rw [List.takeWhile_append_of_pos]
  · cases rest with
    | nil => simp
    | cons c rest => simp [(hp c).not.mpr (hrest c rfl)]
  · intro c hc
    apply (hp c).mpr (hmore c hc)

/-- Where nothing more is taken from the front of a text, the lexeme ends. -/
theorem ends_dropWhile (hp : ∀ c, p c ↔ Continues k c) (cs : List Char) :
  Ends k (cs.dropWhile p)
  := by
  intro c hc
  rw [← hp]
  have hnot := List.head?_dropWhile_not p cs
  rw [hc] at hnot
  simpa using hnot

/-- What is taken from the front of a text continues the lexeme. -/
theorem continues_of_mem_takeWhile (hp : ∀ c, p c ↔ Continues k c) {cs : List Char} {c : Char}
    (hc : c ∈ cs.takeWhile p) :
  Continues k c
  := by
  rw [← hp]
  apply List.mem_takeWhile_imp hc

theorem drop_length_takeWhile (p : Char → Bool) (cs : List Char) :
  cs.drop (cs.takeWhile p).length = cs.dropWhile p
  := by
  have h := congrArg (List.drop (cs.takeWhile p).length)
    (List.takeWhile_append_dropWhile (p := p) (l := cs))
  rw [List.drop_left] at h
  apply h.symm

/-! ### Reading a lexeme -/

variable (pos : Nat)

theorem tokensFrom_blank {c : Char} (hc : isBlank c) (cs : List Char) :
  tokensFrom pos (c :: cs) = tokensFrom (pos + 1) cs
  := by
  rw [tokensFrom, if_pos hc]

/-- Blanks are skipped. -/
theorem tokensFrom_blanks {gap : List Char} (h : ∀ c ∈ gap, isBlank c) (rest : List Char) :
  tokensFrom pos (gap ++ rest) = tokensFrom (pos + gap.length) rest
  := by
  induction gap generalizing pos with
  | nil => rfl
  | cons c gap ih =>
      rw [List.forall_mem_cons] at h
      rw [List.cons_append, tokensFrom_blank pos h.1, ih (pos + 1) h.2, List.length_cons,
        Nat.add_assoc, Nat.add_comm 1]

/-- A parenthesis is read as itself. -/
theorem tokensFrom_paren {c : Char} (hc : Begins .paren c) (cs : List Char) :
  tokensFrom pos (c :: cs) = (tokensFrom (pos + 1) cs).map (⟨.paren, String.singleton c⟩ :: ·)
  := by
  have hparen : c = '(' ∨ c = ')' := hc
  rw [tokensFrom, if_neg hc.not_isBlank, if_pos hparen]

/-- A letter and what may stand in a name behind it are read as a name. -/
theorem tokensFrom_name {c : Char} (hc : Begins .name c) {more rest : List Char}
    (hmore : ∀ d ∈ more, Continues .name d) (hrest : Ends .name rest) :
  tokensFrom pos (c :: (more ++ rest))
    = (tokensFrom (pos + 1 + more.length) rest).map (⟨.name, String.ofList (c :: more)⟩ :: ·)
  := by
  have hparen : ¬(c = '(' ∨ c = ')') := hc.not_begins (k := .paren) (by decide)
  have hletter : isLetter c := hc
  rw [tokensFrom, if_neg hc.not_isBlank, if_neg hparen, if_pos hletter]
  simp only [takeWhile_append_of_ends isNameChar_iff hmore hrest, List.drop_left]

/-- A digit and what may stand in a number behind it are read as a number. -/
theorem tokensFrom_number {c : Char} (hc : Begins .number c) {more rest : List Char}
    (hmore : ∀ d ∈ more, Continues .number d) (hrest : Ends .number rest) :
  tokensFrom pos (c :: (more ++ rest))
    = (tokensFrom (pos + 1 + more.length) rest).map (⟨.number, String.ofList (c :: more)⟩ :: ·)
  := by
  have hparen : ¬(c = '(' ∨ c = ')') := hc.not_begins (k := .paren) (by decide)
  have hletter : ¬isLetter c := hc.not_begins (k := .name) (by decide)
  have hdigit : c.isDigit := hc
  rw [tokensFrom, if_neg hc.not_isBlank, if_neg hparen, if_neg hletter, if_pos hdigit]
  simp only [takeWhile_append_of_ends isNumberChar_iff hmore hrest, List.drop_left]

/-- A quote, the body of a string and a quote are read as a string. -/
theorem tokensFrom_string {b value : List Char} (hb : Body b value) (rest : List Char) :
  tokensFrom pos ('"' :: (b ++ '"' :: rest))
    = (tokensFrom (pos + 1 + (b.length + 1)) rest).map (⟨.string, String.ofList value⟩ :: ·)
  := by
  have hlength : (b ++ '"' :: rest).length - rest.length = b.length + 1 := by
    simp only [List.length_append, List.length_cons]
    omega
  rw [tokensFrom, if_neg (by decide), if_neg (by decide), if_neg (by decide), if_neg (by decide),
    if_pos rfl]
  split
  · next h =>
    rw [stringBody?_of_body hb] at h
    cases h
  · next v r h =>
    rw [stringBody?_of_body hb] at h
    obtain ⟨rfl, rfl⟩ := Prod.mk.inj (Option.some.inj h)
    rw [hlength]

/-- A string that is never closed cannot be read. -/
theorem tokensFrom_openString {b : List Char} (hb : stringBody? b = none) :
  tokensFrom pos ('"' :: b) = .failure .unexpectedEnd (pos + 1 + b.length)
  := by
  rw [tokensFrom, if_neg (by decide), if_neg (by decide), if_neg (by decide), if_neg (by decide),
    if_pos rfl]
  split
  · rfl
  · next h =>
    rw [hb] at h
    cases h

/-- A character that is no blank and begins no lexeme cannot be read. -/
theorem tokensFrom_invalid {c : Char} (hblank : ¬isBlank c) (hc : ∀ k, ¬Begins k c)
    (rest : List Char) :
  tokensFrom pos (c :: rest) = .failure (.invalidCharacter (String.singleton c) pos) pos
  := by
  have hparen : ¬(c = '(' ∨ c = ')') := hc .paren
  have hletter : ¬isLetter c := hc .name
  have hdigit : ¬c.isDigit := hc .number
  have hquote : ¬c = '"' := hc .string
  rw [tokensFrom, if_neg hblank, if_neg hparen, if_neg hletter, if_neg hdigit, if_neg hquote]

/-- A lexeme that is not continued by what follows it is read as its token. -/
theorem tokensFrom_lexeme {l rest : List Char} {t : Token} (hl : Spells l t)
    (hrest : Ends t.kind rest) :
  tokensFrom pos (l ++ rest) = (tokensFrom (pos + l.length) rest).map (t :: ·)
  := by
  cases hl with
  | opening => apply tokensFrom_paren pos (Or.inl rfl)
  | closing => apply tokensFrom_paren pos (Or.inr rfl)
  | @name c cs hc hcs =>
      rw [List.cons_append, tokensFrom_name pos hc hcs hrest, List.length_cons,
        Nat.add_right_comm, Nat.add_assoc]
  | @number c cs hc hcs =>
      rw [List.cons_append, tokensFrom_number pos hc hcs hrest, List.length_cons,
        Nat.add_right_comm, Nat.add_assoc]
  | @string b value hb =>
      have hlength : pos + ('"' :: b ++ ['"']).length = pos + 1 + (b.length + 1) := by
        simp only [List.cons_append, List.length_cons, List.length_append, List.length_nil]
        omega
      rw [hlength, ← tokensFrom_string pos hb]
      simp

/-! ### Induction along the lexemes -/

theorem spells_paren {c : Char} (hc : Begins .paren c) :
  Spells [c] ⟨.paren, String.singleton c⟩
  := by
  rcases hc with rfl | rfl
  · apply Spells.opening
  · apply Spells.closing

/-- What is taken from the front of a text as a name is a lexeme. -/
theorem spells_name {c : Char} (hc : Begins .name c) (cs : List Char) :
  Spells (c :: cs.takeWhile isNameChar)
    ⟨.name, String.ofList (c :: cs.takeWhile isNameChar)⟩
  := by
  apply Spells.name hc
  intro d
  apply continues_of_mem_takeWhile isNameChar_iff

/-- What is taken from the front of a text as a number is a lexeme. -/
theorem spells_number {c : Char} (hc : Begins .number c) (cs : List Char) :
  Spells (c :: cs.takeWhile isNumberChar)
    ⟨.number, String.ofList (c :: cs.takeWhile isNumberChar)⟩
  := by
  apply Spells.number hc
  intro d
  apply continues_of_mem_takeWhile isNumberChar_iff

/-- To show a property of all texts, it suffices to show it along the lexemes. -/
@[elab_as_elim]
theorem readingInduction {motive : List Char → Prop}
    (finish : motive [])
    (blank : ∀ c rest, isBlank c → motive rest → motive (c :: rest))
    (lexeme : ∀ l rest t, Spells l t → Ends t.kind rest → motive rest → motive (l ++ rest))
    (openString : ∀ b, stringBody? b = none → motive ('"' :: b))
    (invalid : ∀ c rest, ¬isBlank c → (∀ k, ¬Begins k c) → motive (c :: rest))
    (cs : List Char) :
  motive cs
  := by
  -- The position is of no account here.
  generalize hpos : 0 = pos
  clear hpos
  fun_induction tokensFrom pos cs with
  | case1 => apply finish
  | case2 pos c cs hc ih => apply blank c cs hc ih
  | case3 pos c cs _ hc ih => apply lexeme [c] cs _ (spells_paren hc) (ends_paren cs) ih
  | case4 pos c cs _ _ hc more ih =>
      rw [drop_length_takeWhile] at ih
      rw [← List.takeWhile_append_dropWhile (p := isNameChar) (l := cs), ← List.cons_append]
      apply lexeme _ _ _ (spells_name hc cs) (ends_dropWhile isNameChar_iff cs) ih
  | case5 pos c cs _ _ _ hc more ih =>
      rw [drop_length_takeWhile] at ih
      rw [← List.takeWhile_append_dropWhile (p := isNumberChar) (l := cs), ← List.cons_append]
      apply lexeme _ _ _ (spells_number hc cs) (ends_dropWhile isNumberChar_iff cs) ih
  | case6 pos cs hcs => apply openString cs hcs
  | case7 pos cs value rest hcs _ _ _ _ ih =>
      obtain ⟨b, hb, rfl⟩ := body_of_stringBody? hcs
      have hcs : '"' :: (b ++ '"' :: rest) = ('"' :: b ++ ['"']) ++ rest := by simp
      rw [hcs]
      apply lexeme _ _ _ (Spells.string hb) (ends_string rest) ih
  | case8 pos c cs hblank hparen hletter hdigit hquote =>
      apply invalid c cs hblank
      intro k
      cases k with
      | paren => apply hparen
      | name => apply hletter
      | number => apply hdigit
      | string => apply hquote

end CallForm
