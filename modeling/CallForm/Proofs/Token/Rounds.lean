import CallForm.Proofs.Token.Placement

/-!
# Reading in rounds

A reader takes the tokens of a text round by round: a round passes over a blank, or it
takes the kind of token that the character at the cursor tells.  `Reader.round` is made of
the steps of a reader, and `Reader.Reaches r ts s` says that some rounds lead from `r` to
`s` and give the tokens `ts`.

The rounds come to an end, either at the end of the text or where a round fails, and what
they give together is what `Reader.tokens` gives.  No round that has a character at its
cursor steps beyond the end of the text.
-/

namespace CallForm

open Text

namespace Reader

/-- One round of a reader, which needs a character at the cursor. -/
def round (r : Reader) : Outcome ReadError (Option Token) :=
  match r.rest with
  | [] => .failure .pastEnd r.cursor
  | c :: _ =>
    if isBlank c then r.advance.map fun _ => none
    else if c = '(' ∨ c = ')' then r.advance.map fun paren => some ⟨.paren, String.singleton paren⟩
    else if isLetter c then r.name.map some
    else if c.isDigit then r.number.map some
    else if c = '"' then r.string.map some
    else .failure (.stopped (.invalidCharacter (String.singleton c) r.cursor)) r.cursor

/-- `Reaches r ts s`: some rounds, or none, lead from `r` to `s` and give the tokens
`ts`. -/
inductive Reaches : Reader → List Token → Reader → Prop where
  | here {r : Reader} : Reaches r [] r
  | round {r s : Reader} {taken : Option Token} {cursor : Nat} {ts : List Token}
    (hround : r.round = .success taken cursor) (h : Reaches ⟨r.source, cursor⟩ ts s) :
    Reaches r (taken.toList ++ ts) s

variable {r s : Reader} {rest : List Char} {ts : List Token}

/-- Where the cursor moves over some characters, what follows them is left. -/
theorem rest_move {l : List Char} (h : r.rest = l ++ rest) :
  Reader.rest ⟨r.source, r.cursor + l.length⟩ = rest
  := by
  rw [Reader.rest, ← List.drop_drop]
  show r.rest.drop l.length = rest
  rw [h, List.drop_left]

/-! ### One round -/

theorem advance_eq {c : Char} (h : r.rest = c :: rest) :
  r.advance = .success c (r.cursor + 1)
  := by
  rw [advance, h]

/-- A blank is passed over. -/
theorem round_blank {c : Char} (h : r.rest = c :: rest) (hc : isBlank c) :
  r.round = .success none (r.cursor + 1)
  := by
  simp only [round, h]
  rw [if_pos hc, advance_eq h]
  rfl

/-- A parenthesis is taken as itself. -/
theorem round_paren {c : Char} (h : r.rest = c :: rest) (hc : Begins .paren c) :
  r.round = .success (some ⟨.paren, String.singleton c⟩) (r.cursor + 1)
  := by
  have hparen : c = '(' ∨ c = ')' := hc
  simp only [round, h]
  rw [if_neg hc.not_isBlank, if_pos hparen, advance_eq h]
  rfl

/-- A lexeme that is not continued by what follows it is taken as its token. -/
theorem round_lexeme {l : List Char} {t : Token} (h : r.rest = l ++ rest) (hl : Spells l t)
    (hrest : Ends t.kind rest) :
  r.round = .success (some t) (r.cursor + l.length)
  := by
  cases hl with
  | opening => apply round_paren h (Or.inl rfl)
  | closing => apply round_paren h (Or.inr rfl)
  | @name c cs hc hcs =>
      have hbegins : Begins .name c := hc
      have hparen : ¬(c = '(' ∨ c = ')') := hbegins.not_begins (k := .paren) (by decide)
      have hmore : ∀ d ∈ c :: cs, Continues .name d := by
        rw [List.forall_mem_cons]
        exact ⟨hbegins.continues (Or.inl rfl), hcs⟩
      have hname : r.name = .success ⟨.name, String.ofList (c :: cs)⟩
          (r.cursor + (c :: cs).length) := by
        rw [name, h, takeWhile_append_of_ends isNameChar_iff hmore hrest]
      simp only [round, h, List.cons_append]
      rw [if_neg hbegins.not_isBlank, if_neg hparen, if_pos hc, hname]
      rfl
  | @number c cs hc hcs =>
      have hbegins : Begins .number c := hc
      have hparen : ¬(c = '(' ∨ c = ')') := hbegins.not_begins (k := .paren) (by decide)
      have hletter : ¬isLetter c := hbegins.not_begins (k := .name) (by decide)
      have hmore : ∀ d ∈ c :: cs, Continues .number d := by
        rw [List.forall_mem_cons]
        exact ⟨hbegins.continues (Or.inr rfl), hcs⟩
      have hnumber : r.number = .success ⟨.number, String.ofList (c :: cs)⟩
          (r.cursor + (c :: cs).length) := by
        rw [number, h, takeWhile_append_of_ends isNumberChar_iff hmore hrest]
      simp only [round, h, List.cons_append]
      rw [if_neg hbegins.not_isBlank, if_neg hparen, if_neg hletter, if_pos hc, hnumber]
      rfl
  | @string b value hb =>
      have hbody : r.rest = '"' :: (b ++ '"' :: rest) := by
        rw [h]
        simp
      have hlength : r.cursor + 1 + ((b ++ '"' :: rest).length - rest.length)
          = r.cursor + ('"' :: b ++ ['"']).length := by
        simp only [List.cons_append, List.length_cons, List.length_append, List.length_nil]
        omega
      have hstring : r.string = .success ⟨.string, String.ofList value⟩
          (r.cursor + ('"' :: b ++ ['"']).length) := by
        simp only [string, hbody, stringBody?_of_body hb]
        rw [hlength]
      simp only [round, hbody]
      rw [if_neg (by decide), if_neg (by decide), if_neg (by decide), if_neg (by decide),
        if_pos trivial, hstring]
      rfl

/-- At a string that is never closed the round fails. -/
theorem round_openString {b : List Char} (h : r.rest = '"' :: b) (hb : stringBody? b = none) :
  r.round = .failure (.stopped .unexpectedEnd) (r.cursor + 1 + b.length)
  := by
  have hstring : r.string = .failure (.stopped .unexpectedEnd) (r.cursor + 1 + b.length) := by
    simp only [string, h, hb]
  simp only [round, h]
  rw [if_neg (by decide), if_neg (by decide), if_neg (by decide), if_neg (by decide),
    if_pos trivial, hstring]
  rfl

/-- At a character that is no blank and begins no lexeme the round fails. -/
theorem round_invalid {c : Char} (h : r.rest = c :: rest) (hblank : ¬isBlank c)
    (hc : ∀ k, ¬Begins k c) :
  r.round = .failure (.stopped (.invalidCharacter (String.singleton c) r.cursor)) r.cursor
  := by
  have hparen : ¬(c = '(' ∨ c = ')') := hc .paren
  have hletter : ¬isLetter c := hc .name
  have hdigit : ¬c.isDigit := hc .number
  have hquote : ¬c = '"' := hc .string
  simp only [round, h]
  rw [if_neg hblank, if_neg hparen, if_neg hletter, if_neg hdigit, if_neg hquote]

/-- A round that succeeds passes over a blank or takes a lexeme, and moves the cursor
behind it. -/
theorem round_success {taken : Option Token} {cursor : Nat}
    (h : r.round = .success taken cursor) :
  ∃ l rest, r.rest = l ++ rest ∧ cursor = r.cursor + l.length
    ∧ ((taken = none ∧ ∃ c, l = [c] ∧ isBlank c)
      ∨ ∃ t, taken = some t ∧ Spells l t ∧ Ends t.kind rest)
  := by
  generalize hrest : r.rest = cs
  induction cs using readingInduction with
  | finish =>
      simp only [round, hrest] at h
      cases h
  | blank c rest hc _ =>
      rw [round_blank hrest hc] at h
      obtain ⟨⟨⟩, ⟨⟩⟩ := h
      exact ⟨[c], rest, rfl, rfl, Or.inl ⟨rfl, c, rfl, hc⟩⟩
  | lexeme l rest t hl hends _ =>
      rw [round_lexeme hrest hl hends] at h
      obtain ⟨⟨⟩, ⟨⟩⟩ := h
      exact ⟨l, rest, rfl, rfl, Or.inr ⟨t, rfl, hl, hends⟩⟩
  | openString b hb =>
      rw [round_openString hrest hb] at h
      cases h
  | invalid c rest hblank hc =>
      rw [round_invalid hrest hblank hc] at h
      cases h

/-- A round that fails with a character at the cursor stands at a string that is never closed or
at a character that is no blank and begins no lexeme. -/
theorem round_failure {e : CompileError} {n : Nat} (h : r.round = .failure (.stopped e) n) :
  (∃ b, r.rest = '"' :: b ∧ stringBody? b = none ∧ e = .unexpectedEnd)
    ∨ ∃ c rest, r.rest = c :: rest ∧ ¬isBlank c ∧ (∀ k, ¬Begins k c)
      ∧ e = .invalidCharacter (String.singleton c) r.cursor
  := by
  generalize hrest : r.rest = cs
  induction cs using readingInduction with
  | finish =>
      simp only [round, hrest] at h
      cases h
  | blank c rest hc _ =>
      rw [round_blank hrest hc] at h
      cases h
  | lexeme l rest t hl hends _ =>
      rw [round_lexeme hrest hl hends] at h
      cases h
  | openString b hb =>
      rw [round_openString hrest hb] at h
      obtain ⟨⟨⟩, -⟩ := h
      exact Or.inl ⟨b, rfl, hb, rfl⟩
  | invalid c rest hblank hc =>
      rw [round_invalid hrest hblank hc] at h
      obtain ⟨⟨⟩, -⟩ := h
      exact Or.inr ⟨c, rest, rfl, hblank, hc, rfl⟩

/-! ### Many rounds -/

/-- Rounds may be followed by further rounds. -/
theorem Reaches.trans {us : List Token} {t : Reader} (h : Reaches r ts s) (h' : Reaches s us t) :
  Reaches r (ts ++ us) t
  := by
  induction h with
  | here => apply h'
  | round hround _ ih =>
      rw [List.append_assoc]
      apply Reaches.round hround (ih h')

theorem tokens_eq (r : Reader) :
  r.tokens = (tokensFrom r.cursor r.rest).mapError .stopped
  := rfl

/-- A round that succeeds gives the first of the tokens, or none. -/
theorem tokens_of_round {taken : Option Token} {cursor : Nat}
    (h : r.round = .success taken cursor) :
  r.tokens = (Reader.tokens ⟨r.source, cursor⟩).map (taken.toList ++ ·)
  := by
  obtain ⟨l, rest, hrest, rfl, htaken⟩ := round_success h
  rw [tokens_eq, tokens_eq, rest_move hrest, hrest]
  rcases htaken with ⟨rfl, c, rfl, hc⟩ | ⟨t, rfl, hl, hends⟩
  · rw [List.cons_append, tokensFrom_blank _ hc]
    simp
  · rw [tokensFrom_lexeme _ hl hends]
    simp

/-- Where a round fails, so does the reading of all the tokens. -/
theorem tokens_of_round_failure {e : CompileError} {n : Nat}
    (h : r.round = .failure (.stopped e) n) :
  r.tokens.result = .error (.stopped e)
  := by
  rw [tokens_eq]
  rcases round_failure h with ⟨b, hrest, hb, rfl⟩ | ⟨c, rest, hrest, hblank, hc, rfl⟩
  · rw [hrest, tokensFrom_openString _ hb]
    rfl
  · rw [hrest, tokensFrom_invalid _ hblank hc]
    rfl

/-- What rounds give are the first of the tokens. -/
theorem tokens_of_reaches (h : Reaches r ts s) :
  r.tokens = s.tokens.map (ts ++ ·)
  := by
  induction h with
  | here => simp
  | round hround _ ih =>
      rw [tokens_of_round hround, ih]
      simp

/-- Rounds that take the whole text give its tokens. -/
theorem tokenize_of_reaches {source : String} (h : Reaches ⟨source.toList, 0⟩ ts r)
    (hrest : r.rest = []) :
  tokenize source = .ok ts
  := by
  have htokens : (tokenize source).mapError .stopped = r.tokens.result.map (ts ++ ·) :=
    congrArg Outcome.result (tokens_of_reaches h)
  rw [tokens_eq, hrest, tokensFrom] at htokens
  have hok : tokenize source = .ok (ts ++ []) := eq_ok_of_mapError htokens
  rw [List.append_nil] at hok
  apply hok

/-- Cutting a text into tokens fails as the round does that rounds lead to. -/
theorem tokenize_of_reaches_failure {source : String} (h : Reaches ⟨source.toList, 0⟩ ts r)
    {e : CompileError} {n : Nat} (hround : r.round = .failure (.stopped e) n) :
  tokenize source = .error e
  := by
  have htokens : (tokenize source).mapError .stopped = r.tokens.result.map (ts ++ ·) :=
    congrArg Outcome.result (tokens_of_reaches h)
  rw [tokens_of_round_failure hround] at htokens
  obtain ⟨e', herror, heq⟩ := eq_error_of_mapError htokens
  obtain rfl := ReadError.stopped.inj heq
  apply herror

/-- The characters that rounds take are a layout of the tokens that they give, in which
each lexeme is taken as long as it can be in front of what is left. -/
theorem layout_of_reaches (h : Reaches r ts s) :
  ∃ taken, r.rest = taken ++ s.rest ∧ s = ⟨r.source, r.cursor + taken.length⟩
    ∧ Layout (MunchedBefore s.rest) ts taken
  := by
  induction h with
  | here =>
      use [], rfl, rfl
      apply Layout.done
      simp
  | @round r s taken cursor ts hround _ ih =>
      obtain ⟨l, rest, hrest, rfl, htaken⟩ := round_success hround
      obtain ⟨more, hmore, rfl, hlayout⟩ := ih
      rw [rest_move hrest] at hmore
      use l ++ more
      constructor
      · rw [hrest, hmore, List.append_assoc]
      constructor
      · rw [List.length_append, Nat.add_assoc]
      · rcases htaken with ⟨rfl, c, rfl, hc⟩ | ⟨t, rfl, hl, hends⟩
        · apply Layout.cons_blank hc hlayout
        · rw [hmore] at hends
          rw [← List.nil_append (l ++ more)]
          apply Layout.next _ hl hends hlayout
          simp

/-- The characters of a text up to where rounds from its beginning lead are a layout of the
tokens that they give. -/
theorem layout_take_of_reaches {cs : List Char} {n : Nat} (h : Reaches ⟨cs, 0⟩ ts ⟨cs, n⟩) :
  Layout (MunchedBefore (cs.drop n)) ts (cs.take n)
  := by
  obtain ⟨taken, hcs, hn, hlayout⟩ := layout_of_reaches h
  obtain rfl : n = taken.length := by simpa using hn
  have htake : cs.take taken.length = taken := by
    have hcut : cs = taken ++ cs.drop taken.length := hcs
    rw [hcut, List.take_left]
  rw [htake]
  apply hlayout

/-- Blanks at the cursor are passed over by rounds that give no token. -/
theorem reaches_of_blanks {gap : List Char} (hgap : ∀ c ∈ gap, isBlank c)
    (hrest : r.rest = gap ++ rest) (h : Reaches ⟨r.source, r.cursor + gap.length⟩ ts s) :
  Reaches r ts s
  := by
  induction gap generalizing r with
  | nil => apply h
  | cons c gap ih =>
      rw [List.forall_mem_cons] at hgap
      apply Reaches.round (round_blank hrest hgap.1)
      apply ih hgap.2
      · apply rest_move (l := [c]) hrest
      · rw [List.length_cons, Nat.add_comm gap.length, ← Nat.add_assoc] at h
        apply h

/-- A layout at the cursor, in which each lexeme is taken as long as it can be in front of what
comes behind it, is taken by rounds that give its tokens. -/
theorem reaches_of_layout {front : List Char} (h : Layout (MunchedBefore rest) ts front)
    (hrest : r.rest = front ++ rest) :
  Reaches r ts ⟨r.source, r.cursor + front.length⟩
  := by
  induction h generalizing r with
  | done hgap => apply reaches_of_blanks hgap hrest .here
  | @next gap l between t us hgap hl hends _ ih =>
      rw [List.append_assoc, List.append_assoc] at hrest
      have hlexeme : Reader.rest ⟨r.source, r.cursor + gap.length⟩ = l ++ (between ++ rest) :=
        rest_move hrest
      have hbehind := ih (rest_move hlexeme)
      rw [List.length_append, List.length_append, ← Nat.add_assoc, ← Nat.add_assoc]
      apply reaches_of_blanks hgap hrest
      apply Reaches.round (round_lexeme hlexeme hl hends) hbehind

/-- Rounds come to an end: either no character is left, or a round fails, but never for want of
a character. -/
theorem exists_reaches (r : Reader) :
  ∃ ts s, Reaches r ts s ∧ (s.rest = [] ∨ ∃ e n, s.round = .failure (.stopped e) n)
  := by
  generalize hrest : r.rest = cs
  induction cs using readingInduction generalizing r with
  | finish => exact ⟨[], r, .here, Or.inl hrest⟩
  | blank c rest hc ih =>
      obtain ⟨ts, s, hs, hend⟩ := ih ⟨r.source, r.cursor + 1⟩ (rest_move (l := [c]) hrest)
      exact ⟨ts, s, .round (round_blank hrest hc) hs, hend⟩
  | lexeme l rest t hl hends ih =>
      obtain ⟨ts, s, hs, hend⟩ := ih ⟨r.source, r.cursor + l.length⟩ (rest_move hrest)
      exact ⟨t :: ts, s, .round (round_lexeme hrest hl hends) hs, hend⟩
  | openString b hb => exact ⟨[], r, .here, Or.inr ⟨_, _, round_openString hrest hb⟩⟩
  | invalid c rest hblank hc => exact ⟨[], r, .here, Or.inr ⟨_, _, round_invalid hrest hblank hc⟩⟩

end Reader

end CallForm
