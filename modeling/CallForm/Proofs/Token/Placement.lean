import CallForm.Proofs.Outcome.Shift
import CallForm.Proofs.Token.MaximalMunch

/-!
# Texts in front of texts

How a text is read where other text stands in front of it.  Its tokens are the same
wherever it stands, and only positions move.  A text `front` that is a layout of the tokens
`ts`, in which each lexeme is taken as long as it can be although `rest` comes next, gives
these tokens and leaves `rest` to be read: `MunchedBefore rest` is the constraint that says
so.  If it holds before one text, it holds before every text that begins with a blank.
-/

namespace CallForm

open Text

/-- Each lexeme in front of `rest` is taken as long as it can be. -/
def MunchedBefore (rest : List Char) (t : Token) (_ : List Token) (between : List Char) : Prop :=
  Ends t.kind (between ++ rest)

/-- Wherever a text begins, it is read in the same way. -/
theorem tokensFrom_add (pos k : Nat) (cs : List Char) :
  tokensFrom (pos + k) cs = ((tokensFrom pos cs).mapError (·.shift k 0)).onward k
  := by
  induction cs using readingInduction generalizing pos with
  | finish =>
      rw [tokensFrom, tokensFrom]
      rfl
  | blank c rest hc ih => rw [tokensFrom_blank _ hc, tokensFrom_blank _ hc, Nat.add_right_comm, ih]
  | lexeme l rest t hl hends ih =>
      rw [tokensFrom_lexeme _ hl hends, tokensFrom_lexeme _ hl hends, Nat.add_right_comm, ih]
      simp
  | openString b hb =>
      have hcursor : pos + k + 1 + b.length = pos + 1 + b.length + k := by omega
      rw [tokensFrom_openString _ hb, tokensFrom_openString _ hb, hcursor]
      rfl
  | invalid c rest hblank hc =>
      rw [tokensFrom_invalid _ hblank hc, tokensFrom_invalid _ hblank hc, Int.natCast_add]
      rfl

/-- Reading fails at the end of the text or at a character, whose place in the text is
counted from where the text begins. -/
theorem failure_of_tokensFrom {pos : Nat} {cs : List Char} {e : CompileError}
    (h : (tokensFrom pos cs).result = .error e) :
  e = .unexpectedEnd ∨ ∃ front c rest, cs = front ++ c :: rest
    ∧ e = .invalidCharacter (String.singleton c) (pos + front.length : Nat)
  := by
  induction cs using readingInduction generalizing pos with
  | finish =>
      rw [tokensFrom] at h
      cases h
  | blank b rest hb ih =>
      rw [tokensFrom_blank _ hb] at h
      obtain hend | ⟨front, c, tail, rfl, rfl⟩ := ih h
      · left
        apply hend
      · right
        use b :: front, c, tail, rfl
        rw [List.length_cons, Nat.add_right_comm, Nat.add_assoc]
  | lexeme l rest t hl hends ih =>
      rw [tokensFrom_lexeme _ hl hends, Outcome.result_map_eq_error] at h
      obtain hend | ⟨front, c, tail, rfl, rfl⟩ := ih h
      · left
        apply hend
      · right
        use l ++ front, c, tail
        rw [List.append_assoc, List.length_append, Nat.add_assoc]
        exact ⟨rfl, rfl⟩
  | openString b hb =>
      rw [tokensFrom_openString _ hb] at h
      left
      apply (Except.error.inj h).symm
  | invalid c rest hblank hc =>
      rw [tokensFrom_invalid _ hblank hc] at h
      right
      use [], c, rest, rfl
      apply (Except.error.inj h).symm

/-! ### Layouts in front of a text -/

/-- A layout in front of `rest` gives its tokens, and `rest` is read behind it. -/
theorem tokensFrom_append_of_layout {ts : List Token} {front rest : List Char}
    (h : Layout (MunchedBefore rest) ts front) (pos : Nat) :
  tokensFrom pos (front ++ rest) = (tokensFrom (pos + front.length) rest).map (ts ++ ·)
  := by
  induction h generalizing pos with
  | @done gap hgap =>
      rw [tokensFrom_blanks pos hgap]
      simp
  | @next gap l between t us hgap hl ha _ ih =>
      rw [List.append_assoc, List.append_assoc, tokensFrom_blanks pos hgap,
        tokensFrom_lexeme _ hl ha, ih, List.length_append, List.length_append, Nat.add_assoc,
        Nat.add_assoc]
      simp

/-- A constraint may be replaced by one that it implies. -/
theorem Layout.mono {A B : Token → List Token → List Char → Prop} {ts : List Token}
    {cs : List Char} (hAB : ∀ t us rest, A t us rest → B t us rest) (h : Layout A ts cs) :
  Layout B ts cs
  := by
  induction h with
  | done hgap => apply done hgap
  | next hgap hl ha _ ih => apply next hgap hl (hAB _ _ _ ha) ih

/-- What ends before some text also ends before a blank. -/
theorem Ends.append_blank {k : TokenKind} {between rest : List Char} {b : Char}
    (h : Ends k (between ++ rest)) (hb : isBlank b) (rest' : List Char) :
  Ends k (between ++ b :: rest')
  := by
  cases between with
  | nil =>
      rintro _ ⟨⟩
      apply not_continues_of_isBlank hb
  | cons c between => apply h

/-- A layout in front of some text is one in front of every text that begins with a
blank. -/
theorem Layout.before_blank {ts : List Token} {front rest : List Char} {b : Char}
    (h : Layout (MunchedBefore rest) ts front) (hb : isBlank b) (rest' : List Char) :
  Layout (MunchedBefore (b :: rest')) ts front
  := by
  apply h.mono
  intro t _ between ha
  apply ha.append_blank hb

/-- A layout in front of some text stays one if blanks come between them. -/
theorem Layout.before_blanks {ts : List Token} {front gap rest : List Char}
    (h : Layout (MunchedBefore rest) ts front) (hgap : ∀ c ∈ gap, isBlank c) :
  Layout (MunchedBefore (gap ++ rest)) ts front
  := by
  cases gap with
  | nil => apply h
  | cons b gap => apply h.before_blank (hgap b List.mem_cons_self)

/-- A layout that stands by itself is a layout in front of nothing. -/
theorem Layout.before_nil {ts : List Token} {cs : List Char} (h : Layout Munched ts cs) :
  Layout (MunchedBefore []) ts cs
  := by
  apply h.mono
  intro t _ between ha
  rw [MunchedBefore, List.append_nil]
  apply ha

/-- Blanks behind a layout move on what is read behind them. -/
theorem tokensFrom_append_blanks {ts : List Token} {front gap rest : List Char}
    (h : Layout (MunchedBefore (gap ++ rest)) ts front) (hgap : ∀ c ∈ gap, isBlank c) (pos : Nat) :
  tokensFrom pos (front ++ (gap ++ rest))
    = (((tokensFrom (pos + front.length) rest).mapError (·.shift gap.length 0)).onward
      gap.length).map (ts ++ ·)
  := by
  rw [tokensFrom_append_of_layout h, tokensFrom_blanks _ hgap, tokensFrom_add]

/-- Blanks put in behind a layout change nothing but positions. -/
theorem tokensFrom_insert_blanks {ts : List Token} {front gap rest : List Char}
    (h : Layout (MunchedBefore rest) ts front) (hgap : ∀ c ∈ gap, isBlank c) (pos : Nat) :
  tokensFrom pos (front ++ (gap ++ rest))
    = ((tokensFrom pos (front ++ rest)).mapError (·.shift gap.length 0)).onward gap.length
  := by
  rw [tokensFrom_append_blanks (h.before_blanks hgap) hgap, tokensFrom_append_of_layout h,
    Outcome.mapError_map, Outcome.onward_map]

end CallForm
