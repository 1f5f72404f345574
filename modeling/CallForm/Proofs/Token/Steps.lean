import CallForm.Proofs.Outcome.Run
import CallForm.Proofs.Token.Placement

/-!
# Steps of a reader

What a reader gives for steps in any order, each from where the one before it has left the
cursor.  A step looks at nothing but the rest of the text: on a text from its `k`th character on
it gives the same, and only positions move, `Reader.perform_add`.  No step moves the cursor
back, and none moves it beyond the end of the text, `Reader.forward_perform`.
-/

namespace CallForm

/-- The error as it reads when so many characters more stand in front. -/
def ReadError.shift (characters : Nat) : ReadError → ReadError
  | pastEnd => pastEnd
  | stopped e => stopped (e.shift characters 0)

/-- Reading the tokens leaves the cursor between where it was and the end of the text. -/
theorem cursor_tokensFrom (pos : Nat) (cs : List Char) :
  pos ≤ (tokensFrom pos cs).cursor ∧ (tokensFrom pos cs).cursor ≤ pos + cs.length
  := by
  induction cs using readingInduction generalizing pos with
  | finish =>
      rw [tokensFrom]
      exact ⟨Nat.le_refl pos, Nat.le_refl pos⟩
  | blank c rest hc ih =>
      obtain ⟨hlow, hhigh⟩ := ih (pos + 1)
      rw [tokensFrom_blank _ hc, List.length_cons]
      omega
  | lexeme l rest t hl hends ih =>
      obtain ⟨hlow, hhigh⟩ := ih (pos + l.length)
      rw [tokensFrom_lexeme _ hl hends, List.length_append]
      show pos ≤ (tokensFrom (pos + l.length) rest).cursor
        ∧ (tokensFrom (pos + l.length) rest).cursor ≤ pos + (l.length + rest.length)
      omega
  | openString b hb =>
      rw [tokensFrom_openString _ hb, List.length_cons]
      show pos ≤ pos + 1 + b.length ∧ pos + 1 + b.length ≤ pos + (b.length + 1)
      omega
  | invalid c rest hblank hc =>
      rw [tokensFrom_invalid _ hblank hc]
      exact ⟨Nat.le_refl pos, Nat.le_add_right pos _⟩

namespace Reader

/-- The steps of a reader. -/
inductive Step where
  | peek
  | advance
  | name
  | number
  | string
  | tokens

/-- What a step gives. -/
inductive Reply where
  | peeked (c : Option Char)
  | taken (c : Char)
  | token (t : Token)
  | tokens (ts : List Token)

/-- What a reader gives for a step. -/
def perform (r : Reader) : Step → Outcome ReadError Reply
  | .peek => r.peek.map .peeked
  | .advance => r.advance.map .taken
  | .name => r.name.map .token
  | .number => r.number.map .token
  | .string => r.string.map .token
  | .tokens => r.tokens.map .tokens

/-- What a reader gives for steps, one after the other. -/
def run (r : Reader) (steps : List Step) : List (Outcome ReadError Reply) :=
  Outcome.run (fun n => perform ⟨r.source, n⟩) r.cursor steps

/-- The reader with the cursor where steps leave it. -/
def after (r : Reader) (steps : List Step) : Reader :=
  ⟨r.source, Outcome.cursorAfter (fun n => perform ⟨r.source, n⟩) r.cursor steps⟩

/-- What a step gives, as it is with `k` characters more in front of the text. -/
def moved (k : Nat) (o : Outcome ReadError Reply) : Outcome ReadError Reply :=
  (o.mapError (·.shift k)).onward k

variable {source : List Char}

theorem rest_add (n k : Nat) :
  rest ⟨source, n + k⟩ = rest ⟨source.drop k, n⟩
  := by
  rw [rest, rest, List.drop_drop, Nat.add_comm]

/-- On the text from its `k`th character on, a step gives the same, and only positions move. -/
theorem perform_add (n k : Nat) (s : Step) :
  perform ⟨source, n + k⟩ s = moved k (perform ⟨source.drop k, n⟩ s)
  := by
  cases s with
  | peek =>
      simp only [perform, peek, rest_add]
      rfl
  | advance =>
      simp only [perform, advance, rest_add]
      cases rest ⟨source.drop k, n⟩ with
      | nil => rfl
      | cons c cs =>
          rw [Nat.add_right_comm]
          rfl
  | name =>
      simp only [perform, name, rest_add, Nat.add_right_comm n k]
      rfl
  | number =>
      simp only [perform, number, rest_add, Nat.add_right_comm n k]
      rfl
  | string =>
      simp only [perform, string, rest_add]
      cases rest ⟨source.drop k, n⟩ with
      | nil => rfl
      | cons c body =>
          simp only [Nat.add_right_comm _ k]
          cases stringBody? body with
          | none => rfl
          | some cut => rfl
  | tokens =>
      simp only [perform, tokens, rest_add, tokensFrom_add]
      obtain ⟨_ | _, _⟩ := tokensFrom n (rest ⟨source.drop k, n⟩) <;> rfl

/-- A step moves the cursor forward, over no more than what is left. -/
theorem cursor_perform (r : Reader) (s : Step) :
  r.cursor ≤ (r.perform s).cursor ∧ (r.perform s).cursor ≤ r.cursor + r.rest.length
  := by
  cases s with
  | peek => exact ⟨Nat.le_refl _, Nat.le_add_right _ _⟩
  | advance =>
      simp only [perform, advance]
      cases r.rest with
      | nil => exact ⟨Nat.le_refl _, Nat.le_refl _⟩
      | cons c cs =>
          show r.cursor ≤ r.cursor + 1 ∧ r.cursor + 1 ≤ r.cursor + (cs.length + 1)
          omega
  | name =>
      have htaken := (List.takeWhile_prefix isNameChar (l := r.rest)).length_le
      exact ⟨Nat.le_add_right _ _, Nat.add_le_add_left htaken _⟩
  | number =>
      have htaken := (List.takeWhile_prefix isNumberChar (l := r.rest)).length_le
      exact ⟨Nat.le_add_right _ _, Nat.add_le_add_left htaken _⟩
  | string =>
      simp only [perform, string]
      cases r.rest with
      | nil => exact ⟨Nat.le_refl _, Nat.le_refl _⟩
      | cons c body =>
          simp only [List.length_cons]
          cases stringBody? body with
          | none =>
              show r.cursor ≤ r.cursor + 1 + body.length
                ∧ r.cursor + 1 + body.length ≤ r.cursor + (body.length + 1)
              omega
          | some cut =>
              show r.cursor ≤ r.cursor + 1 + (body.length - cut.2.length)
                ∧ r.cursor + 1 + (body.length - cut.2.length) ≤ r.cursor + (body.length + 1)
              omega
  | tokens => apply cursor_tokensFrom

/-- No step moves the cursor back, and none moves it beyond the end of the text. -/
theorem forward_perform (source : List Char) :
  Outcome.Forward (fun n => perform ⟨source, n⟩) source.length
  := by
  constructor
  · intro n s
    apply (cursor_perform ⟨source, n⟩ s).1
  · intro n hn s
    have hcursor := (cursor_perform ⟨source, n⟩ s).2
    rw [rest, List.length_drop, Nat.add_sub_of_le hn] at hcursor
    apply hcursor

/-- On the text from its `k`th character on, steps give the same, and only positions move. -/
theorem run_add (n k : Nat) (steps : List Step) :
  run ⟨source, n + k⟩ steps = (run ⟨source.drop k, n⟩ steps).map (moved k)
  := by
  rw [run, run]
  apply Outcome.run_add
  intro m s
  apply perform_add

/-- Steps give what they give on the rest of the text, and only positions move. -/
theorem run_eq (r : Reader) (steps : List Step) :
  r.run steps = (run ⟨r.rest, 0⟩ steps).map (moved r.cursor)
  := by
  rw [rest, ← run_add, Nat.zero_add]

/-- Steps that come behind others begin where these leave the cursor, whether or not they have
failed. -/
theorem run_append (r : Reader) (steps more : List Step) :
  r.run (steps ++ more) = r.run steps ++ (r.after steps).run more
  := by
  apply Outcome.run_append

end Reader

end CallForm
