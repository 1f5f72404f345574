import CallForm.Proofs.Source.Placement
import CallForm.Proofs.Token.Steps

/-!
# Steps of a parser

What a parser gives for steps in any order, each from where the one before it has left the
cursor.  A step looks at nothing but the rest of the tokens: on the tokens from the `k`th one on
it gives the same, and only positions move, `Parser.perform_add`.  No step moves the cursor back,
and none moves it beyond the end of the tokens, `Parser.forward_perform`.

So the cursor is all that steps leave behind, for readers and for parsers alike.
-/

namespace CallForm.Source

/-- Wherever tokens begin, they are read in the same way. -/
theorem programFrom_add (pos k : Nat) (ts : List Token) :
  programFrom (pos + k) .empty ts
    = ((programFrom pos .empty ts).mapError (·.shift 0 k)).onward k
  := by
  have hbehind := programFrom_behind [] pos k .empty ts
  have hprogram : (fun p : Program => p.behind []) = fun p => p := rfl
  rw [hprogram, Outcome.map_id_fun] at hbehind
  apply hbehind

/-- Reading a program leaves the cursor between where it was and the end of the tokens. -/
theorem cursor_programFrom (pos : Nat) (read : Stack) (ts : List Token) :
  pos ≤ (programFrom pos read ts).cursor
    ∧ (programFrom pos read ts).cursor ≤ pos + ts.length
  := by
  induction read, ts using parsingInduction generalizing pos with
  | finish read =>
      rw [programFrom]
      cases read.program? with
      | some p => exact ⟨Nat.le_refl pos, Nat.le_refl pos⟩
      | none => exact ⟨Nat.le_refl pos, Nat.le_refl pos⟩
  | openEnd read =>
      rw [programFrom_openEnd]
      exact ⟨Nat.le_succ pos, Nat.le_refl (pos + 1)⟩
  | takes read front next rest hfront ih =>
      obtain ⟨hlow, hhigh⟩ := ih (pos + front.length)
      rw [programFrom_takes _ hfront, List.length_append]
      omega
  | refuses read front t rest ht =>
      rw [programFrom_refuses _ ht, List.length_append, List.length_cons]
      show pos ≤ pos + front.length
        ∧ pos + front.length ≤ pos + (front.length + (rest.length + 1))
      omega

namespace Parser

/-- The steps of a parser. -/
inductive Step where
  | atEnd
  | current
  | advance
  | isParen (text : String)
  | openCall
  | program

/-- What a step gives. -/
inductive Reply where
  | truth (b : Bool)
  | token (t : Token)
  | call (e : Expr)
  | program (p : Program)

/-- What a parser gives for a step. -/
def perform (p : Parser) : Step → Outcome CompileError Reply
  | .atEnd => p.atEnd.map .truth
  | .current => p.current.map .token
  | .advance => p.advance.map .token
  | .isParen text => (p.isParen text).map .truth
  | .openCall => p.openCall.map .call
  | .program => p.program.map .program

/-- What a parser gives for steps, one after the other. -/
def run (p : Parser) (steps : List Step) : List (Outcome CompileError Reply) :=
  Outcome.run (fun n => perform ⟨p.tokens, n⟩) p.cursor steps

/-- The parser with the cursor where steps leave it. -/
def after (p : Parser) (steps : List Step) : Parser :=
  ⟨p.tokens, Outcome.cursorAfter (fun n => perform ⟨p.tokens, n⟩) p.cursor steps⟩

/-- What a step gives, as it is with `k` tokens more in front. -/
def moved (k : Nat) (o : Outcome CompileError Reply) : Outcome CompileError Reply :=
  (o.mapError (·.shift 0 k)).onward k

variable {tokens : List Token}

theorem rest_add (n k : Nat) :
  rest ⟨tokens, n + k⟩ = rest ⟨tokens.drop k, n⟩
  := by
  rw [rest, rest, List.drop_drop, Nat.add_comm]

/-- On the tokens from the `k`th one on, the token at the cursor is the same. -/
theorem current_add (n k : Nat) :
  current ⟨tokens, n + k⟩ = ((current ⟨tokens.drop k, n⟩).mapError (·.shift 0 k)).onward k
  := by
  simp only [current, rest_add]
  cases rest ⟨tokens.drop k, n⟩ with
  | nil => rfl
  | cons t ts => rfl

/-- On the tokens from the `k`th one on, a step gives the same, and only positions move. -/
theorem perform_add (n k : Nat) (s : Step) :
  perform ⟨tokens, n + k⟩ s = moved k (perform ⟨tokens.drop k, n⟩ s)
  := by
  cases s with
  | atEnd =>
      simp only [perform, atEnd, rest_add]
      rfl
  | current =>
      simp only [perform, current_add, moved, Outcome.mapError_map, Outcome.onward_map]
  | advance =>
      simp only [perform, advance, rest_add]
      cases rest ⟨tokens.drop k, n⟩ with
      | nil => rfl
      | cons t ts =>
          rw [Nat.add_right_comm]
          rfl
  | isParen text =>
      simp only [perform, isParen, current_add, moved, Outcome.mapError_map,
        Outcome.onward_map]
  | openCall =>
      have hposition : ((n + k : Nat) : Int) + 1 = n + 1 + k := by omega
      simp only [perform, openCall, rest_add, Nat.add_right_comm _ k, hposition]
      split
      · rfl
      · rfl
      · split
        · rfl
        · rfl
  | program =>
      simp only [perform, program, rest_add, programFrom_add, moved, Outcome.mapError_map,
        Outcome.onward_map]

/-- A step moves the cursor forward, over no more than what is left. -/
theorem cursor_perform (p : Parser) (s : Step) :
  p.cursor ≤ (p.perform s).cursor ∧ (p.perform s).cursor ≤ p.cursor + p.rest.length
  := by
  cases s with
  | atEnd => exact ⟨Nat.le_refl _, Nat.le_add_right _ _⟩
  | current =>
      simp only [perform, current]
      cases p.rest with
      | nil => exact ⟨Nat.le_refl _, Nat.le_refl _⟩
      | cons t ts => exact ⟨Nat.le_refl _, Nat.le_add_right _ _⟩
  | advance =>
      simp only [perform, advance]
      cases p.rest with
      | nil => exact ⟨Nat.le_refl _, Nat.le_refl _⟩
      | cons t ts =>
          show p.cursor ≤ p.cursor + 1 ∧ p.cursor + 1 ≤ p.cursor + (ts.length + 1)
          omega
  | isParen text =>
      simp only [perform, isParen, current]
      cases p.rest with
      | nil => exact ⟨Nat.le_refl _, Nat.le_refl _⟩
      | cons t ts => exact ⟨Nat.le_refl _, Nat.le_add_right _ _⟩
  | openCall =>
      simp only [perform, openCall]
      rcases p.rest with _ | ⟨t, _ | ⟨n, ts⟩⟩
      · exact ⟨Nat.le_refl _, Nat.le_refl _⟩
      · exact ⟨Nat.le_succ _, Nat.le_refl _⟩
      · simp only [List.length_cons]
        split
        · show p.cursor ≤ p.cursor + 2 ∧ p.cursor + 2 ≤ p.cursor + (ts.length + 1 + 1)
          omega
        · show p.cursor ≤ p.cursor + 1 ∧ p.cursor + 1 ≤ p.cursor + (ts.length + 1 + 1)
          omega
  | program => apply cursor_programFrom

/-- No step moves the cursor back, and none moves it beyond the end of the tokens. -/
theorem forward_perform (tokens : List Token) :
  Outcome.Forward (fun n => perform ⟨tokens, n⟩) tokens.length
  := by
  constructor
  · intro n s
    apply (cursor_perform ⟨tokens, n⟩ s).1
  · intro n hn s
    have hcursor := (cursor_perform ⟨tokens, n⟩ s).2
    rw [rest, List.length_drop, Nat.add_sub_of_le hn] at hcursor
    apply hcursor

/-- On the tokens from the `k`th one on, steps give the same, and only positions move. -/
theorem run_add (n k : Nat) (steps : List Step) :
  run ⟨tokens, n + k⟩ steps = (run ⟨tokens.drop k, n⟩ steps).map (moved k)
  := by
  rw [run, run]
  apply Outcome.run_add
  intro m s
  apply perform_add

/-- Steps give what they give on the rest of the tokens, and only positions move. -/
theorem run_eq (p : Parser) (steps : List Step) :
  p.run steps = (run ⟨p.rest, 0⟩ steps).map (moved p.cursor)
  := by
  rw [rest, ← run_add, Nat.zero_add]

/-- Steps that come behind others begin where these leave the cursor, whether or not they have
failed. -/
theorem run_append (p : Parser) (steps more : List Step) :
  p.run (steps ++ more) = p.run steps ++ (p.after steps).run more
  := by
  apply Outcome.run_append

end Parser

/-! ### The cursor -/

/-- The cursor is the whole state of a reader and of a parser.  From a cursor on, steps give what
they give on the rest of the input, and only positions move.  The cursor never goes back and never
leaves the input.  What comes behind some steps, which may have failed, is what a new reader or
parser gives for it on the input from there on where they have left the cursor. -/
theorem steps_from_cursor {r : Reader} {p : Parser} (hr : r.cursor ≤ r.source.length)
    (hp : p.cursor ≤ p.tokens.length) :
  (∀ steps,
    r.run steps = (Reader.run ⟨r.rest, 0⟩ steps).map (Reader.moved r.cursor)
    ∧ (r.cursor :: (r.run steps).map (·.cursor)).IsChain (· ≤ ·)
    ∧ (∀ o ∈ r.run steps, o.cursor ≤ r.source.length)
    ∧ ∀ more, r.run (steps ++ more) = r.run steps
      ++ (Reader.run ⟨(r.after steps).rest, 0⟩ more).map (Reader.moved (r.after steps).cursor))
  ∧ ∀ steps,
    p.run steps = (Parser.run ⟨p.rest, 0⟩ steps).map (Parser.moved p.cursor)
    ∧ (p.cursor :: (p.run steps).map (·.cursor)).IsChain (· ≤ ·)
    ∧ (∀ o ∈ p.run steps, o.cursor ≤ p.tokens.length)
    ∧ ∀ more, p.run (steps ++ more) = p.run steps
      ++ (Parser.run ⟨(p.after steps).rest, 0⟩ more).map (Parser.moved (p.after steps).cursor)
  := by
  constructor
  · intro steps
    obtain ⟨hchain, hbound⟩ := (Reader.forward_perform r.source).run hr steps
    refine ⟨r.run_eq steps, hchain, hbound, ?_⟩
    intro more
    rw [Reader.run_append, ← Reader.run_eq]
  · intro steps
    obtain ⟨hchain, hbound⟩ := (Parser.forward_perform p.tokens).run hp steps
    refine ⟨p.run_eq steps, hchain, hbound, ?_⟩
    intro more
    rw [Parser.run_append, ← Parser.run_eq]

/-- A reader behind the letter of `f12 ~"g` goes on after it has met the tilde and the string that
is not closed, and a parser goes on after a string has stood in the place of a name. -/
theorem steps_from_cursor_failing :
  let r : Reader := ⟨"f12 ~\"g".toList, 1⟩
  let p : Parser := ⟨[⟨.number, "1"⟩, ⟨.paren, "("⟩, ⟨.string, "s"⟩, ⟨.name, "f"⟩], 1⟩
  let steps : List Reader.Step := [.number, .tokens, .advance, .string, .advance]
  let moves : List Parser.Step := [.openCall, .program, .advance, .openCall]
  r.cursor ≤ r.source.length ∧ p.cursor ≤ p.tokens.length
    ∧ (r.run steps).map (·.cursor) = [3, 4, 5, 7, 7]
    ∧ r.run steps = (Reader.run ⟨"12 ~\"g".toList, 0⟩ steps).map (Reader.moved 1)
    ∧ (p.run moves).map (·.cursor) = [2, 3, 4, 4]
    ∧ p.run moves = (Parser.run ⟨p.tokens.drop 1, 0⟩ moves).map (Parser.moved 1)
    ∧ p.run (moves ++ [.atEnd])
      = p.run moves ++ (Parser.run ⟨[], 0⟩ [.atEnd]).map (Parser.moved 4)
  := by
  intro r p steps moves
  have hr : r.cursor ≤ r.source.length := by decide
  have hp : p.cursor ≤ p.tokens.length := by decide
  have hcursors : (r.run steps).map (·.cursor) = [3, 4, 5, 7, 7] := by decide +kernel
  have hmoves : (p.run moves).map (·.cursor) = [2, 3, 4, 4] := by decide +kernel
  obtain ⟨hreader, hparser⟩ := steps_from_cursor hr hp
  obtain ⟨hsteps, -⟩ := hreader steps
  obtain ⟨htokens, -, -, hmore⟩ := hparser moves
  exact ⟨hr, hp, hcursors, hsteps, hmoves, htokens, hmore [.atEnd]⟩

end CallForm.Source
