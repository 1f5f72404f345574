import CallForm.Proofs.Source.Placement
import CallForm.Proofs.Target.Rendering
import CallForm.Proofs.Token.Rounds

/-!
# Where compiling fails

A text fails to compile exactly when it cannot be cut into tokens or its tokens cannot be
read as a program, for a program has a target tree, and this has a text.  The error is that
of the step that failed, and it tells the truth: `e.Locates source` says that what the error
`e` reports stands in `source` where `e` says.
-/

namespace CallForm

/-- What the error reports stands where it says: a character in the text, a token among the
tokens of the text. -/
def CompileError.Locates (source : String) : CompileError → Prop
  | invalidCharacter character n =>
    ∃ (i : Nat) (c : Char), n = i ∧ source.toList[i]? = some c ∧ character = String.singleton c
  | unexpectedToken text n =>
    ∃ (ts : List Token) (i : Nat) (t : Token),
      tokenize source = .ok ts ∧ n = i ∧ ts[i]? = some t ∧ text = t.text
  | unexpectedEnd => True
  | _ => False

/-- The kinds of error that a text can have. -/
def readingKinds : List String :=
  ["invalid_character", "unexpected_token", "unexpected_eof"]

/-- A program has a target tree, and the target tree has a text. -/
theorem Source.Program.renders (p : Source.Program) :
  ∃ target output, p.target = .ok target ∧ target.render = .ok output
  := by
  use .program ((targets p.body).map .statement), p.callForm, p.target_eq
  apply render_statements

/-- A text does not compile exactly if it cannot be cut into tokens or its tokens cannot be
read. -/
theorem compile_eq_error_iff {source : String} {e : CompileError} :
  compile source = .error e
    ↔ tokenize source = .error e ∨ ∃ ts, tokenize source = .ok ts ∧ Source.parse ts = .error e
  := by
  rw [compile_eq, readProgram]
  cases tokenize source with
  | error e' => simp [bind, Except.bind, Except.map]
  | ok ts =>
      cases hp : Source.parse ts with
      | error e' => simp [bind, Except.bind, Except.map, hp]
      | ok p => simp [bind, Except.bind, Except.map, hp]

/-- Cutting a text into tokens fails where the error says. -/
theorem locates_of_tokenize {source : String} {e : CompileError} (h : tokenize source = .error e) :
  e.kind ∈ readingKinds ∧ e.Locates source
  := by
  obtain rfl | ⟨front, c, rest, hsource, rfl⟩ := failure_of_tokensFrom h
  · constructor
    · decide
    · apply trivial
  · constructor
    · simp [CompileError.kind, readingKinds]
    · use front.length, c
      simp [hsource]

/-- Reading the tokens of a text fails where the error says. -/
theorem locates_of_parse {source : String} {ts : List Token} {e : CompileError}
    (hts : tokenize source = .ok ts) (h : Source.parse ts = .error e) :
  e.kind ∈ readingKinds ∧ e.Locates source
  := by
  obtain rfl | ⟨front, t, rest, rfl, rfl⟩ := Source.failure_of_programFrom h
  · constructor
    · decide
    · apply trivial
  · constructor
    · simp [CompileError.kind, readingKinds]
    · use front ++ t :: rest, front.length, t, hts
      simp

/-- The rounds that read a text end with its last character, and have then given all its
tokens, or with a round that fails as cutting the text into tokens does. -/
theorem tokenize_of_rounds (source : String) :
  ∃ ts r, Reader.Reaches ⟨source.toList, 0⟩ ts r
    ∧ (r.rest = [] ∧ tokenize source = .ok ts
      ∨ ∃ e n, r.round = .failure (.stopped e) n ∧ tokenize source = .error e)
  := by
  obtain ⟨ts, r, hr, hrest | ⟨e, n, hround⟩⟩ := Reader.exists_reaches ⟨source.toList, 0⟩
  · exact ⟨ts, r, hr, Or.inl ⟨hrest, Reader.tokenize_of_reaches hr hrest⟩⟩
  · exact ⟨ts, r, hr, Or.inr ⟨e, n, hround, Reader.tokenize_of_reaches_failure hr hround⟩⟩

/-- What compiling a text gives.  The tokens of a program lead to a text, whatever tokens they
are.  Reading a text comes to an end without a step beyond the end of the text, and the record
of the text holds either the output or the error; the error is that of cutting the text into
tokens, or else that of reading the tokens, and is found where it says. -/
theorem compile_ok_or_located :
  (∀ ts p, Source.parse ts = .ok p →
    ∃ target output, p.target = .ok target ∧ target.render = .ok output)
  ∧ ∀ source,
    (∃ ts r, Reader.Reaches ⟨source.toList, 0⟩ ts r
      ∧ (r.rest = [] ∧ tokenize source = .ok ts
        ∨ ∃ e n, r.round = .failure (.stopped e) n ∧ tokenize source = .error e))
    ∧ (Compilation.of source).outcome = compile source
    ∧ ((∃ output, compile source = .ok output
        ∧ (Compilation.of source).toJson = .object
          [("input", .string source), ("ok", .bool true), ("output", .string output)])
      ∨ ∃ e, compile source = .error e
        ∧ (Compilation.of source).toJson = .object
          [("input", .string source), ("ok", .bool false), ("error", e.toJson)])
    ∧ (∀ e, compile source = .error e
      ↔ tokenize source = .error e ∨ ∃ ts, tokenize source = .ok ts ∧ Source.parse ts = .error e)
    ∧ ∀ e, compile source = .error e → e.kind ∈ readingKinds ∧ e.Locates source
  := by
  constructor
  · intro ts p _
    apply p.renders
  · intro source
    refine ⟨tokenize_of_rounds source, rfl, ?_, fun e => compile_eq_error_iff, ?_⟩
    · rw [Compilation.toJson, Compilation.record, Compilation.ok, Compilation.of]
      cases compile source with
      | ok output =>
          left
          use output, rfl
          rfl
      | error e =>
          right
          use e, rfl
          rfl
    · intro e he
      rcases compile_eq_error_iff.mp he with htokenize | ⟨ts, htokenize, hparse⟩
      · apply locates_of_tokenize htokenize
      · apply locates_of_parse htokenize hparse

/-- A call without a name has a text, and in `) ~` the character is at fault and not the
parenthesis before it. -/
theorem compile_ok_or_located_tilde :
  Source.parse [⟨.paren, "("⟩, ⟨.name, ""⟩, ⟨.paren, ")"⟩] = .ok ⟨[.call "" []]⟩
    ∧ (∃ target output, Source.Program.target ⟨[.call "" []]⟩ = .ok target
      ∧ target.render = .ok output)
    ∧ compile ") ~" = .error (.invalidCharacter "~" 2)
    ∧ (CompileError.invalidCharacter "~" 2).Locates ") ~"
  := by
  have hparse : Source.parse [⟨.paren, "("⟩, ⟨.name, ""⟩, ⟨.paren, ")"⟩]
      = .ok ⟨[.call "" []]⟩ := rfl
  have hcompile : compile ") ~" = .error (.invalidCharacter "~" 2) := by decide +kernel
  obtain ⟨hrenders, hsource⟩ := compile_ok_or_located
  obtain ⟨_, _, _, _, hlocates⟩ := hsource ") ~"
  exact ⟨hparse, hrenders _ _ hparse, hcompile, (hlocates _ hcompile).2⟩

end CallForm
