import CallForm.Proofs.Compile.Failure
import CallForm.Proofs.Source.Continuation

/-!
# Unfinished texts

A text is unfinished if it does not compile but some text that begins with it does.  The only
error of an unfinished text is that it ends too early: where a character or a token cannot
stand, no text that goes on compiles, even if it goes on in the middle of a lexeme.
-/

namespace CallForm

theorem not_isOk_of_error {source : String} {e : CompileError} (h : compile source = .error e) :
  ¬(compile source).isOk
  := by
  rw [h]
  apply Bool.false_ne_true

/-- A text with an invalid character has one however it goes on. -/
theorem tokenize_append_of_invalid {source : String} {c : String} {n : Int}
    (h : tokenize source = .error (.invalidCharacter c n)) (more : String) :
  tokenize (source ++ more) = .error (.invalidCharacter c n)
  := by
  rw [tokenize, String.toList_append, tokensFrom_append_of_invalid h]
  apply h

/-- The tokens of a text that goes on begin with tokens like those of the text. -/
theorem alike_of_tokenize_append {source more : String} {ts us : List Token}
    (h : tokenize source = .ok ts) (hmore : tokenize (source ++ more) = .ok us) :
  ∃ ts' vs, us = ts' ++ vs ∧ List.Forall₂ Token.Alike ts ts'
  := by
  rw [tokenize, String.toList_append] at hmore
  apply tokensFrom_append h hmore

/-- If a token cannot stand where it does, then neither can the one in its place among tokens
like those, whatever comes behind them. -/
theorem parse_append_of_alike {ts ts' : List Token} {text : String} {n : Int}
    (h : Source.parse ts = .error (.unexpectedToken text n))
    (halike : List.Forall₂ Token.Alike ts ts') (vs : List Token) :
  ∃ text', Source.parse (ts' ++ vs) = .error (.unexpectedToken text' n)
  := by
  obtain ⟨text', htext'⟩ := Source.unexpectedToken_of_alike h halike rfl
  use text'
  rw [Source.parse, Source.programFrom_append_of_unexpectedToken htext']
  apply htext'

/-- A text that fails to compile before its end fails however it goes on. -/
theorem not_isOk_append {source : String} {e : CompileError} (h : compile source = .error e)
    (he : e ≠ .unexpectedEnd) (more : String) :
  ¬(compile (source ++ more)).isOk
  := by
  rcases compile_eq_error_iff.mp h with htokenize | ⟨ts, hts, hparse⟩
  · obtain hend | ⟨front, c, rest, _, rfl⟩ := failure_of_tokensFrom htokenize
    · contradiction
    · apply not_isOk_of_error
      apply compile_eq_error_iff.mpr (Or.inl (tokenize_append_of_invalid htokenize more))
  · obtain hend | ⟨front, t, rest, _, rfl⟩ := Source.failure_of_programFrom hparse
    · contradiction
    · cases hmore : tokenize (source ++ more) with
      | error e =>
          apply not_isOk_of_error
          apply compile_eq_error_iff.mpr (Or.inl hmore)
      | ok us =>
          obtain ⟨ts', vs, rfl, halike⟩ := alike_of_tokenize_append hts hmore
          obtain ⟨text', hfail⟩ := parse_append_of_alike hparse halike vs
          apply not_isOk_of_error
          apply compile_eq_error_iff.mpr (Or.inr ⟨_, hmore, hfail⟩)

/-- If a text that goes on compiles, the text itself compiles or only ends too early.  In
other words, no text that goes on compiles if the text itself has an invalid character or an
unexpected token. -/
theorem compile_unfinished (source more : String) :
  ((compile (source ++ more)).isOk →
    (compile source).isOk ∨ compile source = .error .unexpectedEnd)
  ∧ ∀ e, compile source = .error e →
    e.kind = "invalid_character" ∨ e.kind = "unexpected_token" →
    ¬(compile (source ++ more)).isOk
  := by
  constructor
  · intro hmore
    cases h : compile source with
    | ok output =>
        left
        rfl
    | error e =>
        right
        apply congrArg
        apply Decidable.byContradiction
        intro he
        apply not_isOk_append h he more hmore
  · intro e h hkind
    apply not_isOk_append h
    rintro rfl
    revert hkind
    decide

/-- A string that is cut behind a backslash, and a number where a name should stand. -/
theorem compile_unfinished_cut :
  (compile ("(f \"a\\" ++ "n\" 1.5)")).isOk
    ∧ ((compile "(f \"a\\").isOk ∨ compile "(f \"a\\" = .error .unexpectedEnd)
    ∧ compile "(f 1 (2" = .error (.unexpectedToken "2" 4)
    ∧ ¬(compile ("(f 1 (2" ++ ".5 x))")).isOk
  := by
  have hmore : (compile ("(f \"a\\" ++ "n\" 1.5)")).isOk := by decide +kernel
  have hnumber : compile "(f 1 (2" = .error (.unexpectedToken "2" 4) := by decide +kernel
  exact ⟨hmore, (compile_unfinished _ _).1 hmore, hnumber,
    (compile_unfinished _ _).2 _ hnumber (Or.inr rfl)⟩

end CallForm
