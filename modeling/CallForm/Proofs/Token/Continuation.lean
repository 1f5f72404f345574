import CallForm.Proofs.Outcome.Shift
import CallForm.Proofs.Token.MaximalMunch
import Mathlib.Data.List.Forall2

/-!
# Texts that go on

How a text is read when more text is glued to its end.  A character that cannot be read
stays one, whatever comes behind it.  The tokens of a text are read again, only that the
last of them may be a name or a number that now goes on: `Token.Alike` is the relation
between a token and the one that it may become.
-/

namespace CallForm

open Text

/-- Two tokens of one kind, which are the same if they are parentheses. -/
def Token.Alike (t u : Token) : Prop :=
  t.kind = u.kind ∧ (t.kind = .paren → t.text = u.text)

theorem Token.Alike.refl (t : Token) :
  t.Alike t
  := ⟨rfl, fun _ => rfl⟩

/-- What ends before some text ends before any text that begins with it. -/
theorem Ends.append {k : TokenKind} {rest : List Char} (h : Ends k rest) (hrest : rest ≠ [])
    (more : List Char) :
  Ends k (rest ++ more)
  := by
  cases rest with
  | nil => contradiction
  | cons c rest => apply h

/-- A lexeme and some text behind it are a lexeme that is not continued, of a token like
the first one, and some text behind that. -/
theorem Spells.prolong {l : List Char} {t : Token} (h : Spells l t) (more : List Char) :
  ∃ l' rest t', l ++ more = l' ++ rest ∧ Spells l' t' ∧ Ends t'.kind rest ∧ t.Alike t'
  := by
  cases h with
  | opening => exact ⟨_, more, _, rfl, .opening, ends_paren more, .refl _⟩
  | closing => exact ⟨_, more, _, rfl, .closing, ends_paren more, .refl _⟩
  | @name c cs hc hcs =>
      refine ⟨c :: (cs ++ more.takeWhile isNameChar), more.dropWhile isNameChar, _, ?_,
        .name hc ?_, ends_dropWhile isNameChar_iff more, rfl, ?_⟩
      · simp [List.takeWhile_append_dropWhile]
      · rw [List.forall_mem_append]
        exact ⟨hcs, fun d => continues_of_mem_takeWhile isNameChar_iff⟩
      · rintro ⟨⟩
  | @number c cs hc hcs =>
      refine ⟨c :: (cs ++ more.takeWhile isNumberChar), more.dropWhile isNumberChar, _, ?_,
        .number hc ?_, ends_dropWhile isNumberChar_iff more, rfl, ?_⟩
      · simp [List.takeWhile_append_dropWhile]
      · rw [List.forall_mem_append]
        exact ⟨hcs, fun d => continues_of_mem_takeWhile isNumberChar_iff⟩
      · rintro ⟨⟩
  | string hb => exact ⟨_, more, _, rfl, .string hb, ends_string more, .refl _⟩

/-- An invalid character stays one, whatever comes behind it. -/
theorem tokensFrom_append_of_invalid {pos : Nat} {cs : List Char} {c : String} {n : Int}
    (h : (tokensFrom pos cs).result = .error (.invalidCharacter c n)) (more : List Char) :
  tokensFrom pos (cs ++ more) = tokensFrom pos cs
  := by
  induction cs using readingInduction generalizing pos with
  | finish =>
      rw [tokensFrom] at h
      cases h
  | blank b rest hb ih =>
      rw [tokensFrom_blank _ hb] at h ⊢
      rw [List.cons_append, tokensFrom_blank _ hb, ih h]
  | lexeme l rest t hl hends ih =>
      rw [tokensFrom_lexeme _ hl hends] at h ⊢
      have hfail := Outcome.result_map_eq_error.mp h
      have hrest : rest ≠ [] := by
        rintro rfl
        rw [tokensFrom] at hfail
        cases hfail
      rw [List.append_assoc, tokensFrom_lexeme _ hl (hends.append hrest more), ih hfail]
  | openString b hb =>
      rw [tokensFrom_openString _ hb] at h
      cases h
  | invalid b rest hblank hb =>
      rw [List.cons_append, tokensFrom_invalid _ hblank hb, tokensFrom_invalid _ hblank hb]

/-- The tokens of a text come first among those of a text that goes on, up to the text of
the last of them. -/
theorem tokensFrom_append {pos : Nat} {cs more : List Char} {ts us : List Token}
    (h : (tokensFrom pos cs).result = .ok ts) (hmore : (tokensFrom pos (cs ++ more)).result = .ok us) :
  ∃ ts' vs, us = ts' ++ vs ∧ List.Forall₂ Token.Alike ts ts'
  := by
  induction cs using readingInduction generalizing pos ts us with
  | finish =>
      rw [tokensFrom] at h
      obtain rfl := Except.ok.inj h
      exact ⟨[], us, rfl, .nil⟩
  | blank b rest hb ih =>
      rw [tokensFrom_blank _ hb] at h
      rw [List.cons_append, tokensFrom_blank _ hb] at hmore
      apply ih h hmore
  | lexeme l rest t hl hends ih =>
      rw [tokensFrom_lexeme _ hl hends] at h
      obtain ⟨ts, hts, rfl⟩ := ok_of_map h
      cases rest with
      | nil =>
          -- The text ends with this lexeme, so it may go on.
          rw [tokensFrom] at hts
          obtain rfl := Except.ok.inj hts
          obtain ⟨l', rest', t', hcut, hl', hends', halike⟩ := hl.prolong more
          rw [List.append_nil, hcut, tokensFrom_lexeme _ hl' hends'] at hmore
          obtain ⟨vs, _, rfl⟩ := ok_of_map hmore
          exact ⟨[t'], vs, rfl, .cons halike .nil⟩
      | cons c rest =>
          rw [List.append_assoc,
            tokensFrom_lexeme _ hl (hends.append (List.cons_ne_nil c rest) more)] at hmore
          obtain ⟨us, hus, rfl⟩ := ok_of_map hmore
          obtain ⟨ts', vs, rfl, halike⟩ := ih hts hus
          exact ⟨t :: ts', vs, rfl, .cons (.refl t) halike⟩
  | openString b hb =>
      rw [tokensFrom_openString _ hb] at h
      cases h
  | invalid b rest hblank hb =>
      rw [tokensFrom_invalid _ hblank hb] at h
      cases h

end CallForm
