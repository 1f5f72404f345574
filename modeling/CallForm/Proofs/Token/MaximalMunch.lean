import CallForm.Proofs.Token.Reading

/-!
# Maximal munch

`tokenize` accepts exactly the layouts of tokens in which each lexeme is taken as long as
it can be, and gives the tokens that the lexemes spell.
-/

namespace CallForm

/-- A layout in which each lexeme is taken as long as it can be is read as the tokens that
it spells, up to its end. -/
theorem tokensFrom_of_layout {ts : List Token} {cs : List Char} (h : Layout Munched ts cs)
    (pos : Nat) :
  tokensFrom pos cs = .success ts (pos + cs.length)
  := by
  induction h generalizing pos with
  | @done gap hgap =>
      rw [← List.append_nil gap, tokensFrom_blanks pos hgap, tokensFrom, List.append_nil]
  | @next gap l rest t us hgap hl ha _ ih =>
      rw [tokensFrom_blanks pos hgap, tokensFrom_lexeme _ hl ha, ih, List.length_append,
        List.length_append, Nat.add_assoc, Nat.add_assoc]
      rfl

/-! ### Nothing but layouts is read -/

theorem ok_of_map {α β : Type} {f : α → β} {o : Outcome CompileError α} {b : β}
    (h : (o.map f).result = .ok b) :
  ∃ a, o.result = .ok a ∧ f a = b
  := by
  obtain ⟨_ | a, n⟩ := o
  · cases h
  · use a, rfl, Except.ok.inj h

/-- A text that is read as tokens is a layout of them. -/
theorem layout_of_tokensFrom {pos : Nat} {cs : List Char} {ts : List Token}
    (h : (tokensFrom pos cs).result = .ok ts) :
  Layout Munched ts cs
  := by
  induction cs using readingInduction generalizing pos ts with
  | finish =>
      rw [tokensFrom] at h
      obtain rfl := Except.ok.inj h
      apply Layout.done
      simp
  | blank c rest hc ih =>
      rw [tokensFrom_blank pos hc] at h
      apply Layout.cons_blank hc (ih h)
  | lexeme l rest t hl hrest ih =>
      rw [tokensFrom_lexeme pos hl hrest] at h
      obtain ⟨us, hus, rfl⟩ := ok_of_map h
      rw [← List.nil_append (l ++ rest)]
      apply Layout.next _ hl hrest (ih hus)
      simp
  | openString b hb =>
      rw [tokensFrom_openString pos hb] at h
      cases h
  | invalid c rest hblank hc =>
      rw [tokensFrom_invalid pos hblank hc] at h
      cases h

/-- A text is cut into the tokens `ts` exactly when it is a layout of them in which each
lexeme is taken as long as it can be. -/
theorem tokenize_eq_ok_iff (source : String) (ts : List Token) :
  tokenize source = .ok ts ↔ Layout Munched ts source.toList
  := by
  constructor
  · apply layout_of_tokensFrom
  · intro h
    rw [tokenize, tokensFrom_of_layout h 0]
    rfl

end CallForm
