import CallForm.Error
import CallForm.Outcome

/-!
# Input moved on

What an outcome becomes when more characters and tokens stand in front of the input: the
cursor moves on, and so does the position of a failure.  Positions of characters move with
the characters, positions of tokens with the tokens.
-/

namespace CallForm

/-- The error as it reads when so many characters and tokens more stand in front. -/
def CompileError.shift (characters tokens : Nat) : CompileError → CompileError
  | invalidCharacter c n => invalidCharacter c (n + characters)
  | unexpectedToken t n => unexpectedToken t (n + tokens)
  | e => e

/-- The outcome with its cursor moved on by `k`. -/
def Outcome.onward {ε α : Type} (k : Nat) (o : Outcome ε α) : Outcome ε α :=
  ⟨o.result, o.cursor + k⟩

@[simp]
theorem CompileError.shift_shift (characters tokens characters' tokens' : Nat)
    (e : CompileError) :
  (e.shift characters tokens).shift characters' tokens'
    = e.shift (characters + characters') (tokens + tokens')
  := by
  cases e <;> simp [shift, Int.add_assoc]

namespace Outcome

variable {ε δ α β : Type} (k : Nat)

@[simp]
theorem result_onward (o : Outcome ε α) :
  (o.onward k).result = o.result
  := rfl

@[simp]
theorem result_map (f : α → β) (o : Outcome ε α) :
  (o.map f).result = o.result.map f
  := rfl

@[simp]
theorem result_mapError (f : ε → δ) (o : Outcome ε α) :
  (o.mapError f).result = o.result.mapError f
  := rfl

@[simp]
theorem onward_map (f : α → β) (o : Outcome ε α) :
  (o.map f).onward k = (o.onward k).map f
  := rfl

/-- A function applied to the result does not touch a failure. -/
theorem result_map_eq_error {f : α → β} {o : Outcome ε α} {e : ε} :
  (o.map f).result = .error e ↔ o.result = .error e
  := by
  obtain ⟨_ | _, _⟩ := o <;> simp [Except.map]

end Outcome

section Except

variable {ε δ α : Type} {f : ε → δ} {x : Except ε α}

/-- A function applied to the cause of a failure does not touch a value. -/
theorem eq_ok_of_mapError {a : α} (h : x.mapError f = .ok a) :
  x = .ok a
  := by
  cases x with
  | error e => cases h
  | ok b => rw [Except.ok.inj h]

theorem eq_error_of_mapError {d : δ} (h : x.mapError f = .error d) :
  ∃ e, x = .error e ∧ f e = d
  := by
  cases x with
  | error e => exact ⟨e, rfl, Except.error.inj h⟩
  | ok b => cases h

end Except

end CallForm
