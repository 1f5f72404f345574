/-!
# Outcomes

What an operation that moves a cursor gives, together with the place where it leaves
the cursor.  A failing operation leaves the cursor where the failure was noticed, and
whatever comes next goes on from there.
-/

namespace CallForm

/-- The result of an operation and the cursor after it. -/
structure Outcome (ε α : Type) where
  result : Except ε α
  cursor : Nat

namespace Outcome

variable {ε δ α β γ : Type}

/-- The outcome of an operation that gives `value`. -/
def success (value : α) (cursor : Nat) : Outcome ε α :=
  ⟨.ok value, cursor⟩

/-- The outcome of an operation that fails. -/
def failure (cause : ε) (cursor : Nat) : Outcome ε α :=
  ⟨.error cause, cursor⟩

/-- The outcome with a function applied to the result. -/
def map (f : α → β) (o : Outcome ε α) : Outcome ε β :=
  ⟨o.result.map f, o.cursor⟩

/-- The outcome with a function applied to the cause of a failure. -/
def mapError (f : ε → δ) (o : Outcome ε α) : Outcome δ α :=
  ⟨o.result.mapError f, o.cursor⟩

@[simp]
theorem map_id_fun (o : Outcome ε α) :
  o.map (fun value => value) = o
  := by
  obtain ⟨_ | _, _⟩ := o <;> rfl

@[simp]
theorem map_map (f : α → β) (g : β → γ) (o : Outcome ε α) :
  (o.map f).map g = o.map fun value => g (f value)
  := by
  obtain ⟨_ | _, _⟩ := o <;> rfl

@[simp]
theorem mapError_map (f : α → β) (g : ε → δ) (o : Outcome ε α) :
  (o.map f).mapError g = (o.mapError g).map f
  := by
  obtain ⟨_ | _, _⟩ := o <;> rfl

end Outcome

end CallForm
