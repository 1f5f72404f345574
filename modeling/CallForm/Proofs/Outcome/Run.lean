import CallForm.Proofs.Outcome.Shift
import Mathlib.Data.List.Chain

/-!
# Runs of steps

Steps are performed one after the other on a cursor.  Each of them begins where the one before
it has left the cursor, also where that one has failed, and nothing else is handed on: if
`perform n s` is what the step `s` gives from the cursor `n` on, then `run perform n steps` is
what the steps give, and `cursorAfter perform n steps` is where they leave the cursor.

What one step does to the cursor, all steps do.  If each step gives the same on a longer input,
moved on, so does a run, `run_add`; and if each step moves the cursor forward within a bound, the
cursor never leaves it, `Forward.run`.
-/

namespace CallForm.Outcome

variable {σ ε α : Type}

/-- What steps give from a cursor on. -/
def run (perform : Nat → σ → Outcome ε α) (n : Nat) : List σ → List (Outcome ε α)
  | [] => []
  | s :: steps => perform n s :: run perform (perform n s).cursor steps

/-- Where steps leave the cursor. -/
def cursorAfter (perform : Nat → σ → Outcome ε α) (n : Nat) : List σ → Nat
  | [] => n
  | s :: steps => cursorAfter perform (perform n s).cursor steps

variable {perform perform' : Nat → σ → Outcome ε α} {n bound : Nat}

/-- Further steps begin where the first ones leave the cursor. -/
theorem run_append (steps more : List σ) :
  run perform n (steps ++ more)
    = run perform n steps ++ run perform (cursorAfter perform n steps) more
  := by
  induction steps generalizing n with
  | nil => rfl
  | cons s steps ih => rw [List.cons_append, run, run, cursorAfter, ih, List.cons_append]

/-- If each step gives what it gives on another input, moved on by `k`, so do all steps. -/
theorem run_add {f : ε → ε} {k : Nat}
    (h : ∀ n s, perform (n + k) s = ((perform' n s).mapError f).onward k) (steps : List σ) :
  run perform (n + k) steps = (run perform' n steps).map fun o => (o.mapError f).onward k
  := by
  induction steps generalizing n with
  | nil => rfl
  | cons s steps ih =>
      have hcursor : (perform (n + k) s).cursor = (perform' n s).cursor + k := by
        rw [h]
        rfl
      rw [run, run, List.map_cons, hcursor, ih, h]

/-! ### Bounds -/

/-- Each step moves the cursor forward, and not beyond the bound. -/
structure Forward (perform : Nat → σ → Outcome ε α) (bound : Nat) : Prop where
  le_cursor (n : Nat) (s : σ) : n ≤ (perform n s).cursor
  cursor_le {n : Nat} (hn : n ≤ bound) (s : σ) : (perform n s).cursor ≤ bound

namespace Forward

/-- All steps move the cursor forward, and not beyond the bound. -/
theorem run (h : Forward perform bound) (hn : n ≤ bound) (steps : List σ) :
  (n :: (Outcome.run perform n steps).map (·.cursor)).IsChain (· ≤ ·)
    ∧ ∀ o ∈ Outcome.run perform n steps, o.cursor ≤ bound
  := by
  induction steps generalizing n with
  | nil => simp [Outcome.run]
  | cons s steps ih =>
      have hstep := h.cursor_le hn s
      obtain ⟨hchain, hbound⟩ := ih hstep
      rw [Outcome.run, List.map_cons, List.isChain_cons_cons, List.forall_mem_cons]
      exact ⟨⟨h.le_cursor n s, hchain⟩, hstep, hbound⟩

end Forward

end CallForm.Outcome
