/-!
# Work-lists

A loop over a work-list takes the first item, and puts what the item leads to in front of the
others.  It ends if an item outweighs all that it leads to: then the `total` weight of the
list goes down.
-/

namespace CallForm

variable {α : Type}

/-- The weights of the items of a list, taken together. -/
def total (weight : α → Nat) : List α → Nat
  | [] => 0
  | a :: as => weight a + total weight as

@[simp]
theorem total_nil (weight : α → Nat) :
  total weight [] = 0
  := rfl

@[simp]
theorem total_cons (weight : α → Nat) (a : α) (as : List α) :
  total weight (a :: as) = weight a + total weight as
  := rfl

@[simp]
theorem total_append (weight : α → Nat) (as bs : List α) :
  total weight (as ++ bs) = total weight as + total weight bs
  := by
  induction as with
  | nil => simp
  | cons a as ih =>
      simp only [List.cons_append, total_cons, ih]
      omega

end CallForm
