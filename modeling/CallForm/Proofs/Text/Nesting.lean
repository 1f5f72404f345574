import Mathlib.Data.List.Infix
import Mathlib.Tactic.Use

/-!
# Nested parentheses

The parentheses of a text are balanced if every closing one closes an opening one before
it, and none is left open at the end.  `Nested d cs` says this of `cs`, and that `d` is the
greatest number of parentheses that are open at a time.  The other characters of a text do
not matter.
-/

namespace CallForm.Text

/-- Whether a character is a parenthesis. -/
def isParenthesis (c : Char) : Bool :=
  c = '(' || c = ')'

/-- The number of parentheses that are open at the end of a text. -/
def level (cs : List Char) : Int :=
  cs.count '(' - cs.count ')'

theorem level_nil :
  level [] = 0
  := rfl

theorem level_append (cs ds : List Char) :
  level (cs ++ ds) = level cs + level ds
  := by
  simp only [level, List.count_append]
  omega

/-- Only parentheses change the level. -/
theorem level_filter (cs : List Char) :
  level (cs.filter isParenthesis) = level cs
  := by
  rw [level, level, List.count_filter rfl, List.count_filter rfl]

/-- `Nested d cs`: the parentheses of `cs` are balanced and nested to the depth `d`. -/
structure Nested (d : Nat) (cs : List Char) : Prop where
  /-- No parenthesis is left open. -/
  closed : level cs = 0
  /-- Along the way, no parenthesis is closed that is not open, and at most `d` are open. -/
  bounds : ∀ front, front <+: cs → 0 ≤ level front ∧ level front ≤ d
  /-- Somewhere `d` parentheses are open. -/
  reached : ∃ front, front <+: cs ∧ level front = d

namespace Nested

theorem nil :
  Nested 0 []
  := by
  refine ⟨rfl, ?_, [], List.prefix_rfl, rfl⟩
  intro front hfront
  rw [List.prefix_nil.mp hfront, level_nil]
  omega

/-- The depth of two texts, one behind the other, is the greater one of their depths. -/
theorem append {d e : Nat} {cs ds : List Char} (hcs : Nested d cs) (hds : Nested e ds) :
  Nested (max d e) (cs ++ ds)
  := by
  refine ⟨?_, ?_, ?_⟩
  · rw [level_append, hcs.closed, hds.closed, Int.add_zero]
  · intro front hfront
    have hsplit := List.prefix_or_prefix_of_prefix hfront (List.prefix_append cs ds)
    rcases hsplit with hleft | ⟨tail, rfl⟩
    · have := hcs.bounds front hleft
      omega
    · have := hds.bounds tail ((List.prefix_append_right_inj cs).mp hfront)
      rw [level_append, hcs.closed]
      omega
  · rcases le_total e d with hle | hle
    · obtain ⟨front, hfront, hlevel⟩ := hcs.reached
      use front, hfront.trans (List.prefix_append cs ds)
      rw [hlevel, max_eq_left hle]
    · obtain ⟨front, hfront, hlevel⟩ := hds.reached
      use cs ++ front, (List.prefix_append_right_inj cs).mpr hfront
      rw [level_append, hcs.closed, hlevel, max_eq_right hle, Int.zero_add]

/-- Parentheses around a text make it deeper by one. -/
theorem enclose {d : Nat} {cs : List Char} (h : Nested d cs) :
  Nested (d + 1) ('(' :: (cs ++ [')']))
  := by
  have hopen : ∀ ds, level ('(' :: ds) = 1 + level ds := level_append ['(']
  have hclose : level [')'] = -1 := rfl
  refine ⟨?_, ?_, ?_⟩
  · rw [hopen, level_append, h.closed, hclose]
    rfl
  · intro front hfront
    rcases List.prefix_cons_iff.mp hfront with rfl | ⟨inner, rfl, hinner⟩
    · rw [level_nil]
      omega
    · rw [hopen]
      rcases List.prefix_concat_iff.mp hinner with rfl | hinner
      · rw [level_append, h.closed, hclose]
        omega
      · have := h.bounds inner hinner
        omega
  · obtain ⟨front, hfront, hlevel⟩ := h.reached
    use '(' :: front
    constructor
    · rw [List.cons_prefix_cons]
      exact ⟨rfl, hfront.trans (List.prefix_append cs _)⟩
    · rw [hopen, hlevel]
      omega

/-- A text with the same parentheses is nested to the same depth. -/
theorem of_filter_eq {d : Nat} {cs ds : List Char} (h : Nested d cs)
    (heq : cs.filter isParenthesis = ds.filter isParenthesis) :
  Nested d ds
  := by
  refine ⟨?_, ?_, ?_⟩
  · rw [← level_filter, ← heq, level_filter, h.closed]
  · intro front hfront
    have hparens : front.filter isParenthesis <+: cs.filter isParenthesis := by
      rw [heq]
      apply hfront.filter
    obtain ⟨other, hother, hfilter⟩ := List.prefix_filter_iff.mp hparens
    rw [← level_filter front, hfilter, level_filter]
    apply h.bounds other hother
  · obtain ⟨front, hfront, hlevel⟩ := h.reached
    have hparens : front.filter isParenthesis <+: ds.filter isParenthesis := by
      rw [← heq]
      apply hfront.filter
    obtain ⟨other, hother, hfilter⟩ := List.prefix_filter_iff.mp hparens
    use other, hother
    rw [← level_filter, ← hfilter, level_filter, hlevel]

end Nested

end CallForm.Text
