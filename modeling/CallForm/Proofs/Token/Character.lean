import CallForm.Token
import CallForm.Token.Lexeme

/-!
# Characters of lexemes

How lexemes begin and how they go on.  The first character of a lexeme tells its kind: a
parenthesis, a letter, a digit or a double quote.  Only names and numbers go on for as
long as they can, and neither a blank nor the beginning of a lexeme of another kind
continues them.
-/

namespace CallForm

open Text

/-- `Begins k c`: a lexeme of kind `k` may begin with `c`. -/
def Begins (k : TokenKind) (c : Char) : Prop :=
  match k with
  | .paren => c = '(' ∨ c = ')'
  | .name => isLetter c
  | .number => c.isDigit
  | .string => c = '"'

/-- `Continues k c`: a lexeme of kind `k` goes on with `c` if `c` comes next. -/
def Continues (k : TokenKind) (c : Char) : Prop :=
  match k with
  | .paren => False
  | .name => isLetter c ∨ c = '_'
  | .number => c.isDigit ∨ c = '.'
  | .string => False

instance (k : TokenKind) (c : Char) : Decidable (Begins k c) :=
  match k with
  | .paren => inferInstanceAs (Decidable (c = '(' ∨ c = ')'))
  | .name => inferInstanceAs (Decidable (isLetter c))
  | .number => inferInstanceAs (Decidable c.isDigit)
  | .string => inferInstanceAs (Decidable (c = '"'))

instance (k : TokenKind) (c : Char) : Decidable (Continues k c) :=
  match k with
  | .paren => inferInstanceAs (Decidable False)
  | .name => inferInstanceAs (Decidable (isLetter c ∨ c = '_'))
  | .number => inferInstanceAs (Decidable (c.isDigit ∨ c = '.'))
  | .string => inferInstanceAs (Decidable False)

theorem isNameChar_iff (c : Char) :
  isNameChar c ↔ Continues .name c
  := by
  simp [isNameChar, Continues]

theorem isNumberChar_iff (c : Char) :
  isNumberChar c ↔ Continues .number c
  := by
  simp [isNumberChar, Continues]

/-! ### Code points -/

/-- The code points of the blanks. -/
def blankPoints : List Nat :=
  [0x9, 0xA, 0xB, 0xC, 0xD, 0x20, 0x85, 0xA0, 0x1680, 0x2000, 0x2001, 0x2002, 0x2003,
   0x2004, 0x2005, 0x2006, 0x2007, 0x2008, 0x2009, 0x200A, 0x2028, 0x2029, 0x202F, 0x205F,
   0x3000]

theorem toNat_of_isBlank {c : Char} (h : isBlank c) :
  c.toNat ∈ blankPoints
  := by
  simp [isBlank, blanks, Ranges.covers] at h
  simp only [blankPoints, List.mem_cons, List.not_mem_nil, or_false]
  omega

theorem toNat_of_isDigit {c : Char} (h : c.isDigit) :
  0x30 ≤ c.toNat ∧ c.toNat ≤ 0x39
  := by
  obtain ⟨hlow, hhigh⟩ := Bool.and_eq_true_iff.mp h
  constructor
  · apply of_decide_eq_true hlow
  · apply of_decide_eq_true hhigh

theorem covers_of_mem_blankPoints :
  ∀ n ∈ blankPoints, letters.covers n = false
  := by
  decide +kernel

/-- A letter is no blank and no underscore, and none comes before `A`. -/
theorem toNat_of_isLetter {c : Char} (h : isLetter c) :
  0x41 ≤ c.toNat ∧ c.toNat ≠ 0x5F ∧ c.toNat ∉ blankPoints
  := by
  rw [isLetter] at h
  refine ⟨?_, ?_, ?_⟩
  · apply Nat.le_of_not_lt
    intro hlt
    rw [letters, Ranges.covers, if_pos hlt] at h
    cases h
  · intro heq
    rw [heq] at h
    revert h
    decide
  · intro hmem
    rw [covers_of_mem_blankPoints _ hmem] at h
    cases h

/-! ### Blanks and kinds of lexemes -/

/-- No blank continues a lexeme. -/
theorem not_continues_of_isBlank {c : Char} (h : isBlank c) (k : TokenKind) :
  ¬Continues k c
  := by
  have hblank := toNat_of_isBlank h
  cases k with
  | paren => apply id
  | string => apply id
  | name =>
      rintro (hletter | rfl)
      · apply (toNat_of_isLetter hletter).2.2 hblank
      · revert h
        decide
  | number =>
      rintro (hdigit | rfl)
      · have hbounds := toNat_of_isDigit hdigit
        simp only [blankPoints, List.mem_cons, List.not_mem_nil, or_false] at hblank
        omega
      · revert h
        decide

namespace Begins

/-- What begins a name or a number also continues one. -/
theorem continues {k : TokenKind} {c : Char} (h : Begins k c) (hk : k = .name ∨ k = .number) :
  Continues k c
  := by
  rcases hk with rfl | rfl
  · apply Or.inl h
  · apply Or.inl h

/-- What begins a lexeme of one kind does not continue one of another kind. -/
theorem not_continues {j k : TokenKind} {c : Char} (h : Begins j c) (hjk : j ≠ k) :
  ¬Continues k c
  := by
  cases j with
  | paren => rcases h with rfl | rfl <;> cases k <;> decide
  | string =>
      obtain rfl : c = '"' := h
      cases k <;> decide
  | name =>
      have hbound := (toNat_of_isLetter h).1
      cases k with
      | paren => apply id
      | name => contradiction
      | string => apply id
      | number =>
          rintro (hdigit | rfl)
          · have := (toNat_of_isDigit hdigit).2
            omega
          · simp at hbound
  | number =>
      have hbounds := toNat_of_isDigit h
      cases k with
      | paren => apply id
      | number => contradiction
      | string => apply id
      | name =>
          rintro (hletter | rfl)
          · have := (toNat_of_isLetter hletter).1
            omega
          · simp at hbounds

/-- No blank begins a lexeme. -/
theorem not_isBlank {k : TokenKind} {c : Char} (h : Begins k c) :
  ¬isBlank c
  := by
  intro hblank
  cases k with
  | paren => rcases h with rfl | rfl <;> revert hblank <;> decide
  | name => apply not_continues_of_isBlank hblank .name (h.continues (Or.inl rfl))
  | number => apply not_continues_of_isBlank hblank .number (h.continues (Or.inr rfl))
  | string =>
      obtain rfl : c = '"' := h
      revert hblank
      decide

/-- The first character of a lexeme tells its kind. -/
theorem unique {j k : TokenKind} {c : Char} (hj : Begins j c) (hk : Begins k c) :
  j = k
  := by
  cases j with
  | paren => rcases hj with rfl | rfl <;> revert hk <;> cases k <;> decide
  | string =>
      obtain rfl : c = '"' := hj
      revert hk
      cases k <;> decide
  | name =>
      apply Decidable.byContradiction
      intro hne
      apply hk.not_continues (Ne.symm hne) (hj.continues (Or.inl rfl))
  | number =>
      apply Decidable.byContradiction
      intro hne
      apply hk.not_continues (Ne.symm hne) (hj.continues (Or.inr rfl))

/-- What begins a lexeme of one kind begins none of another kind. -/
theorem not_begins {j k : TokenKind} {c : Char} (h : Begins j c) (hjk : j ≠ k) :
  ¬Begins k c
  := by
  intro hk
  apply hjk (h.unique hk)

end Begins

end CallForm
