import CallForm.Proofs.Source.Continuation
import CallForm.Proofs.Source.Placement

/-!
# Where reading a program fails

A list of tokens is viable if the tokens of some program begin with it.  Reading fails at the
first token with which the list is no longer viable, and if the list is viable but not all of
a program, it fails at the end.

What has been read is viable at every point of a run, for the open calls can be closed.  And no
program begins with a token that is refused, for the tokens of a program are read to their end.
-/

namespace CallForm.Source

/-- The tokens of some program begin with the given ones. -/
def Viable (ts : List Token) : Prop :=
  ∃ p : Program, ts <+: p.tokens

/-- The tokens of a program are viable. -/
theorem Program.viable_tokens (p : Program) :
  Viable p.tokens
  := ⟨p, List.prefix_rfl⟩

/-- What viable tokens begin with is viable. -/
theorem Viable.of_prefix {ts us : List Token} (h : Viable us) (hts : ts <+: us) :
  Viable ts
  := by
  obtain ⟨p, hp⟩ := h
  exact ⟨p, hts.trans hp⟩

namespace Stack

/-- What has been read is a program, if no call is open. -/
theorem exists_program? {s : Stack} (h : s.depth = 0) :
  ∃ p, s.program? = some p
  := by
  obtain ⟨body, _ | ⟨c, outer⟩⟩ := s
  · exact ⟨_, rfl⟩
  · cases h

/-- What has been read is viable: closing all open calls makes it the tokens of a program. -/
theorem viable_tokens (s : Stack) :
  Viable s.tokens
  := by
  induction hd : s.depth generalizing s with
  | zero =>
      obtain ⟨p, hp⟩ := exists_program? hd
      rw [← tokens_program? hp]
      apply p.viable_tokens
  | succ d ih =>
      obtain ⟨closed, hclosed⟩ := s.exists_closeCall? (by omega)
      have hdepth := depth_closeCall? hclosed
      have hviable := ih closed (by omega)
      rw [tokens_closeCall? hclosed] at hviable
      apply hviable.of_prefix (List.prefix_append _ _)

/-- What has been read is viable with an opening parenthesis behind it. -/
theorem viable_tokens_open (s : Stack) :
  Viable (s.tokens ++ [⟨.paren, "("⟩])
  := by
  have hviable := (s.openCall "").viable_tokens
  rw [tokens_openCall] at hviable
  apply hviable.of_prefix
  use [⟨.name, ""⟩]
  simp

end Stack

/-- What stands before a token that is refused is viable. -/
theorem Refuses.viable {read : Stack} {front : List Token} {t : Token}
    (h : Refuses read front t) :
  Viable (read.tokens ++ front)
  := by
  cases h with
  | name text => simpa using read.viable_tokens
  | unnamed ht => apply read.viable_tokens_open
  | closing hclosed => simpa using read.viable_tokens
  | paren hopen hclose => simpa using read.viable_tokens

/-- Tokens that only end too early are viable, and have all been read. -/
theorem viable_of_unexpectedEnd {pos : Nat} {read : Stack} {ts : List Token}
    (h : (programFrom pos read ts).result = .error .unexpectedEnd) :
  Viable (read.tokens ++ ts) ∧ (programFrom pos read ts).cursor = pos + ts.length
  := by
  induction read, ts using parsingInduction generalizing pos with
  | finish read =>
      constructor
      · simpa using read.viable_tokens
      · rw [programFrom]
        cases read.program? <;> rfl
  | openEnd read =>
      constructor
      · apply read.viable_tokens_open
      · rw [programFrom_openEnd]
        rfl
  | takes read front next rest hfront ih =>
      rw [programFrom_takes pos hfront] at h ⊢
      rw [← List.append_assoc, ← hfront.tokens_eq, List.length_append, ← Nat.add_assoc]
      apply ih h
  | refuses read front t rest ht =>
      rw [programFrom_refuses pos ht] at h
      cases h

/-- An unexpected token is reported with its text and its place, where the cursor stays.  What
stands before it is viable, and the token is unexpected without what stands behind it, too. -/
theorem exists_of_unexpectedToken {pos : Nat} {read : Stack} {ts : List Token} {text : String}
    {n : Int} (h : (programFrom pos read ts).result = .error (.unexpectedToken text n)) :
  ∃ front t rest, ts = front ++ t :: rest ∧ text = t.text ∧ n = (pos + front.length : Nat)
    ∧ (programFrom pos read ts).cursor = pos + front.length
    ∧ Viable (read.tokens ++ front)
    ∧ (programFrom pos read (front ++ [t])).result = .error (.unexpectedToken text n)
  := by
  induction read, ts using parsingInduction generalizing pos with
  | finish read => cases eq_unexpectedEnd_of_finish pos h
  | openEnd read =>
      rw [programFrom_openEnd] at h
      cases h
  | takes read front next rest hfront ih =>
      rw [programFrom_takes pos hfront] at h ⊢
      obtain ⟨more, t, tail, rfl, htext, hn, hcursor, hviable, hlast⟩ := ih h
      rw [Nat.add_assoc, ← List.length_append] at hn hcursor
      rw [hfront.tokens_eq, List.append_assoc] at hviable
      rw [← programFrom_takes pos hfront, ← List.append_assoc] at hlast
      exact ⟨front ++ more, t, tail, (List.append_assoc _ _ _).symm, htext, hn, hcursor, hviable,
        hlast⟩
  | refuses read front t rest ht =>
      rw [programFrom_refuses pos ht] at h ⊢
      obtain ⟨rfl, rfl⟩ := CompileError.unexpectedToken.inj (Except.error.inj h)
      use front, t, rest
      rw [programFrom_refuses pos ht]
      exact ⟨rfl, rfl, rfl, rfl, ht.viable, rfl⟩

/-- No program begins with tokens of which one is unexpected. -/
theorem not_viable_of_unexpectedToken {ts : List Token} {text : String} {n : Int}
    (h : parse ts = .error (.unexpectedToken text n)) :
  ¬Viable ts
  := by
  rintro ⟨p, more, hp⟩
  have hmore := programFrom_append_of_unexpectedToken h more
  have hparse := parse_tokens p
  rw [← hp, parse, hmore] at hparse
  rw [parse, hparse] at h
  cases h

/-- A list of tokens holds an unexpected token exactly if no program begins with it. -/
theorem unexpectedToken_iff_not_viable {ts : List Token} :
  (∃ text n, parse ts = .error (.unexpectedToken text n)) ↔ ¬Viable ts
  := by
  constructor
  · rintro ⟨text, n, h⟩
    apply not_viable_of_unexpectedToken h
  · intro hviable
    cases h : parse ts with
    | ok p =>
        absurd hviable
        rw [← tokens_of_parse h]
        apply p.viable_tokens
    | error e =>
        obtain rfl | ⟨front, t, rest, -, rfl⟩ := failure_of_programFrom h
        · absurd hviable
          apply (viable_of_unexpectedEnd h).1
        · exact ⟨_, _, rfl⟩

/-- A list of tokens ends too early exactly if programs begin with it and none is written as
it. -/
theorem unexpectedEnd_iff_viable {ts : List Token} :
  parse ts = .error .unexpectedEnd ↔ Viable ts ∧ ∀ p : Program, p.tokens ≠ ts
  := by
  constructor
  · intro h
    constructor
    · apply (viable_of_unexpectedEnd h).1
    · intro p hp
      rw [(parse_eq_ok_iff ts p).mpr hp] at h
      cases h
  · rintro ⟨hviable, hnone⟩
    cases h : parse ts with
    | ok p =>
        absurd hnone p
        apply tokens_of_parse h
    | error e =>
        obtain rfl | ⟨front, t, rest, -, rfl⟩ := failure_of_programFrom h
        · rfl
        · absurd hviable
          apply not_viable_of_unexpectedToken h

/-- Reading a list of tokens fails at a token exactly if no program begins with the tokens.
Then the token is the first one with which no program begins, the error tells its text and
place, and the cursor stays there.  Reading fails at the end exactly if some program begins with
the tokens but none is written with just them, and then the cursor is at the end. -/
theorem parse_fails_earliest (ts : List Token) :
  ((∃ text n, parse ts = .error (.unexpectedToken text n)) ↔ ¬Viable ts)
  ∧ (∀ text n, parse ts = .error (.unexpectedToken text n) →
    ∃ (i : Nat) (t : Token), ts[i]? = some t ∧ text = t.text ∧ n = i
      ∧ (Parser.program ⟨ts, 0⟩).cursor = i
      ∧ ¬Viable (ts.take (i + 1)) ∧ ∀ j < i, Viable (ts.take (j + 1)))
  ∧ (parse ts = .error .unexpectedEnd ↔ Viable ts ∧ ∀ p : Program, p.tokens ≠ ts)
  ∧ (parse ts = .error .unexpectedEnd → (Parser.program ⟨ts, 0⟩).cursor = ts.length)
  := by
  refine ⟨unexpectedToken_iff_not_viable, ?_, unexpectedEnd_iff_viable, ?_⟩
  · intro text n h
    obtain ⟨front, t, rest, rfl, htext, hn, hcursor, hviable, hlast⟩ := exists_of_unexpectedToken h
    rw [Nat.zero_add] at hn hcursor
    have htake : (front ++ t :: rest).take (front.length + 1) = front ++ [t] := by
      rw [← List.singleton_append, ← List.append_assoc]
      apply List.take_left'
      rw [List.length_append, List.length_singleton]
    refine ⟨front.length, t, by simp, htext, hn, hcursor, ?_, ?_⟩
    · rw [htake]
      apply not_viable_of_unexpectedToken hlast
    · intro j hj
      apply hviable.of_prefix
      rw [Stack.tokens_empty, List.nil_append, List.take_append_of_le_length hj]
      apply List.take_prefix
  · intro h
    rw [← Nat.zero_add ts.length]
    apply (viable_of_unexpectedEnd h).2

-- Parentheses of other shapes have the kind of a parenthesis, but no program holds one.
example : parse [⟨.paren, "("⟩, ⟨.name, "f"⟩, ⟨.paren, "["⟩] = .error (.unexpectedToken "[" 2) := by
  rfl

end CallForm.Source
