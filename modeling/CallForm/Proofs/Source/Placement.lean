import CallForm.Proofs.Outcome.Shift
import CallForm.Proofs.Source.Flattening
import CallForm.Proofs.Source.Moves
import Mathlib.Tactic.Use

/-!
# Tokens behind a program

How tokens are read where a program stands in front of them.  No call is open behind a
program, so the tokens are read as if they stood by themselves: the expressions of the
program come first in the body, and only positions move.
-/

namespace CallForm.Source

/-- A program with finished expressions put in front of its body. -/
def Program.behind (es : List Expr) (p : Program) : Program :=
  ⟨es ++ p.body⟩

/-- What has been read, with finished expressions put in front of it. -/
def Stack.behind (es : List Expr) (s : Stack) : Stack :=
  ⟨s.body ++ es.reverse, s.calls⟩

variable (es : List Expr)

namespace Stack

theorem push_behind (e : Expr) (s : Stack) :
  (s.behind es).push e = (s.push e).behind es
  := by
  obtain ⟨body, _ | ⟨c, outer⟩⟩ := s <;> rfl

theorem closeCall?_behind (s : Stack) :
  (s.behind es).closeCall? = s.closeCall?.map (·.behind es)
  := by
  obtain ⟨body, _ | ⟨c, outer⟩⟩ := s
  · rfl
  · show some (push _ (Stack.behind es ⟨body, outer⟩)) = _
    rw [push_behind]
    rfl

theorem program?_behind (s : Stack) :
  (s.behind es).program? = s.program?.map (·.behind es)
  := by
  obtain ⟨body, _ | ⟨c, outer⟩⟩ := s
  · simp [behind, program?, Program.behind]
  · rfl

end Stack

/-- What is in front of the body has no part in a move. -/
theorem Takes.behind {read next : Stack} {front : List Token} (h : Takes read front next) :
  Takes (read.behind es) front (next.behind es)
  := by
  cases h with
  | number text =>
      rw [← Stack.push_behind]
      apply Takes.number
  | string text =>
      rw [← Stack.push_behind]
      apply Takes.string
  | opening name => apply Takes.opening
  | closing hclosed =>
      apply Takes.closing
      rw [Stack.closeCall?_behind, hclosed]
      rfl

/-- What is in front of the body does not let a token stand where it cannot. -/
theorem Refuses.behind {read : Stack} {front : List Token} {t : Token} (h : Refuses read front t) :
  Refuses (read.behind es) front t
  := by
  cases h with
  | name text => apply Refuses.name
  | unnamed ht => apply Refuses.unnamed ht
  | closing hclosed =>
      apply Refuses.closing
      rw [Stack.closeCall?_behind, hclosed]
      rfl
  | paren hopen hclose => apply Refuses.paren hopen hclose

/-- Wherever tokens begin, and whatever finished expressions stand in front of them, they
are read in the same way. -/
theorem programFrom_behind (pos k : Nat) (read : Stack) (ts : List Token) :
  programFrom (pos + k) (read.behind es) ts
    = (((programFrom pos read ts).map (·.behind es)).mapError (·.shift 0 k)).onward k
  := by
  induction read, ts using parsingInduction generalizing pos with
  | finish read =>
      rw [programFrom, programFrom, Stack.program?_behind]
      cases read.program? <;> rfl
  | openEnd read =>
      rw [programFrom_openEnd, programFrom_openEnd, Nat.add_right_comm]
      rfl
  | takes read front next rest hfront ih =>
      rw [programFrom_takes _ hfront, programFrom_takes _ (hfront.behind es), Nat.add_right_comm, ih]
  | refuses read front t rest ht =>
      rw [programFrom_refuses _ ht, programFrom_refuses _ (ht.behind es), Nat.add_right_comm,
        Int.natCast_add]
      rfl

/-- The tokens of a program and the tokens behind them are read as the program and what
those are read as. -/
theorem parse_append (p : Program) (ts : List Token) :
  parse (p.tokens ++ ts)
    = ((parse ts).map (·.behind p.body)).mapError (·.shift 0 p.tokens.length)
  := by
  have hprogram := programFrom_tokensOf 0 .empty ts p.body
  have hread : Stack.pushAll p.body .empty = Stack.empty.behind p.body := by
    rw [Stack.empty, Stack.pushAll_nil, List.append_nil]
    rfl
  rw [hread, programFrom_behind] at hprogram
  rw [parse, Program.tokens, hprogram]
  rfl

/-- Reading fails at the end of the tokens or at a token, whose place is counted from where
the tokens begin. -/
theorem failure_of_programFrom {pos : Nat} {read : Stack} {ts : List Token} {e : CompileError}
    (h : (programFrom pos read ts).result = .error e) :
  e = .unexpectedEnd ∨ ∃ front t rest, ts = front ++ t :: rest
    ∧ e = .unexpectedToken t.text (pos + front.length : Nat)
  := by
  induction read, ts using parsingInduction generalizing pos with
  | finish read =>
      left
      apply eq_unexpectedEnd_of_finish pos h
  | openEnd read =>
      rw [programFrom_openEnd] at h
      left
      apply (Except.error.inj h).symm
  | takes read front next rest hfront ih =>
      rw [programFrom_takes pos hfront] at h
      obtain hend | ⟨more, t, tail, rfl, rfl⟩ := ih h
      · left
        apply hend
      · right
        use front ++ more, t, tail
        rw [List.append_assoc, List.length_append, Nat.add_assoc]
        exact ⟨rfl, rfl⟩
  | refuses read front t rest ht =>
      rw [programFrom_refuses pos ht] at h
      right
      use front, t, rest, rfl
      apply (Except.error.inj h).symm

end CallForm.Source
