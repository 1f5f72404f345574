import CallForm.Proofs.Source.Moves

/-!
# Reading and flattening

`parse` is the inverse of `Program.tokens`: a list of tokens is read as the program `p`
exactly when `p` is written as that list.

What has been read at some point of a run, a stack, is itself written as tokens:
`Stack.tokens` lists the finished expressions of the body and then the open calls, each
without its closing parenthesis.  Every step of `programFrom` appends the tokens that it
takes to this list.  Conversely, the tokens of an expression, whatever follows them,
push that expression onto whatever has been read before.
-/

namespace CallForm.Source

theorem tokensOf_append (es fs : List Expr) :
  tokensOf (es ++ fs) = tokensOf es ++ tokensOf fs
  := by
  induction es with
  | nil => rfl
  | cons e es ih => rw [List.cons_append, tokensOf, tokensOf, ih, List.append_assoc]

/-! ### What has been read, as tokens -/

/-- The tokens that have been read of an open call. -/
def OpenCall.tokens (c : OpenCall) : List Token :=
  ⟨.paren, "("⟩ :: ⟨.name, c.name⟩ :: tokensOf c.params.reverse

/-- The tokens that have been read of open calls, the innermost of which comes first. -/
def openTokens : List OpenCall → List Token
  | [] => []
  | c :: outer => openTokens outer ++ c.tokens

/-- The tokens that have been read. -/
def Stack.tokens (s : Stack) : List Token :=
  tokensOf s.body.reverse ++ openTokens s.calls

namespace Stack

@[simp]
theorem tokens_empty :
  empty.tokens = []
  := rfl

/-- A finished expression adds its tokens. -/
@[simp]
theorem tokens_push (e : Expr) (s : Stack) :
  (s.push e).tokens = s.tokens ++ e.tokens
  := by
  obtain ⟨body, _ | ⟨c, outer⟩⟩ := s
  · simp [push, Stack.tokens, openTokens, tokensOf_append, tokensOf]
  · simp [push, Stack.tokens, openTokens, OpenCall.tokens, tokensOf_append, tokensOf]

/-- A call that is opened adds its parenthesis and its name. -/
@[simp]
theorem tokens_openCall (name : String) (s : Stack) :
  (s.openCall name).tokens = s.tokens ++ [⟨.paren, "("⟩, ⟨.name, name⟩]
  := by
  simp [openCall, Stack.tokens, openTokens, OpenCall.tokens, tokensOf]

/-- A call that is closed adds its parenthesis. -/
theorem tokens_closeCall? {s closed : Stack} (h : s.closeCall? = some closed) :
  closed.tokens = s.tokens ++ [⟨.paren, ")"⟩]
  := by
  obtain ⟨body, _ | ⟨c, outer⟩⟩ := s
  · cases h
  · obtain rfl := Option.some.inj h
    rw [tokens_push]
    simp [Stack.tokens, openTokens, OpenCall.tokens, Expr.tokens]

/-- A program that has been read is written as the tokens that have been read. -/
theorem tokens_program? {s : Stack} {p : Program} (h : s.program? = some p) :
  p.tokens = s.tokens
  := by
  obtain ⟨body, _ | ⟨c, outer⟩⟩ := s
  · obtain rfl := Option.some.inj h
    simp [Program.tokens, Stack.tokens, openTokens]
  · cases h

/-- Finished expressions are pushed one after the other. -/
def pushAll : List Expr → Stack → Stack
  | [], s => s
  | e :: es, s => pushAll es (s.push e)

/-- Expressions that follow one another go into the innermost open call. -/
theorem pushAll_cons (es body : List Expr) (c : OpenCall) (outer : List OpenCall) :
  pushAll es ⟨body, c :: outer⟩ = ⟨body, ⟨c.name, es.reverse ++ c.params⟩ :: outer⟩
  := by
  induction es generalizing c with
  | nil => rfl
  | cons e es ih =>
      rw [pushAll, push, ih]
      simp

/-- Expressions that follow one another go into the body, if no call is open. -/
theorem pushAll_nil (es body : List Expr) :
  pushAll es ⟨body, []⟩ = ⟨es.reverse ++ body, []⟩
  := by
  induction es generalizing body with
  | nil => rfl
  | cons e es ih =>
      rw [pushAll, push, ih]
      simp

/-- A call that is opened, filled with parameters and closed is one finished expression. -/
theorem closeCall?_pushAll (name : String) (params : List Expr) (s : Stack) :
  (pushAll params (s.openCall name)).closeCall? = some (s.push (.call name params))
  := by
  rw [openCall, pushAll_cons]
  simp [closeCall?]

end Stack

/-! ### Nothing but flattenings is read -/

/-- The tokens that are taken are added to what has been read. -/
theorem Takes.tokens_eq {read next : Stack} {front : List Token} (h : Takes read front next) :
  next.tokens = read.tokens ++ front
  := by
  cases h with
  | number text => rw [Stack.tokens_push, Expr.tokens]
  | string text => rw [Stack.tokens_push, Expr.tokens]
  | opening name => rw [Stack.tokens_openCall]
  | closing hclosed => rw [Stack.tokens_closeCall? hclosed]

/-- The tokens of a program that has been read are the tokens read before and the
tokens taken. -/
theorem tokens_of_programFrom
    {pos : Nat} {read : Stack} {ts : List Token} {p : Program}
    (h : (programFrom pos read ts).result = .ok p) :
  p.tokens = read.tokens ++ ts
  := by
  induction read, ts using parsingInduction generalizing pos with
  | finish read =>
      rw [programFrom] at h
      cases hq : read.program? with
      | some q =>
          rw [hq] at h
          obtain rfl := Except.ok.inj h
          rw [Stack.tokens_program? hq, List.append_nil]
      | none =>
          rw [hq] at h
          cases h
  | openEnd read =>
      rw [programFrom_openEnd] at h
      cases h
  | takes read front next rest hfront ih =>
      rw [programFrom_takes pos hfront] at h
      rw [ih h, hfront.tokens_eq, List.append_assoc]
  | refuses read front t rest ht =>
      rw [programFrom_refuses pos ht] at h
      cases h

/-- A program is written as the tokens that it was read from. -/
theorem tokens_of_parse {ts : List Token} {p : Program} (h : parse ts = .ok p) :
  p.tokens = ts
  := by
  rw [tokens_of_programFrom h, Stack.tokens_empty, List.nil_append]

/-! ### Every flattening is read -/

mutual

/-- The tokens of an expression push it onto what has been read. -/
theorem programFrom_tokens (pos : Nat) (read : Stack) (rest : List Token) :
    ∀ e : Expr, programFrom pos read (e.tokens ++ rest)
      = programFrom (pos + e.tokens.length) (read.push e) rest
  | .number text => rfl
  | .string text => rfl
  | .call name params => by
      have hopen : Takes read [⟨.paren, "("⟩, ⟨.name, name⟩] (read.openCall name) :=
        .opening name
      have hclose : Takes (.pushAll params (read.openCall name)) [⟨.paren, ")"⟩]
          (read.push (.call name params)) := .closing (Stack.closeCall?_pushAll name params read)
      have htokens : (Expr.call name params).tokens ++ rest
          = [⟨.paren, "("⟩, ⟨.name, name⟩] ++ (tokensOf params ++ ([⟨.paren, ")"⟩] ++ rest)) := by
        simp [Expr.tokens]
      have hlength : pos + (Expr.call name params).tokens.length
          = pos + 2 + (tokensOf params).length + 1 := by
        simp only [Expr.tokens, List.length_cons, List.length_append, List.length_nil]
        omega
      rw [htokens, programFrom_takes pos hopen, programFrom_tokensOf,
        programFrom_takes _ hclose, hlength]
      rfl

/-- The tokens of expressions push one after the other onto what has been read. -/
theorem programFrom_tokensOf (pos : Nat) (read : Stack) (rest : List Token) :
    ∀ es : List Expr, programFrom pos read (tokensOf es ++ rest)
      = programFrom (pos + (tokensOf es).length) (.pushAll es read) rest
  | [] => rfl
  | e :: es => by
      rw [tokensOf, List.append_assoc, programFrom_tokens, programFrom_tokensOf,
        List.length_append, Nat.add_assoc, Stack.pushAll]

end

/-- The tokens of a program are read as that program. -/
theorem parse_tokens (p : Program) :
  parse p.tokens = .ok p
  := by
  have h := programFrom_tokensOf 0 .empty [] p.body
  rw [List.append_nil, Stack.empty, Stack.pushAll_nil] at h
  rw [parse, Program.tokens, Stack.empty, h]
  simp [programFrom, Stack.program?, Outcome.success]

/-- A program is determined by its tokens. -/
theorem Program.tokens_injective {p q : Program} (h : p.tokens = q.tokens) :
  p = q
  := by
  have hp := parse_tokens p
  rw [h, parse_tokens q] at hp
  apply (Except.ok.inj hp).symm

/-- A list of tokens is read as a program exactly when it is the flattening of that
program. -/
theorem parse_eq_ok_iff (ts : List Token) (p : Program) :
  parse ts = .ok p ↔ p.tokens = ts
  := by
  constructor
  · apply tokens_of_parse
  · rintro rfl
    apply parse_tokens

end CallForm.Source
