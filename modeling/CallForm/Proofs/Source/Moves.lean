import CallForm.Source.Parser

/-!
# Reading programs move by move

How `programFrom` goes on, by what stands in front.  Either the first tokens lead from what
has been read to what has been read then, `Takes`, or one of them cannot stand where it
does, `Refuses`, or the tokens end.  There is an equation for each of these moves, and
`parsingInduction` is the induction along them.
-/

namespace CallForm.Source

/-- `Takes read front next`: after what has been read, the tokens `front` lead to `next`. -/
inductive Takes : Stack → List Token → Stack → Prop where
  | number {read : Stack} (text : String) :
    Takes read [⟨.number, text⟩] (read.push (.number text))
  | string {read : Stack} (text : String) :
    Takes read [⟨.string, text⟩] (read.push (.string text))
  | opening {read : Stack} (name : String) :
    Takes read [⟨.paren, "("⟩, ⟨.name, name⟩] (read.openCall name)
  | closing {read closed : Stack} (h : read.closeCall? = some closed) :
    Takes read [⟨.paren, ")"⟩] closed

/-- `Refuses read front t`: after what has been read and the tokens `front`, the token `t`
cannot stand where it does. -/
inductive Refuses (read : Stack) : List Token → Token → Prop where
  /-- A name stands only behind an opening parenthesis. -/
  | name (text : String) : Refuses read [] ⟨.name, text⟩
  /-- Only a name stands behind an opening parenthesis. -/
  | unnamed {t : Token} (ht : t.kind ≠ .name) : Refuses read [⟨.paren, "("⟩] t
  /-- A closing parenthesis needs an open call. -/
  | closing (h : read.closeCall? = none) : Refuses read [] ⟨.paren, ")"⟩
  /-- Other parentheses stand nowhere. -/
  | paren {text : String} (hopen : text ≠ "(") (hclose : text ≠ ")") :
    Refuses read [] ⟨.paren, text⟩

variable {read next : Stack} {front : List Token} (pos : Nat)

theorem programFrom_takes (h : Takes read front next) (rest : List Token) :
  programFrom pos read (front ++ rest) = programFrom (pos + front.length) next rest
  := by
  cases h with
  | number text => rfl
  | string text => rfl
  | opening name =>
      rw [programFrom.eq_def]
      rfl
  | closing hclosed =>
      rw [programFrom.eq_def]
      simp [hclosed]

theorem programFrom_refuses {t : Token} (h : Refuses read front t) (rest : List Token) :
  programFrom pos read (front ++ t :: rest)
    = .failure (.unexpectedToken t.text (pos + front.length : Nat)) (pos + front.length)
  := by
  rw [programFrom.eq_def]
  cases h with
  | name text => rfl
  | unnamed ht => simp [ht]
  | closing hclosed => simp [hclosed]
  | paren hopen hclose => simp [hopen, hclose]

/-- The tokens may not end behind an opening parenthesis. -/
theorem programFrom_openEnd (read : Stack) :
  programFrom pos read [⟨.paren, "("⟩] = .failure .unexpectedEnd (pos + 1)
  := by
  rw [programFrom.eq_def]
  rfl

/-- Where no tokens are left, only a call that is still open is at fault. -/
theorem eq_unexpectedEnd_of_finish {read : Stack} {e : CompileError}
    (h : (programFrom pos read []).result = .error e) :
  e = .unexpectedEnd
  := by
  rw [programFrom] at h
  cases hp : read.program? with
  | some p =>
      rw [hp] at h
      cases h
  | none =>
      rw [hp] at h
      apply (Except.error.inj h).symm

/-- To show a property of all lists of tokens after all that may have been read, it
suffices to show it along the moves. -/
@[elab_as_elim]
theorem parsingInduction {motive : Stack → List Token → Prop}
    (finish : ∀ read, motive read [])
    (openEnd : ∀ read, motive read [⟨.paren, "("⟩])
    (takes : ∀ read front next rest, Takes read front next → motive next rest →
      motive read (front ++ rest))
    (refuses : ∀ read front t rest, Refuses read front t → motive read (front ++ t :: rest))
    (read : Stack) (ts : List Token) :
  motive read ts
  := by
  -- The position is of no account here.
  generalize hpos : 0 = pos
  clear hpos
  fun_induction programFrom pos read ts with
  | case1 pos read => apply finish
  | case2 pos read => apply finish
  | case3 pos read t ts hk ih =>
      obtain ⟨_, text⟩ := t
      obtain rfl := hk
      apply takes _ _ _ _ (.number text) ih
  | case4 pos read t ts hk ih =>
      obtain ⟨_, text⟩ := t
      obtain rfl := hk
      apply takes _ _ _ _ (.string text) ih
  | case5 pos read t ts hk =>
      obtain ⟨_, text⟩ := t
      obtain rfl := hk
      apply refuses _ _ _ _ (.name text)
  | case6 pos read t hk ht =>
      obtain ⟨_, text⟩ := t
      obtain rfl := hk
      obtain rfl := ht
      apply openEnd
  | case7 pos read t hk ht n rest hn ih =>
      obtain ⟨_, text⟩ := t
      obtain rfl := hk
      obtain rfl := ht
      obtain ⟨_, name⟩ := n
      obtain rfl := hn
      apply takes _ _ _ _ (.opening name) ih
  | case8 pos read t hk ht n rest hn =>
      obtain ⟨_, text⟩ := t
      obtain rfl := hk
      obtain rfl := ht
      apply refuses _ _ _ _ (.unnamed hn)
  | case9 pos read t ts hk _ ht closed hc ih =>
      obtain ⟨_, text⟩ := t
      obtain rfl := hk
      obtain rfl := ht
      apply takes _ _ _ _ (.closing hc) ih
  | case10 pos read t ts hk _ ht hc =>
      obtain ⟨_, text⟩ := t
      obtain rfl := hk
      obtain rfl := ht
      apply refuses _ _ _ _ (.closing hc)
  | case11 pos read t ts hk hopen hclose =>
      obtain ⟨_, text⟩ := t
      obtain rfl := hk
      apply refuses _ _ _ _ (.paren hopen hclose)

end CallForm.Source
