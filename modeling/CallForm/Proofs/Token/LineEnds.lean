import CallForm.Proofs.Token.Rounds
import CallForm.Text.Newline

/-!
# Line ends in a text

Unifying the line ends of a text changes nothing but blanks, if no string holds a carriage
return.  So the readers of a text and of the text with unified line ends go the same way: each
round of the first is a round of the second, except that a carriage return with a line feed
behind it costs the second no round.  The second reader gives the same tokens, and where it fails
its cursor is behind that of the first by the number of such pairs.
-/

namespace CallForm

namespace Text

/-- How many carriage returns have a line feed behind them. -/
def linePairs : List Char → Nat
  | [] => 0
  | '\r' :: '\n' :: rest => linePairs rest + 1
  | _ :: rest => linePairs rest

theorem unifyLineEnds_cons {c : Char} (hc : c ≠ '\r') (rest : List Char) :
  unifyLineEnds (c :: rest) = c :: unifyLineEnds rest
  := by
  rw [unifyLineEnds] <;> simp [hc]

/-- A carriage return in front of a line feed leaves no trace. -/
theorem unifyLineEnds_pair (rest : List Char) :
  unifyLineEnds ('\r' :: '\n' :: rest) = unifyLineEnds ('\n' :: rest)
  := by
  rw [unifyLineEnds, unifyLineEnds_cons (by decide)]

theorem unifyLineEnds_return {rest : List Char} (h : rest.head? ≠ some '\n') :
  unifyLineEnds ('\r' :: rest) = '\n' :: unifyLineEnds rest
  := by
  cases rest with
  | nil => rfl
  | cons c rest =>
      rw [unifyLineEnds]
      rintro more ⟨⟩
      apply h rfl

/-- Without a carriage return there is nothing to unify. -/
theorem unifyLineEnds_append {l : List Char} (hl : '\r' ∉ l) (rest : List Char) :
  unifyLineEnds (l ++ rest) = l ++ unifyLineEnds rest
  := by
  induction l with
  | nil => rfl
  | cons c l ih =>
      rw [List.mem_cons, not_or] at hl
      rw [List.cons_append, unifyLineEnds_cons (Ne.symm hl.1), ih hl.2, List.cons_append]

/-- Two texts are unified one by one, unless a pair is cut between them. -/
theorem unifyLineEnds_append_of_head {rest : List Char} (h : rest.head? ≠ some '\n')
    (front : List Char) :
  unifyLineEnds (front ++ rest) = unifyLineEnds front ++ unifyLineEnds rest
  := by
  fun_induction unifyLineEnds front with
  | case1 => rfl
  | case2 front ih =>
      rw [List.cons_append, List.cons_append, unifyLineEnds, ih, List.cons_append]
  | case3 front hfront ih =>
      have hhead : (front ++ rest).head? ≠ some '\n' := by
        cases front with
        | nil => apply h
        | cons c front =>
            rintro ⟨⟩
            apply hfront front rfl
      rw [List.cons_append, unifyLineEnds_return hhead, ih, List.cons_append]
  | case4 c front _ hc ih =>
      rw [List.cons_append, unifyLineEnds_cons hc, ih, List.cons_append]

/-- Each pair costs one character. -/
theorem length_unifyLineEnds (cs : List Char) :
  (unifyLineEnds cs).length + linePairs cs = cs.length
  := by
  fun_induction unifyLineEnds cs with
  | case1 => rfl
  | case2 rest ih =>
      rw [linePairs]
      simp only [List.length_cons]
      omega
  | case3 rest hrest ih =>
      rw [linePairs]
      · simp only [List.length_cons]
        omega
      · rintro more - rfl
        apply hrest more rfl
  | case4 c rest _ hc ih =>
      rw [linePairs]
      · simp only [List.length_cons]
        omega
      · rintro more rfl
        contradiction

end Text

open Text

/-! ### Two readers -/

/-- What does not continue a lexeme does not do so with unified line ends. -/
theorem Ends.unifyLineEnds {k : TokenKind} {rest : List Char} (h : Ends k rest) :
  Ends k (unifyLineEnds rest)
  := by
  fun_cases Text.unifyLineEnds rest with
  | case1 => apply h
  | case2 rest =>
      rintro c ⟨⟩
      apply not_continues_of_isBlank (by decide)
  | case3 rest hrest =>
      rintro c ⟨⟩
      apply not_continues_of_isBlank (by decide)
  | case4 c rest _ hc => apply h

namespace Reader

/-- `NoReturns r`: wherever rounds lead to a string, the round there takes no carriage return. -/
def NoReturns (r : Reader) : Prop :=
  ∀ ts s, Reaches r ts s → s.rest.head? = some '"' →
    '\r' ∉ s.rest.take (s.round.cursor - s.cursor)

variable {r s r' : Reader} {ts : List Token}

theorem NoReturns.of_round {taken : Option Token} {cursor : Nat} (h : r.NoReturns)
    (hround : r.round = .success taken cursor) :
  NoReturns ⟨r.source, cursor⟩
  := by
  intro ts s hs
  apply h _ s (.round hround hs)

theorem NoReturns.of_reaches (h : r.NoReturns) (hs : Reaches r ts s) :
  s.NoReturns
  := by
  intro us t ht
  apply h _ t (hs.trans ht)

/-- What a round takes, if it takes a string, holds no carriage return, and neither does a string
that is taken later. -/
theorem noReturns_iff_of_round {taken : Option Token} {cursor : Nat}
    (hround : r.round = .success taken cursor) :
  r.NoReturns ↔ (r.rest.head? = some '"' → '\r' ∉ r.rest.take (cursor - r.cursor))
    ∧ NoReturns ⟨r.source, cursor⟩
  := by
  constructor
  · intro h
    refine ⟨?_, h.of_round hround⟩
    intro hhead
    have htake := h [] r .here hhead
    rw [hround] at htake
    apply htake
  · rintro ⟨hhere, hbehind⟩ ts s (_ | ⟨hround', hs⟩) hhead
    · rw [hround]
      apply hhere hhead
    · obtain ⟨-, rfl⟩ := Outcome.mk.inj (hround.symm.trans hround')
      apply hbehind _ s hs hhead

/-- What a round takes that fails at a string holds no carriage return. -/
theorem noReturns_iff_of_failure {e : ReadError} {n : Nat} (hround : r.round = .failure e n) :
  r.NoReturns ↔ (r.rest.head? = some '"' → '\r' ∉ r.rest.take (n - r.cursor))
  := by
  constructor
  · intro h hhead
    have htake := h [] r .here hhead
    rw [hround] at htake
    apply htake
  · rintro hhere ts s (_ | ⟨hround', hs⟩) hhead
    · rw [hround]
      apply hhere hhead
    · cases hround.symm.trans hround'

/-- A lexeme that a round takes holds no carriage return. -/
theorem NoReturns.not_mem_lexeme {l rest : List Char} {t : Token} (h : r.NoReturns)
    (hrest : r.rest = l ++ rest) (hl : Spells l t) (hends : Ends t.kind rest) :
  '\r' ∉ l
  := by
  by_cases hkind : t.kind = .string
  · have hround := round_lexeme hrest hl hends
    obtain ⟨c, cs, rfl, hc⟩ := hl.head
    rw [hkind] at hc
    obtain rfl : c = '"' := hc
    have htake := ((noReturns_iff_of_round hround).mp h).1 (by rw [hrest]; rfl)
    rw [hrest, Nat.add_sub_cancel_left, List.take_left] at htake
    apply htake
  · intro hreturn
    exact hl.not_isBlank hkind hreturn (by decide)

/-- A string that is never closed holds no carriage return. -/
theorem NoReturns.not_mem_openString {b : List Char} (h : r.NoReturns)
    (hrest : r.rest = '"' :: b) (hb : stringBody? b = none) :
  '\r' ∉ '"' :: b
  := by
  have hround := round_openString hrest hb
  have htake := (noReturns_iff_of_failure hround).mp h (by rw [hrest]; rfl)
  have hlength : r.cursor + 1 + b.length - r.cursor = ('"' :: b).length := by
    rw [List.length_cons]
    omega
  rw [hrest, hlength, List.take_length] at htake
  apply htake

/-- A blank is passed over with unified line ends too, by no round if it is the first of a pair. -/
theorem reaches_of_blank {c : Char} {rest : List Char} (hc : isBlank c)
    (hsame : r'.rest = unifyLineEnds (c :: rest)) :
  ∃ s', Reaches r' [] s' ∧ s'.rest = unifyLineEnds rest
  := by
  by_cases hreturn : c = '\r'
  · subst hreturn
    by_cases hhead : rest.head? = some '\n'
    · -- The line feed behind the return stands for both, and is still to come.
      obtain ⟨more, rfl⟩ := List.head?_eq_some_iff.mp hhead
      rw [unifyLineEnds_pair] at hsame
      exact ⟨r', .here, hsame⟩
    · rw [unifyLineEnds_return hhead] at hsame
      exact ⟨_, .round (round_blank hsame (by decide)) .here, rest_move (l := ['\n']) hsame⟩
  · rw [unifyLineEnds_cons hreturn] at hsame
    exact ⟨_, .round (round_blank hsame hc) .here, rest_move (l := [c]) hsame⟩

/-- A round is one of the reader of the text with unified line ends, or none if it passes over
the first of a pair. -/
theorem reaches_of_round {taken : Option Token} {cursor : Nat}
    (hround : r.round = .success taken cursor) (h : r.NoReturns)
    (hsame : r'.rest = unifyLineEnds r.rest) :
  ∃ s', Reaches r' taken.toList s' ∧ s'.rest = unifyLineEnds (Reader.rest ⟨r.source, cursor⟩)
  := by
  obtain ⟨l, rest, hrest, rfl, htaken⟩ := round_success hround
  rw [rest_move hrest]
  rw [hrest] at hsame
  rcases htaken with ⟨rfl, c, rfl, hc⟩ | ⟨t, rfl, hl, hends⟩
  · apply reaches_of_blank hc hsame
  · have hreturn := h.not_mem_lexeme hrest hl hends
    rw [unifyLineEnds_append hreturn] at hsame
    have hround' := round_lexeme hsame hl hends.unifyLineEnds
    exact ⟨_, .round hround' .here, rest_move hsame⟩

/-- Rounds that lead somewhere are matched by rounds of the reader of the text with unified line
ends, which give the same tokens. -/
theorem reaches_unified (hs : Reaches r ts s) (h : r.NoReturns)
    (hsame : r'.rest = unifyLineEnds r.rest) :
  ∃ s', Reaches r' ts s' ∧ s'.rest = unifyLineEnds s.rest
  := by
  induction hs generalizing r' with
  | here => exact ⟨r', .here, hsame⟩
  | round hround _ ih =>
      obtain ⟨between, hbetween, hrest⟩ := reaches_of_round hround h hsame
      obtain ⟨s', hs', hrest'⟩ := ih (h.of_round hround) hrest
      exact ⟨s', hbetween.trans hs', hrest'⟩

/-- Where a round fails, so does the round of the reader of the text with unified line ends, for
want of an end as well or at the same character. -/
theorem round_unified_failure {e : CompileError} {n : Nat}
    (hround : r.round = .failure (.stopped e) n) (h : r.NoReturns)
    (hsame : r'.rest = unifyLineEnds r.rest) :
  ∃ e' n', r'.round = .failure (.stopped e') n'
    ∧ (e = .unexpectedEnd ∧ e' = .unexpectedEnd
      ∨ ∃ c, e = .invalidCharacter c r.cursor ∧ e' = .invalidCharacter c r'.cursor
        ∧ r.rest.head? ≠ some '\n')
  := by
  rcases round_failure hround with ⟨b, hrest, hb, rfl⟩ | ⟨c, rest, hrest, hblank, hc, rfl⟩
  · have hreturn := h.not_mem_openString hrest hb
    rw [hrest, ← List.append_nil ('"' :: b), unifyLineEnds_append hreturn] at hsame
    rw [unifyLineEnds, List.append_nil] at hsame
    exact ⟨_, _, round_openString hsame hb, Or.inl ⟨rfl, rfl⟩⟩
  · have hreturn : c ≠ '\r' := by
      rintro rfl
      apply hblank (by decide)
    have hfeed : c ≠ '\n' := by
      rintro rfl
      apply hblank (by decide)
    rw [hrest, unifyLineEnds_cons hreturn] at hsame
    refine ⟨_, _, round_invalid hsame hblank hc, Or.inr ⟨_, rfl, rfl, ?_⟩⟩
    rw [hrest]
    simpa using hfeed

end Reader

/-! ### Texts -/

/-- The text with its line ends unified. -/
def unified (source : String) : String :=
  String.ofList (unifyLineEnds source.toList)

/-- The error as it reads for the text with unified line ends. -/
def CompileError.unified (source : String) : CompileError → CompileError
  | invalidCharacter c n => invalidCharacter c (n - linePairs (source.toList.take n.toNat))
  | e => e

/-- Rounds that lead to a character other than a line feed lead the reader of the text with
unified line ends to a place that is behind by the number of pairs. -/
theorem Reader.cursor_unified {source : String} {ts us : List Token} {s s' : Reader}
    (hs : Reaches ⟨source.toList, 0⟩ ts s) (hs' : Reaches ⟨(unified source).toList, 0⟩ us s')
    (hsame : s'.rest = unifyLineEnds s.rest) (hhead : s.rest.head? ≠ some '\n') :
  s'.cursor + linePairs (source.toList.take s.cursor) = s.cursor
  := by
  obtain ⟨front, hfront, hcut, -⟩ := layout_of_reaches hs
  obtain ⟨front', hfront', hcut', -⟩ := layout_of_reaches hs'
  have hcursor : s.cursor = front.length := by rw [hcut, Nat.zero_add]
  have hcursor' : s'.cursor = front'.length := by rw [hcut', Nat.zero_add]
  have hsource : source.toList = front ++ s.rest := hfront
  have hunified : unifyLineEnds source.toList = front' ++ unifyLineEnds s.rest := by
    rw [← hsame, ← hfront']
    simp [Reader.rest, CallForm.unified]
  -- Behind the cursors stands the same, so what stands before them is unified too.
  have hbefore : unifyLineEnds front = front' := by
    rw [hsource, unifyLineEnds_append_of_head hhead] at hunified
    apply List.append_cancel_right hunified
  rw [hcursor, hcursor', hsource, List.take_left, ← hbefore, length_unifyLineEnds]

/-- If no string holds a carriage return, unifying the line ends of a text changes its tokens
nowhere, and of an error only the place of the character that it reports. -/
theorem tokenize_unified {source : String} (h : Reader.NoReturns ⟨source.toList, 0⟩) :
  tokenize (unified source) = (tokenize source).mapError (.unified source)
  := by
  have hsame : Reader.rest ⟨(unified source).toList, 0⟩
      = unifyLineEnds (Reader.rest ⟨source.toList, 0⟩) := by
    simp [Reader.rest, unified]
  obtain ⟨ts, s, hs, hend⟩ := Reader.exists_reaches ⟨source.toList, 0⟩
  obtain ⟨s', hs', hrest'⟩ := Reader.reaches_unified hs h hsame
  rcases hend with hrest | ⟨e, n, hround⟩
  · rw [hrest, unifyLineEnds] at hrest'
    rw [Reader.tokenize_of_reaches hs hrest, Reader.tokenize_of_reaches hs' hrest']
    rfl
  · obtain ⟨e', n', hround', he⟩ :=
      Reader.round_unified_failure hround (h.of_reaches hs) hrest'
    rw [Reader.tokenize_of_reaches_failure hs hround,
      Reader.tokenize_of_reaches_failure hs' hround']
    rcases he with ⟨rfl, rfl⟩ | ⟨c, rfl, rfl, hhead⟩
    · rfl
    · have hcursor := Reader.cursor_unified hs hs' hrest' hhead
      have hplace : (s'.cursor : Int) = s.cursor - linePairs (source.toList.take s.cursor) := by
        omega
      simp only [Except.mapError, CompileError.unified, Int.toNat_natCast, hplace]

/-- If besides there is no character that cannot be read, it changes nothing at all about the
tokens. -/
theorem tokenize_unified_of_valid {source : String} (h : Reader.NoReturns ⟨source.toList, 0⟩)
    (hvalid : ∀ c n, tokenize source ≠ .error (.invalidCharacter c n)) :
  tokenize (unified source) = tokenize source
  := by
  rw [tokenize_unified h]
  cases htokenize : tokenize source with
  | ok ts => rfl
  | error e =>
      obtain rfl | ⟨front, c, rest, -, rfl⟩ := failure_of_tokensFrom htokenize
      · rfl
      · absurd htokenize
        apply hvalid

end CallForm
