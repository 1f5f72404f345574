import CallForm.Proofs.Token.Continuation
import CallForm.Proofs.Token.Rounds

/-!
# Where cutting a text into tokens fails

A text is viable if some text that begins with it can be cut into tokens.  Cutting a text
fails at the first character with which it is no longer viable.  If the text is viable but
cannot be cut, it ends in a string that is not closed, and fails at its end.

What stands in front of the place of a failure is a layout of tokens, and stays one if
something else comes behind that place.  So a character that begins no lexeme stops the
reading whatever follows it, and a string that is not closed can be closed.
-/

namespace CallForm

open Text

/-- Some text that begins with `source` can be cut into tokens. -/
def Viable (source : String) : Prop :=
  ∃ more, (tokenize (source ++ more)).isOk

/-- The text of the first `n` characters. -/
def upTo (n : Nat) (source : String) : String :=
  String.ofList (source.toList.take n)

/-- `Unclosed b`: no quote in `b` closes a string, for `b` is made of the units of a string,
behind which there may be a single backslash. -/
def Unclosed (b : List Char) : Prop :=
  ∃ units value, Body units value ∧ (b = units ∨ b = units ++ ['\\'])

theorem toList_upTo (n : Nat) (source : String) :
  (upTo n source).toList = source.toList.take n
  := by
  simp [upTo]

/-- What a viable text begins with is viable. -/
theorem Viable.of_prefix {source whole : String} (h : Viable whole)
    (hbegins : source.toList <+: whole.toList) :
  Viable source
  := by
  obtain ⟨more, hmore⟩ := h
  obtain ⟨rest, hrest⟩ := hbegins
  have hwhole : source ++ (String.ofList rest ++ more) = whole ++ more := by
    apply String.toList_inj.mp
    simp [← hrest]
  use String.ofList rest ++ more
  rw [hwhole]
  apply hmore

/-- A text that can be cut into tokens is viable. -/
theorem viable_of_isOk {source : String} (h : (tokenize source).isOk) :
  Viable source
  := by
  use ""
  rw [String.append_empty]
  apply h

/-! ### Open strings -/

theorem Body.append {b c value rest : List Char} (hb : Body b value) (hc : Body c rest) :
  Body (b ++ c) (value ++ rest)
  := by
  induction hb with
  | empty => apply hc
  | plain hd _ ih => apply Body.plain hd ih
  | escape hd _ ih =>
      rw [List.append_assoc]
      apply Body.escape hd ih

/-- The body of a string does not close it, and neither does a backslash behind the body. -/
theorem stringBody?_open {units value : List Char} (h : Body units value) :
  stringBody? units = none ∧ stringBody? (units ++ ['\\']) = none
  := by
  induction h with
  | empty => exact ⟨rfl, rfl⟩
  | @plain c b value hc _ ih =>
      obtain ⟨hquote, hslash⟩ : c ≠ '"' ∧ c ≠ '\\' := by simpa using hc
      constructor
      · rw [stringBody?, ih.1, Option.map_none] <;> simp [hquote, hslash]
      · rw [List.cons_append, stringBody?, ih.2, Option.map_none] <;> simp [hquote, hslash]
  | escape _ _ ih =>
      constructor
      · rw [stringBody?, ih.1, Option.map_none]
      · rw [List.cons_append, List.cons_append, stringBody?, ih.2, Option.map_none]

/-- What has no value as a string is not closed. -/
theorem unclosed_of_stringBody? {b : List Char} (h : stringBody? b = none) :
  Unclosed b
  := by
  fun_induction stringBody? b with
  | case1 => exact ⟨[], [], Body.empty, Or.inl rfl⟩
  | case2 => cases h
  | case3 => exact ⟨[], [], Body.empty, Or.inr rfl⟩
  | case4 c rest ih =>
      obtain ⟨units, value, hunits, hb⟩ := ih (Option.map_eq_none_iff.mp h)
      refine ⟨'\\' :: c :: units, _, Body.escape ((escape_iff c _).mpr rfl) hunits, ?_⟩
      rcases hb with rfl | rfl
      · left
        rfl
      · right
        rfl
  | case5 c rest hquote hend hslash ih =>
      obtain ⟨units, value, hunits, hb⟩ := ih (Option.map_eq_none_iff.mp h)
      have hc : c ∉ ['"', '\\'] := by
        simp only [List.mem_cons, List.not_mem_nil, or_false]
        rintro (hc | hc)
        · apply hquote hc
        · cases rest with
          | nil => apply hend hc rfl
          | cons d ds => apply hslash d ds hc rfl
      refine ⟨c :: units, _, Body.plain hc hunits, ?_⟩
      rcases hb with rfl | rfl
      · left
        rfl
      · right
        rfl

/-- A string is not closed exactly if it has no value. -/
theorem stringBody?_eq_none_iff (b : List Char) :
  stringBody? b = none ↔ Unclosed b
  := by
  constructor
  · apply unclosed_of_stringBody?
  · rintro ⟨units, value, hunits, rfl | rfl⟩
    · apply (stringBody?_open hunits).1
    · apply (stringBody?_open hunits).2

/-- A string that is not closed can be closed. -/
theorem Unclosed.exists_body {b : List Char} (h : Unclosed b) :
  ∃ more units value, b ++ more = units ++ ['"'] ∧ Body units value
  := by
  obtain ⟨units, value, hunits, rfl | rfl⟩ := h
  · use ['"'], b, value
  · use ['"', '"'], units ++ ['\\', '"'], value ++ ['"']
    constructor
    · simp
    · apply hunits.append
      apply Body.escape Escape.quote Body.empty

/-! ### The place of a failure -/

variable {front more : List Char} {ts : List Token} {c : Char}

/-- What ends before some text ends before any text that begins with the same character. -/
theorem Ends.before_head {k : TokenKind} {between : List Char}
    (h : Ends k (between ++ c :: more)) (more' : List Char) :
  Ends k (between ++ c :: more')
  := by
  cases between with
  | nil => apply h
  | cons d between => apply h

/-- A layout in front of some text is one in front of every text that begins with the same
character. -/
theorem Layout.before_head (h : Layout (MunchedBefore (c :: more)) ts front)
    (more' : List Char) :
  Layout (MunchedBefore (c :: more')) ts front
  := by
  apply h.mono
  intro t _ between ha
  apply Ends.before_head ha

/-- A layout in front of some text can also stand by itself. -/
theorem Layout.alone {rest : List Char} (h : Layout (MunchedBefore rest) ts front) :
  Layout Munched ts front
  := by
  apply h.mono
  intro t _ between ha
  cases between with
  | nil => simp [Munched, Ends]
  | cons d between => apply ha

/-- If a text cannot be cut, a layout of tokens stands in front of a string that is not
closed or of a character that is no blank and begins no lexeme. -/
theorem exists_front_of_failure {pos : Nat} {cs : List Char} {e : CompileError}
    (h : (tokensFrom pos cs).result = .error e) :
  ∃ ts front rest, cs = front ++ rest ∧ Layout (MunchedBefore rest) ts front
    ∧ ((∃ b, rest = '"' :: b ∧ Unclosed b)
      ∨ ∃ c more, rest = c :: more ∧ ¬isBlank c ∧ ∀ k, ¬Begins k c)
  := by
  induction cs using readingInduction generalizing pos with
  | finish =>
      rw [tokensFrom] at h
      cases h
  | blank b rest hb ih =>
      rw [tokensFrom_blank _ hb] at h
      obtain ⟨ts, front, tail, rfl, hlayout, hstop⟩ := ih h
      exact ⟨ts, b :: front, tail, rfl, hlayout.cons_blank hb, hstop⟩
  | lexeme l rest t hl hends ih =>
      rw [tokensFrom_lexeme _ hl hends, Outcome.result_map_eq_error] at h
      obtain ⟨ts, front, tail, rfl, hlayout, hstop⟩ := ih h
      refine ⟨t :: ts, [] ++ (l ++ front), tail, by simp, ?_, hstop⟩
      apply Layout.next _ hl hends hlayout
      simp
  | openString b hb =>
      refine ⟨[], [], '"' :: b, rfl, ?_, Or.inl ⟨b, rfl, unclosed_of_stringBody? hb⟩⟩
      apply Layout.done
      simp
  | invalid c rest hblank hc =>
      refine ⟨[], [], c :: rest, rfl, ?_, Or.inr ⟨c, rest, rfl, hblank, hc⟩⟩
      apply Layout.done
      simp

/-- Reading stops at a character that is no blank and begins no lexeme, whatever comes behind
it. -/
theorem tokensFrom_stopped (h : Layout (MunchedBefore (c :: more)) ts front)
    (hblank : ¬isBlank c) (hc : ∀ k, ¬Begins k c) (pos : Nat) (more' : List Char) :
  tokensFrom pos (front ++ c :: more')
    = .failure (.invalidCharacter (String.singleton c) (pos + front.length : Nat))
      (pos + front.length)
  := by
  rw [tokensFrom_append_of_layout (h.before_head more'), tokensFrom_invalid _ hblank hc]
  rfl

/-- Reading fails at the end of a string that is not closed. -/
theorem tokensFrom_unclosed {b : List Char} (h : Layout (MunchedBefore ('"' :: b)) ts front)
    (hb : Unclosed b) (pos : Nat) :
  tokensFrom pos (front ++ '"' :: b)
    = .failure .unexpectedEnd (pos + (front ++ '"' :: b).length)
  := by
  have hlength : pos + front.length + 1 + b.length = pos + (front ++ '"' :: b).length := by
    simp only [List.length_append, List.length_cons]
    omega
  rw [tokensFrom_append_of_layout h, tokensFrom_openString _ ((stringBody?_eq_none_iff b).mpr hb),
    hlength]
  rfl

/-- Behind the tokens in front of a string that is not closed the string can be closed. -/
theorem exists_tokensFrom_of_unclosed {b : List Char}
    (h : Layout (MunchedBefore ('"' :: b)) ts front) (hb : Unclosed b) (pos : Nat) :
  ∃ more, (tokensFrom pos (front ++ '"' :: b ++ more)).result.isOk
  := by
  obtain ⟨more, units, value, hmore, hunits⟩ := hb.exists_body
  use more
  rw [List.append_assoc, List.cons_append, hmore,
    tokensFrom_append_of_layout (h.before_head _), tokensFrom_string _ hunits, tokensFrom]
  rfl

/-! ### Texts that fail -/

/-- A text in which a character cannot be read is a layout of tokens up to that character, which
is no blank and begins no lexeme. -/
theorem exists_front_of_invalid {source c : String} {n : Int}
    (h : tokenize source = .error (.invalidCharacter c n)) :
  ∃ ts front d more, source.toList = front ++ d :: more
    ∧ Layout (MunchedBefore (d :: more)) ts front ∧ ¬isBlank d ∧ (∀ k, ¬Begins k d)
    ∧ c = String.singleton d ∧ n = front.length
  := by
  obtain ⟨ts, front, rest, hsource, hlayout, ⟨b, rfl, hb⟩ | ⟨d, more, rfl, hblank, hd⟩⟩ :=
    exists_front_of_failure h
  · rw [tokenize, hsource, tokensFrom_unclosed hlayout hb] at h
    cases h
  · rw [tokenize, hsource, tokensFrom_stopped hlayout hblank hd] at h
    obtain ⟨rfl, rfl⟩ := CompileError.invalidCharacter.inj (Except.error.inj h)
    rw [Nat.zero_add]
    exact ⟨ts, front, d, more, hsource, hlayout, hblank, hd, rfl, rfl⟩

/-- A text that ends too early is a layout of tokens up to a string that is not closed. -/
theorem exists_front_of_unexpectedEnd {source : String}
    (h : tokenize source = .error .unexpectedEnd) :
  ∃ ts front b, source.toList = front ++ '"' :: b
    ∧ Layout (MunchedBefore ('"' :: b)) ts front ∧ Unclosed b
  := by
  obtain ⟨ts, front, rest, hsource, hlayout, ⟨b, rfl, hb⟩ | ⟨d, more, rfl, hblank, hd⟩⟩ :=
    exists_front_of_failure h
  · exact ⟨ts, front, b, hsource, hlayout, hb⟩
  · rw [tokenize, hsource, tokensFrom_stopped hlayout hblank hd] at h
    cases h

/-- A text in which a character cannot be read is not viable. -/
theorem not_viable_of_invalid {source c : String} {n : Int}
    (h : tokenize source = .error (.invalidCharacter c n)) :
  ¬Viable source
  := by
  rintro ⟨more, hmore⟩
  rw [tokenize, String.toList_append, tokensFrom_append_of_invalid h] at hmore
  rw [tokenize] at h
  rw [h] at hmore
  cases hmore

/-- A text that ends too early is viable. -/
theorem viable_of_unexpectedEnd {source : String} (h : tokenize source = .error .unexpectedEnd) :
  Viable source
  := by
  obtain ⟨ts, front, b, hsource, hlayout, hb⟩ := exists_front_of_unexpectedEnd h
  obtain ⟨more, hmore⟩ := exists_tokensFrom_of_unclosed hlayout hb 0
  use String.ofList more
  rw [tokenize, String.toList_append, hsource, String.toList_ofList]
  apply hmore

/-- A text that cannot be cut into tokens has a character that cannot be read or ends too
early. -/
theorem invalid_or_unexpectedEnd {source : String} (h : ¬(tokenize source).isOk) :
  (∃ c n, tokenize source = .error (.invalidCharacter c n))
    ∨ tokenize source = .error .unexpectedEnd
  := by
  cases he : tokenize source with
  | ok ts =>
      absurd h
      rw [he]
      rfl
  | error e =>
      obtain rfl | ⟨front, c, rest, -, rfl⟩ := failure_of_tokensFrom he
      · right
        rfl
      · left
        exact ⟨_, _, rfl⟩

/-- A character of a text cannot be read exactly if the text is not viable. -/
theorem invalid_iff_not_viable {source : String} :
  (∃ c n, tokenize source = .error (.invalidCharacter c n)) ↔ ¬Viable source
  := by
  constructor
  · rintro ⟨c, n, h⟩
    apply not_viable_of_invalid h
  · intro hviable
    have hfail : ¬(tokenize source).isOk := fun h => hviable (viable_of_isOk h)
    rcases invalid_or_unexpectedEnd hfail with hinvalid | hend
    · apply hinvalid
    · absurd hviable
      apply viable_of_unexpectedEnd hend

/-- A text ends too early exactly if it is viable and cannot be cut into tokens. -/
theorem unexpectedEnd_iff_viable {source : String} :
  tokenize source = .error .unexpectedEnd ↔ Viable source ∧ ¬(tokenize source).isOk
  := by
  constructor
  · intro h
    constructor
    · apply viable_of_unexpectedEnd h
    · rw [h]
      apply Bool.false_ne_true
  · rintro ⟨hviable, hfail⟩
    rcases invalid_or_unexpectedEnd hfail with ⟨c, n, hinvalid⟩ | hend
    · absurd hviable
      apply not_viable_of_invalid hinvalid
    · apply hend

/-- A text ends too early exactly if a string that is not closed begins where rounds lead that
take the tokens of what stands in front of it. -/
theorem unexpectedEnd_iff_unclosed {source : String} :
  tokenize source = .error .unexpectedEnd
    ↔ ∃ (p b : String) (ts : List Token), source = p ++ "\"" ++ b ∧ tokenize p = .ok ts
      ∧ Reader.Reaches ⟨source.toList, 0⟩ ts ⟨source.toList, p.length⟩ ∧ Unclosed b.toList
  := by
  constructor
  · intro h
    obtain ⟨ts, front, b, hsource, hlayout, hb⟩ := exists_front_of_unexpectedEnd h
    refine ⟨String.ofList front, String.ofList b, ts, ?_, ?_, ?_, ?_⟩
    · apply String.toList_inj.mp
      simp [hsource]
    · rw [tokenize, String.toList_ofList, tokensFrom_of_layout hlayout.alone]
      rfl
    · have hreaches := Reader.reaches_of_layout (r := ⟨source.toList, 0⟩) hlayout hsource
      rw [Nat.zero_add] at hreaches
      rw [String.length_ofList]
      apply hreaches
    · rw [String.toList_ofList]
      apply hb
  · rintro ⟨p, b, ts, rfl, -, hreaches, hb⟩
    have hcut : (p ++ "\"" ++ b).toList = p.toList ++ '"' :: b.toList := by simp
    have hlayout := Reader.layout_take_of_reaches hreaches
    rw [hcut, ← String.length_toList, List.take_left, List.drop_left] at hlayout
    rw [tokenize, hcut, tokensFrom_unclosed hlayout hb]
    rfl

/-- Cutting a text into tokens fails at a character exactly if no text that can be cut begins
with the text.  Then the character is the first one with which no such text begins; the error
tells the character and its place, what stands in front of it can be cut, the cursor stays there,
and the error is the same whatever comes behind the character.  Cutting a text fails for want of
an end exactly if some text that can be cut begins with it but it cannot be cut itself.  Then it
is cut up to a string that is not closed, and the cursor is at the end. -/
theorem tokenize_fails_earliest (source : String) :
  ((∃ c n, tokenize source = .error (.invalidCharacter c n)) ↔ ¬Viable source)
  ∧ (∀ c n, tokenize source = .error (.invalidCharacter c n) →
    ∃ (i : Nat) (d : Char), source.toList[i]? = some d ∧ c = String.singleton d ∧ n = i
      ∧ (Reader.tokens ⟨source.toList, 0⟩).cursor = i
      ∧ ¬Viable (upTo (i + 1) source) ∧ (∀ j < i, Viable (upTo (j + 1) source))
      ∧ (tokenize (upTo i source)).isOk
      ∧ ∀ more, tokenize (upTo (i + 1) source ++ more) = .error (.invalidCharacter c n))
  ∧ (tokenize source = .error .unexpectedEnd ↔ Viable source ∧ ¬(tokenize source).isOk)
  ∧ (tokenize source = .error .unexpectedEnd ↔
    ∃ (p b : String) (ts : List Token), source = p ++ "\"" ++ b ∧ tokenize p = .ok ts
      ∧ Reader.Reaches ⟨source.toList, 0⟩ ts ⟨source.toList, p.length⟩ ∧ Unclosed b.toList)
  ∧ (tokenize source = .error .unexpectedEnd →
    (Reader.tokens ⟨source.toList, 0⟩).cursor = source.length)
  := by
  refine ⟨invalid_iff_not_viable, ?_, unexpectedEnd_iff_viable, unexpectedEnd_iff_unclosed, ?_⟩
  · intro c n h
    obtain ⟨ts, front, d, more, hsource, hlayout, hblank, hd, rfl, rfl⟩ :=
      exists_front_of_invalid h
    have hfront : (tokenize (upTo front.length source)).isOk := by
      rw [tokenize, toList_upTo, hsource, List.take_left, tokensFrom_of_layout hlayout.alone]
      rfl
    have hnext : (upTo (front.length + 1) source).toList = front ++ [d] := by
      rw [toList_upTo, hsource, List.take_length_add_append]
      rfl
    have hsame : ∀ more', tokenize (upTo (front.length + 1) source ++ more')
        = .error (.invalidCharacter (String.singleton d) front.length) := by
      intro more'
      rw [tokenize, String.toList_append, hnext, List.append_assoc, List.singleton_append,
        tokensFrom_stopped hlayout hblank hd, Nat.zero_add]
      rfl
    refine ⟨front.length, d, by simp [hsource], rfl, rfl, ?_, ?_, ?_, hfront, hsame⟩
    · rw [Reader.tokens_eq, Reader.rest, List.drop_zero, hsource,
        tokensFrom_stopped hlayout hblank hd]
      apply Nat.zero_add
    · have hself := hsame ""
      rw [String.append_empty] at hself
      apply not_viable_of_invalid hself
    · intro j hj
      apply Viable.of_prefix (viable_of_isOk hfront)
      rw [toList_upTo, toList_upTo]
      apply List.take_prefix_take_left hj
  · intro h
    obtain ⟨ts, front, b, hsource, hlayout, hb⟩ := exists_front_of_unexpectedEnd h
    rw [Reader.tokens_eq, Reader.rest, List.drop_zero, ← String.length_toList, hsource,
      tokensFrom_unclosed hlayout hb]
    apply Nat.zero_add

-- An underscore may go on a name and stand in a string, but it begins no lexeme.
example : tokenize "a_ _\"" = .error (.invalidCharacter "_" 3) := by
  decide +kernel

example : tokenize "a_ \"_\\\"" = .error .unexpectedEnd := by
  decide +kernel

end CallForm
