import CallForm.Proofs.Compile.Grammar
import CallForm.Proofs.Source.Placement
import CallForm.Proofs.Token.Rounds

/-!
# Texts put together

What a text compiles to when blanks are put into it, and when it is put behind another text.
Blanks between two lexemes change nothing but the positions of characters behind them.  A
text behind one that compiles is compiled by itself, and its call form comes behind the call
form of the other; an error moves by the characters or by the tokens in front of it.

Both follow from `compile_behind`: all that counts is how the tokens of a text come about
from those of another one.
-/

namespace CallForm

open Text

/-! ### Errors that move -/

/-- Errors of cutting a text into tokens do not move with the tokens. -/
theorem shift_of_tokenize {source : String} {e : CompileError} (h : tokenize source = .error e)
    (characters tokens : Nat) :
  e.shift characters 0 = e.shift characters tokens
  := by
  obtain rfl | ⟨front, c, rest, _, rfl⟩ := failure_of_tokensFrom h
  · rfl
  · rfl

/-- Errors of reading tokens do not move with the characters. -/
theorem shift_of_parse {ts : List Token} {e : CompileError} (h : Source.parse ts = .error e)
    (characters tokens : Nat) :
  e.shift 0 tokens = e.shift characters tokens
  := by
  obtain rfl | ⟨front, t, rest, _, rfl⟩ := Source.failure_of_programFrom h
  · rfl
  · rfl

/-! ### A program in front -/

theorem callForms_append (es fs : List Source.Expr) :
  Source.callForms (es ++ fs) = Source.callForms es ++ Source.callForms fs
  := by
  induction es with
  | nil => rfl
  | cons e es ih => rw [List.cons_append, Source.callForms, Source.callForms, ih, List.cons_append]

/-- The call form of a program behind another one comes behind the call form of that. -/
theorem callForm_behind (p q : Source.Program) :
  (q.behind p.body).callForm = p.callForm ++ q.callForm
  := by
  rw [Source.Program.callForm, Source.Program.behind, callForms_append, List.map_append,
    String.join_append]
  rfl

/-- If the tokens of one text are those of another one behind the tokens of a program, the
same holds of the call forms. -/
theorem compile_behind {source source' : String} (p : Source.Program) (k : Nat)
    (h : tokenize source' = ((tokenize source).map (p.tokens ++ ·)).mapError (·.shift k 0)) :
  compile source'
    = ((compile source).map (p.callForm ++ ·)).mapError (·.shift k p.tokens.length)
  := by
  rw [compile_eq, compile_eq, readProgram, readProgram, h]
  cases hts : tokenize source with
  | error e => apply congrArg Except.error (shift_of_tokenize hts k p.tokens.length)
  | ok ts =>
      show (Source.parse (p.tokens ++ ts)).map _ = (((Source.parse ts).map _).map _).mapError _
      rw [Source.parse_append]
      cases hp : Source.parse ts with
      | error e => apply congrArg Except.error (shift_of_parse hp k p.tokens.length)
      | ok q => apply congrArg Except.ok (callForm_behind p q)

/-! ### Blanks between lexemes -/

/-- The text with `gap` put in behind its first `n` characters. -/
def insertAt (n : Nat) (gap source : String) : String :=
  String.ofList (source.toList.take n ++ (gap.toList ++ source.toList.drop n))

variable {source gap : String}

/-- Blanks put between two rounds of reading move the characters behind them. -/
theorem tokenize_insertAt {n : Nat} {ts : List Token}
    (h : Reader.Reaches ⟨source.toList, 0⟩ ts ⟨source.toList, n⟩)
    (hgap : ∀ c ∈ gap.toList, isBlank c) :
  tokenize (insertAt n gap source) = (tokenize source).mapError (·.shift gap.length 0)
  := by
  have hlayout := Reader.layout_take_of_reaches h
  rw [tokenize, insertAt, String.toList_ofList, tokensFrom_insert_blanks hlayout hgap,
    List.take_append_drop, String.length_toList]
  rfl

/-- Blanks put between two rounds of reading, also before the first one and behind the last
one, change nothing but the position of an invalid character. -/
theorem compile_insertAt {n : Nat} {ts : List Token}
    (h : Reader.Reaches ⟨source.toList, 0⟩ ts ⟨source.toList, n⟩)
    (hgap : ∀ c ∈ gap.toList, isBlank c) :
  compile (insertAt n gap source) = (compile source).mapError (·.shift gap.length 0)
  := by
  have htokens : tokenize (insertAt n gap source)
      = ((tokenize source).map ((⟨[]⟩ : Source.Program).tokens ++ ·)).mapError
        (·.shift gap.length 0) := by
    rw [tokenize_insertAt h hgap]
    cases tokenize source <;> rfl
  rw [compile_behind ⟨[]⟩ gap.length htokens]
  cases compile source with
  | error e => rfl
  | ok output => apply congrArg Except.ok String.empty_append

/-- Two blanks between a number and a string, in front of a character that stands nowhere. -/
theorem compile_insertAt_before_string :
  Reader.Reaches ⟨"(add 12\"a b\"~ )".toList, 0⟩
      [⟨.paren, "("⟩, ⟨.name, "add"⟩, ⟨.number, "12"⟩] ⟨"(add 12\"a b\"~ )".toList, 7⟩
    ∧ (∀ c ∈ "\u00A0\u3000".toList, isBlank c)
    ∧ compile "(add 12\"a b\"~ )" = .error (.invalidCharacter "~" 12)
    ∧ compile (insertAt 7 "\u00A0\u3000" "(add 12\"a b\"~ )")
      = .error (.invalidCharacter "~" 14)
  := by
  have hopen : Reader.round ⟨"(add 12\"a b\"~ )".toList, 0⟩
      = .success (some ⟨.paren, "("⟩) 1 := rfl
  have hname : Reader.round ⟨"(add 12\"a b\"~ )".toList, 1⟩
      = .success (some ⟨.name, "add"⟩) 4 := rfl
  have hblank : Reader.round ⟨"(add 12\"a b\"~ )".toList, 4⟩ = .success none 5 := rfl
  have hnumber : Reader.round ⟨"(add 12\"a b\"~ )".toList, 5⟩
      = .success (some ⟨.number, "12"⟩) 7 := rfl
  have hrounds := Reader.Reaches.round hopen (.round hname (.round hblank (.round hnumber .here)))
  have hgap : ∀ c ∈ "\u00A0\u3000".toList, isBlank c := by
    apply List.all_eq_true.mp
    rfl
  have hcompile : compile "(add 12\"a b\"~ )" = .error (.invalidCharacter "~" 12) := by
    decide +kernel
  have hmoved := compile_insertAt hrounds hgap
  rw [hcompile] at hmoved
  exact ⟨hrounds, hgap, hcompile, hmoved⟩

/-! ### Texts behind texts -/

/-- Behind a text that is cut into tokens and a blank, the tokens of another text follow. -/
theorem tokenize_append_blanks {ts : List Token} (h : tokenize source = .ok ts) (hne : gap ≠ "")
    (hgap : ∀ c ∈ gap.toList, isBlank c) (other : String) :
  tokenize (source ++ gap ++ other)
    = ((tokenize other).map (ts ++ ·)).mapError (·.shift (source.length + gap.length) 0)
  := by
  have hlayout : Layout (MunchedBefore (gap.toList ++ other.toList)) ts source.toList := by
    obtain ⟨b, rest, hb⟩ := List.exists_cons_of_ne_nil (mt String.toList_eq_nil_iff.mp hne)
    rw [hb, List.forall_mem_cons] at hgap
    rw [hb, List.cons_append]
    apply (layout_of_tokensFrom h).before_nil.before_blank hgap.1
  rw [tokenize, String.toList_append, String.toList_append, List.append_assoc,
    tokensFrom_append_blanks hlayout hgap, tokensFrom_add, tokenize]
  simp only [Outcome.result_map, Outcome.result_onward, Outcome.result_mapError,
    String.length_toList]
  cases (tokensFrom 0 other.toList).result with
  | error e => apply congrArg Except.error (e.shift_shift _ _ _ _)
  | ok us => rfl

/-- A text behind a text that compiles and some blanks is compiled by itself: its call form
comes behind that of the other, and its error moves by the characters or tokens in front of
it. -/
theorem compile_append {output : String} (h : compile source = .ok output) (hne : gap ≠ "")
    (hgap : ∀ c ∈ gap.toList, isBlank c) (other : String) :
  ∃ tokens, tokenize source = .ok tokens
    ∧ compile (source ++ gap ++ other) = ((compile other).map (output ++ ·)).mapError
      (·.shift (source.length + gap.length) tokens.length)
  := by
  obtain ⟨p, hp, rfl⟩ := exists_program_of_compile h
  use p.tokens, hp
  apply compile_behind p _ (tokenize_append_blanks hp hne hgap other)

/-- A closing parenthesis too many, in a text behind a call and a number. -/
theorem compile_append_closing :
  compile "(f 1.5)2" = .ok "f(1.5);2;" ∧ "\t" ≠ "" ∧ (∀ c ∈ "\t".toList, isBlank c)
    ∧ compile "3 ) x" = .error (.unexpectedToken ")" 1)
    ∧ ∃ tokens, tokenize "(f 1.5)2" = .ok tokens ∧ tokens.length = 5
      ∧ compile ("(f 1.5)2" ++ "\t" ++ "3 ) x") = .error (.unexpectedToken ")" 6)
  := by
  have h : compile "(f 1.5)2" = .ok "f(1.5);2;" := by decide +kernel
  have hne : "\t" ≠ "" := by decide
  have hgap : ∀ c ∈ "\t".toList, isBlank c := by
    apply List.all_eq_true.mp
    rfl
  have hother : compile "3 ) x" = .error (.unexpectedToken ")" 1) := by decide +kernel
  have hcount : (tokenize "(f 1.5)2").map List.length = .ok 5 := by decide +kernel
  obtain ⟨tokens, htokens, hcompile⟩ := compile_append h hne hgap "3 ) x"
  rw [htokens] at hcount
  have hfive : tokens.length = 5 := Except.ok.inj hcount
  rw [hother, hfive] at hcompile
  exact ⟨h, hne, hgap, hother, tokens, htokens, hfive, hcompile⟩

end CallForm
