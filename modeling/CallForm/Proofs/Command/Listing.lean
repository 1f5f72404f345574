import CallForm.Command
import CallForm.Proofs.Token.MaximalMunch
import Mathlib.Algebra.Group.Action.Defs
import Mathlib.Algebra.Order.BigOperators.Group.List
import Mathlib.Algebra.Order.Ring.Nat

/-!
# Listings of tokens

The listing of tokens writes each token on a line, with its text as it is.  Only the text of a
string can hold a line feed, and then the token is broken over several lines.  If no string is
broken, there is one line for each token and the listing tells the tokens; otherwise the lines
that a string is broken into may look like those of other tokens.
-/

namespace CallForm

open Text

/-- A line for each token. -/
def listing (ts : List Token) : String :=
  String.join (ts.map fun t => t.line ++ "\n")

/-- The line feeds in the text of a token. -/
def Token.breaks (t : Token) : Nat :=
  t.text.toList.count '\n'

/-- No string among the tokens holds a line feed. -/
def StringsUnbroken (ts : List Token) : Prop :=
  ∀ t ∈ ts, t.kind = .string → '\n' ∉ t.text.toList

/-! ### Lines -/

theorem toList_token_line (t : Token) :
  t.line.toList = t.kind.capitals.toList ++ ' ' :: t.text.toList
  := by
  simp [Token.line]

/-- The line of a token tells the token. -/
theorem Token.line_injective {t u : Token} (h : t.line = u.line) :
  t = u
  := by
  have hchars := congrArg String.toList h
  rw [toList_token_line, toList_token_line] at hchars
  obtain ⟨kind, text⟩ := t
  obtain ⟨kind', text'⟩ := u
  have hkind : kind = kind' := by
    cases kind <;> cases kind' <;> first | rfl | simp [TokenKind.capitals] at hchars
  subst hkind
  obtain ⟨-, htext⟩ := List.cons.inj (List.append_cancel_left hchars)
  obtain rfl : text = text' := String.toList_inj.mp htext
  rfl

/-- The line feeds of a token are those of its line. -/
theorem count_line (t : Token) :
  t.line.toList.count '\n' = t.breaks
  := by
  have hcapitals : t.kind.capitals.toList.count '\n' = 0 := by
    cases t.kind <;> rfl
  rw [toList_token_line, List.count_append, hcapitals, Nat.zero_add]
  simp [Token.breaks]

/-- A text is cut at each occurrence of a character. -/
theorem length_splitOn (c : Char) (cs : List Char) :
  (cs.splitOn c).length = cs.count c + 1
  := by
  induction cs with
  | nil => rfl
  | cons d cs ih =>
      rw [List.splitOn_cons_eq_if_modifyHead, List.count_cons]
      split
      · rw [List.length_cons, ih]
      · rw [List.length_modifyHead, ih, Nat.add_zero]

/-- A listing is cut into the lines that the lines of its tokens are broken into. -/
theorem splitOn_listing (ts : List Token) :
  (listing ts).toList.splitOn '\n' = ts.flatMap (·.line.toList.splitOn '\n') ++ [[]]
  := by
  induction ts with
  | nil => rfl
  | cons t ts ih =>
      have hcons : (listing (t :: ts)).toList = t.line.toList ++ '\n' :: (listing ts).toList := by
        simp [listing]
      rw [hcons, List.splitOn_append_cons_self, ih, List.flatMap_cons, List.append_assoc]

/-- A listing has a line for each token, and one more for each line feed in a token. -/
theorem count_listing (ts : List Token) :
  (listing ts).toList.count '\n' = ts.length + (ts.map Token.breaks).sum
  := by
  have hlength := congrArg List.length (splitOn_listing ts)
  rw [length_splitOn, List.length_append, List.length_flatMap] at hlength
  simp only [length_splitOn, count_line, List.sum_map_add, List.map_const', List.sum_replicate,
    smul_eq_mul, Nat.mul_one, List.length_singleton, Nat.add_right_cancel_iff] at hlength
  omega

/-- A listing is cut into the lines of its tokens exactly if no token holds a line feed. -/
theorem splitOn_listing_eq_iff (ts : List Token) :
  (listing ts).toList.splitOn '\n' = ts.map (·.line.toList) ++ [[]]
    ↔ ∀ t ∈ ts, t.breaks = 0
  := by
  constructor
  · intro h
    have hlength := congrArg List.length h
    rw [length_splitOn, count_listing] at hlength
    simp only [List.length_append, List.length_map, List.length_singleton] at hlength
    have hsum : (ts.map Token.breaks).sum = 0 := by omega
    rw [List.sum_eq_zero_iff, List.forall_mem_map] at hsum
    apply hsum
  · intro h
    rw [splitOn_listing, List.map_eq_flatMap]
    congr 1
    apply List.flatMap_congr
    intro t ht
    apply List.splitOn_eq_singleton
    rw [← List.count_eq_zero, count_line, h t ht]

/-! ### Listings of texts -/

/-- Of the tokens of a text, only strings hold line feeds. -/
theorem stringsUnbroken_iff {source : String} {ts : List Token} (h : tokenize source = .ok ts) :
  StringsUnbroken ts ↔ ∀ t ∈ ts, t.breaks = 0
  := by
  have hspelled := (layout_of_tokensFrom h).spelled
  constructor
  · intro hstrings t ht
    rw [Token.breaks, List.count_eq_zero]
    by_cases hkind : t.kind = .string
    · apply hstrings t ht hkind
    · obtain ⟨l, hl⟩ := hspelled t ht
      rw [← hl.eq_text hkind]
      intro hbreak
      exact hl.not_isBlank hkind hbreak (by decide)
  · intro hbreaks t ht _
    rw [← List.count_eq_zero]
    apply hbreaks t ht

/-- A listing in which no string is broken tells the tokens. -/
theorem listing_inj {ts us : List Token} (hts : ∀ t ∈ ts, t.breaks = 0)
    (hus : ∀ u ∈ us, u.breaks = 0) (h : listing ts = listing us) :
  ts = us
  := by
  have hlines := (splitOn_listing_eq_iff ts).mpr hts
  rw [h, (splitOn_listing_eq_iff us).mpr hus, List.append_left_inj] at hlines
  have hinjective : Function.Injective fun t : Token => t.line.toList := by
    intro t u htu
    apply Token.line_injective (String.toList_inj.mp htu)
  apply (List.map_injective_iff.mpr hinjective hlines).symm

/-- The listing of the tokens of a text.  It has a line for each token, made of the kind of the
token in capitals, a space and its text, and one more line for each line feed in a string.  So it
is cut into one line for each token exactly if no string holds a line feed, and texts of which
this holds have the same listing only if they have the same tokens. -/
theorem listing_lines {source : String} {ts : List Token} (h : tokenize source = .ok ts)
    (depth : Nat) (echo : Bool) :
  Command.tokens.report depth .text echo (.text source) = .ok ⟨0, listing ts, ""⟩
  ∧ (listing ts).toList.count '\n' = ts.length + (ts.map Token.breaks).sum
  ∧ ((listing ts).toList.splitOn '\n' = ts.map (·.line.toList) ++ [[]] ↔ StringsUnbroken ts)
  ∧ ∀ source' ts', tokenize source' = .ok ts' → StringsUnbroken ts → StringsUnbroken ts' →
    (Command.tokens.report depth .text echo (.text source)).map Report.output
      = (Command.tokens.report depth .text echo (.text source')).map Report.output →
    ts = ts'
  := by
  have hreport : ∀ source ts, tokenize source = .ok ts →
      Command.tokens.report depth .text echo (.text source) = .ok ⟨0, listing ts, ""⟩ := by
    intro source ts hts
    simp only [Command.report, Command.reportTokens, Given.toText, hts]
    rfl
  refine ⟨hreport source ts h, count_listing ts, ?_, ?_⟩
  · rw [stringsUnbroken_iff h]
    apply splitOn_listing_eq_iff
  · intro source' ts' h' hts hts' hlisting
    rw [hreport source ts h, hreport source' ts' h'] at hlisting
    apply listing_inj ((stringsUnbroken_iff h).mp hts) ((stringsUnbroken_iff h').mp hts')
      (Except.ok.inj hlisting)

/-- A string that holds no line feed, between a name and a number. -/
theorem listing_lines_string :
  tokenize "f\"a, b\"1" = .ok [⟨.name, "f"⟩, ⟨.string, "a, b"⟩, ⟨.number, "1"⟩]
    ∧ StringsUnbroken [⟨.name, "f"⟩, ⟨.string, "a, b"⟩, ⟨.number, "1"⟩]
    ∧ Command.tokens.report 0 .text true (.text "f\"a, b\"1")
      = .ok ⟨0, "NAME f\nSTRING a, b\nNUMBER 1\n", ""⟩
    ∧ "NAME f\nSTRING a, b\nNUMBER 1\n".toList.splitOn '\n'
      = ["NAME f".toList, "STRING a, b".toList, "NUMBER 1".toList, []]
  := by
  have h : tokenize "f\"a, b\"1" = .ok [⟨.name, "f"⟩, ⟨.string, "a, b"⟩, ⟨.number, "1"⟩] := by
    decide +kernel
  have hstrings : StringsUnbroken [⟨.name, "f"⟩, ⟨.string, "a, b"⟩, ⟨.number, "1"⟩] := by
    simp [StringsUnbroken]
  obtain ⟨hreport, -, hlines, -⟩ := listing_lines h 0 true
  exact ⟨h, hstrings, hreport, hlines.mpr hstrings⟩

/-- A string with a line feed is listed on two lines, and they may look like the lines of two
tokens: neither is there a line for each token of every text, nor does the listing tell the
tokens. -/
theorem listing_not_faithful :
  ¬(∃ depth, ∀ source ts report, tokenize source = .ok ts →
    Command.tokens.report depth .text true (.text source) = .ok report →
    report.output.toList.splitOn '\n' = ts.map (·.line.toList) ++ [[]])
  ∧ ¬(∃ depth, ∀ source source' ts ts', tokenize source = .ok ts → tokenize source' = .ok ts' →
    (Command.tokens.report depth .text true (.text source)).map Report.output
      = (Command.tokens.report depth .text true (.text source')).map Report.output →
    ts = ts')
  := by
  have hbroken : tokenize "\"a\\nNUMBER 1\"" = .ok [⟨.string, "a\nNUMBER 1"⟩] := by
    decide +kernel
  have hwhole : tokenize "\"a\" 1" = .ok [⟨.string, "a"⟩, ⟨.number, "1"⟩] := by
    decide +kernel
  have hlisting : ∀ depth, Command.tokens.report depth .text true (.text "\"a\\nNUMBER 1\"")
      = .ok ⟨0, "STRING a\nNUMBER 1\n", ""⟩ := by
    intro depth
    simp only [Command.report, Command.reportTokens, Given.toText, hbroken]
    rfl
  have hsame : ∀ depth, Command.tokens.report depth .text true (.text "\"a\" 1")
      = .ok ⟨0, "STRING a\nNUMBER 1\n", ""⟩ := by
    intro depth
    simp only [Command.report, Command.reportTokens, Given.toText, hwhole]
    rfl
  constructor
  · rintro ⟨depth, h⟩
    have hlines := h _ _ _ hbroken (hlisting depth)
    revert hlines
    decide
  · rintro ⟨depth, h⟩
    have htokens := h _ _ _ _ hbroken hwhole (by rw [hlisting, hsame])
    revert htokens
    decide

end CallForm
