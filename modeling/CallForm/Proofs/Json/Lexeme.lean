import CallForm.Proofs.Json.Quoting

/-!
# The lexemes of a written value

`Json.symbols` lists the lexemes that write a value.  The text of a value, in whatever layout,
is cut into these: the blanks of the layout are dropped, quoted texts show their own end, and a
number ends before a comma, a bracket or a line break.
-/

namespace CallForm.Json

open Text

mutual

/-- No surrogate stands in a text of the value, or in the name of a field. -/
def Plain : Json → Prop
  | string text => ∃ s : String, text = ofString s
  | array items => PlainItems items
  | object fields => PlainFields fields
  | null | bool _ | int _ | real .. | nan | infinity _ => True

/-- No surrogate stands in the texts of the items. -/
def PlainItems : List Json → Prop
  | [] => True
  | item :: items => item.Plain ∧ PlainItems items

/-- No surrogate stands in the names and the texts of the fields. -/
def PlainFields : List Field → Prop
  | [] => True
  | (name, value) :: fields => (∃ s : String, name = ofString s) ∧ value.Plain ∧ PlainFields fields

end

@[simp]
theorem plain_string (s : String) :
  (string s).Plain
  := ⟨s, rfl⟩

@[simp]
theorem plain_array (items : List Json) :
  (array items).Plain ↔ PlainItems items
  := Iff.rfl

@[simp]
theorem plain_object (fields : List Field) :
  (object fields).Plain ↔ PlainFields fields
  := Iff.rfl

@[simp]
theorem plainFields_nil :
  PlainFields []
  := trivial

@[simp]
theorem plainFields_cons (name : String) (value : Json) (fields : List Field) :
  PlainFields ((ofString name, value) :: fields) ↔ value.Plain ∧ PlainFields fields
  := ⟨fun h => h.2, fun h => ⟨⟨name, rfl⟩, h⟩⟩

mutual

/-- The lexemes that write a value. -/
def symbols : Json → List Lexeme
  | null => [.atom null]
  | bool b => [.atom (bool b)]
  | int n => [.integer (decide (n < 0)) (digits n.natAbs)]
  | real negative ds exponent => [.atom (real negative ds exponent)]
  | nan => [.atom nan]
  | infinity negative => [.atom (infinity negative)]
  | string text => [.quoted text]
  | array [] => [.leftBracket, .rightBracket]
  | array (item :: items) =>
    .leftBracket :: (item.symbols ++ (symbolsItems items ++ [.rightBracket]))
  | object [] => [.leftBrace, .rightBrace]
  | object ((name, value) :: fields) =>
    .leftBrace :: .quoted name :: .colon ::
      (value.symbols ++ (symbolsFields fields ++ [.rightBrace]))

/-- The lexemes that write the items after the first. -/
def symbolsItems : List Json → List Lexeme
  | [] => []
  | item :: items => .comma :: (item.symbols ++ symbolsItems items)

/-- The lexemes that write the fields after the first. -/
def symbolsFields : List Field → List Lexeme
  | [] => []
  | (name, value) :: fields =>
    .comma :: .quoted name :: .colon :: (value.symbols ++ symbolsFields fields)

end

/-! ### Blanks and marks -/

theorem lexemes_space {c : Char} (h : isSpace c) (rest : List Char) :
  lexemes (c :: rest) = lexemes rest
  := by
  rw [lexemes, if_pos h]

/-- A lexeme at the front is taken, and what is left is cut by itself. -/
theorem lexemes_of_lexeme? (c : Char) (cs : List Char) {rest : List Char} {first : Lexeme}
    (hspace : ¬isSpace c) (h : lexeme? c (cs ++ rest) = some (first, cs.length)) :
  lexemes (c :: (cs ++ rest)) = first :: lexemes rest
  := by
  rw [lexemes, if_neg hspace, h]
  simp only [List.drop_left]

theorem lexemes_spaces {gap : List Char} (h : ∀ c ∈ gap, isSpace c) (rest : List Char) :
  lexemes (gap ++ rest) = lexemes rest
  := by
  induction gap with
  | nil => rfl
  | cons c gap ih =>
      rw [List.forall_mem_cons] at h
      rw [List.cons_append, lexemes_space h.1, ih h.2]

/-- A line break of a layout is made of blanks. -/
theorem lexemes_lineBreak (layout : Layout) (depth : Nat) (rest : List Char) :
  lexemes (layout.lineBreak depth ++ rest) = lexemes rest
  := by
  apply lexemes_spaces
  cases layout with
  | oneLine =>
      rintro c ⟨⟩
  | lines width =>
      intro c hc
      rcases List.mem_cons.mp hc with rfl | hc
      · rfl
      · rw [List.eq_of_mem_replicate hc]
        rfl

/-- A separator of a layout is a comma and blanks. -/
theorem lexemes_separator (layout : Layout) (depth : Nat) (rest : List Char) :
  lexemes (layout.separator depth ++ rest) = .comma :: lexemes rest
  := by
  cases layout with
  | oneLine =>
      show lexemes (',' :: ([] ++ ' ' :: rest)) = _
      rw [lexemes_of_lexeme? ',' [] (by decide) rfl, lexemes_space (by decide)]
  | lines width =>
      show lexemes (',' :: ([] ++ ((Layout.lines width).lineBreak depth ++ rest))) = _
      rw [lexemes_of_lexeme? ',' [] (by decide) rfl, lexemes_lineBreak]

/-- A quoted text is one lexeme. -/
theorem lexemes_quote {text : List CodePoint} (h : ∃ s : String, text = ofString s)
    (rest : List Char) :
  lexemes (quote .ascii text ++ rest) = .quoted text :: lexemes rest
  := by
  obtain ⟨s, rfl⟩ := h
  obtain ⟨body, hbody, hread⟩ := exists_quoted?_quote .ascii s
  obtain ⟨points, hpoints, hpair⟩ := hread rest
  rw [hbody]
  apply lexemes_of_lexeme? '"' body (by decide)
  simp [lexeme?, hpoints, hpair]

/-! ### Numbers -/

/-- What may stand behind a number in a written value: a comma, a bracket, a brace or a line
break. -/
def Apart (rest : List Char) : Prop :=
  ∀ c ∈ rest.head?, c ∈ [',', '\n', ']', '\x7d']

theorem isDigit_of_mem_digits {n : Nat} {c : Char} (h : c ∈ digits n) :
  c.isDigit
  := Nat.isDigit_of_mem_toDigits (by decide) (by decide) h

theorem exists_digits_eq_cons (n : Nat) :
  ∃ d ds, digits n = d :: ds
  := List.exists_cons_of_ne_nil Nat.toDigits_ne_nil

/-- Only zero has a zero as its first digit. -/
theorem digits_of_head?_zero {n : Nat} (h : (digits n).head? = some '0') :
  digits n = ['0']
  := by
  induction n using Nat.strongRecOn with
  | ind n ih =>
      rcases Nat.lt_or_ge n 10 with hn | hn
      · rw [digits, Nat.toDigits_of_lt_base hn] at h ⊢
        rw [Option.some.inj h]
      · exfalso
        have hfront : (digits (n / 10)).head? = some '0' := by
          rw [digits, Nat.toDigits_of_base_le (by decide) hn,
            List.head?_append_of_ne_nil _ Nat.toDigits_ne_nil] at h
          apply h
        have hzero := ofDigits_digits (n / 10)
        rw [ih (n / 10) (by omega) hfront] at hzero
        have : ofDigits ['0'] = 0 := rfl
        omega

/-- No digit stands at the front. -/
def NoDigitAhead (rest : List Char) : Prop :=
  ∀ c ∈ rest.head?, c.isDigit = false

theorem takeWhile_digits (n : Nat) {rest : List Char} (h : NoDigitAhead rest) :
  (digits n ++ rest).takeWhile Char.isDigit = digits n
  := by
  rw [List.takeWhile_append_of_pos fun c => isDigit_of_mem_digits]
  cases rest with
  | nil => simp
  | cons c rest => simp [h c rfl]

/-- The digits of a number are taken as the part before the point. -/
theorem whole_digits (n : Nat) {rest : List Char} (h : NoDigitAhead rest) :
  (if (digits n ++ rest).head? = some '0' then ['0'] else (digits n ++ rest).takeWhile Char.isDigit)
    = digits n
  := by
  have hne : digits n ≠ [] := Nat.toDigits_ne_nil
  rw [List.head?_append_of_ne_nil _ hne]
  split
  · next hzero => rw [digits_of_head?_zero hzero]
  · apply takeWhile_digits n h

theorem Apart.noDigitAhead {rest : List Char} (h : Apart rest) :
  NoDigitAhead rest
  := by
  intro c hc
  have hmem := h c hc
  simp only [List.mem_cons, List.not_mem_nil, or_false] at hmem
  rcases hmem with rfl | rfl | rfl | rfl <;> rfl

/-- What may stand behind a number is neither a point with digits nor an exponent. -/
theorem Apart.ends {rest : List Char} (h : Apart rest) :
  fraction rest = [] ∧ exponent? rest = none
  := by
  cases rest with
  | nil => exact ⟨rfl, rfl⟩
  | cons c rest =>
      have hmem := h c rfl
      simp only [List.mem_cons, List.not_mem_nil, or_false] at hmem
      rcases hmem with rfl | rfl | rfl | rfl <;> exact ⟨rfl, rfl⟩

/-- An integer is read by its digits. -/
theorem number?_digits (negative : Bool) (n : Nat) {rest : List Char} (h : Apart rest) :
  number? negative (digits n ++ rest)
    = some (.integer negative (digits n), (digits n).length)
  := by
  obtain ⟨d, ds, hdigits⟩ := exists_digits_eq_cons n
  simp only [number?, whole_digits n h.noDigitAhead, List.drop_left, h.ends, List.isEmpty_nil,
    if_true, List.drop_zero]
  rw [hdigits]

theorem magnitude_digits (negative : Bool) (size n : Nat) {rest : List Char}
    (h : NoDigitAhead rest) :
  power?.magnitude negative size (digits n ++ rest)
    = some (signed negative n, size + (digits n).length)
  := by
  obtain ⟨d, ds, hdigits⟩ := exists_digits_eq_cons n
  have hvalue := ofDigits_digits n
  rw [power?.magnitude, takeWhile_digits n h]
  rw [hdigits] at hvalue ⊢
  simp only [hvalue]

/-- A digit is none of the characters that are no digits. -/
theorem ne_of_isDigit {c d : Char} (hc : c.isDigit) (hd : d.isDigit = false) :
  c ≠ d
  := by
  rintro rfl
  rw [hd] at hc
  cases hc

/-- An integer with its sign is read as an exponent. -/
theorem power?_decimalChars (n : Int) {rest : List Char} (h : NoDigitAhead rest) :
  power? (decimalChars n ++ rest) = some (n, (decimalChars n).length)
  := by
  by_cases hn : n < 0
  · have hvalue : signed true n.natAbs = n := by
      simp only [signed, if_true]
      omega
    rw [decimalChars, if_pos hn, List.cons_append, power?, magnitude_digits true 1 _ h, hvalue,
      List.length_cons, Nat.add_comm]
  · have hvalue : signed false n.natAbs = n := by
      simp only [signed, Bool.false_eq_true, if_false]
      omega
    have hmagnitude := magnitude_digits false 0 n.natAbs h
    obtain ⟨d, ds, hdigits⟩ := exists_digits_eq_cons n.natAbs
    have hd : d.isDigit := isDigit_of_mem_digits (n := n.natAbs) (by simp [hdigits])
    rw [decimalChars, if_neg hn]
    rw [hvalue, Nat.zero_add, hdigits] at hmagnitude
    rw [hdigits, List.cons_append, power?]
    · apply hmagnitude
    · rintro _ heq
      exact ne_of_isDigit hd rfl (List.cons.inj heq).1
    · rintro _ heq
      exact ne_of_isDigit hd rfl (List.cons.inj heq).1

/-- The number `digits * 10 ^ exponent` is read by its digits and its exponent. -/
theorem number?_exponent (negative : Bool) (n : Nat) (exponent : Int) {rest : List Char}
    (h : Apart rest) :
  number? negative (digits n ++ ('e' :: decimalChars exponent ++ rest))
    = some (.atom (.real negative n exponent),
      (digits n).length + ('e' :: decimalChars exponent).length)
  := by
  have hwhole : NoDigitAhead ('e' :: decimalChars exponent ++ rest) := by
    rintro _ ⟨⟩
    rfl
  have hexponent : exponent? ('e' :: decimalChars exponent ++ rest)
      = some (exponent, ('e' :: decimalChars exponent).length) := by
    rw [List.cons_append, exponent?, power?_decimalChars exponent h.noDigitAhead]
    rfl
  have hfraction : fraction ('e' :: decimalChars exponent ++ rest) = [] := rfl
  obtain ⟨d, ds, hdigits⟩ := exists_digits_eq_cons n
  have hvalue := ofDigits_digits n
  simp only [number?, whole_digits n hwhole, List.drop_left, hfraction, hexponent,
    List.isEmpty_nil, if_true, List.drop_zero, List.append_nil]
  rw [hdigits] at hvalue ⊢
  simp [hvalue]

/-- A digit begins a number. -/
theorem lexeme?_of_isDigit {d : Char} (hd : d.isDigit) (rest : List Char) :
  lexeme? d rest = (number? false (d :: rest)).map fun (found, size) => (found, size - 1)
  := by
  have hne : ∀ e : Char, e.isDigit = false → d ≠ e := fun e => ne_of_isDigit hd
  have hwords : words.find? (·.1.isPrefixOf (d :: rest)) = none := by
    simp [words, (hne 'n' rfl).symm, (hne 't' rfl).symm, (hne 'f' rfl).symm, (hne 'N' rfl).symm,
      (hne 'I' rfl).symm, (hne '-' rfl).symm]
  have hatom : atom? (d :: rest) = number? false (d :: rest) := by
    unfold atom?
    rw [hwords]
    split
    · next heq => cases heq
    · next heq => exact absurd (List.cons.inj heq).1 (hne '-' rfl)
    · rfl
  rw [lexeme?, hatom]
  all_goals apply hne _ rfl

/-- The number behind a minus sign is read with the sign. -/
theorem lexeme?_minus {d : Char} (hd : d.isDigit) (rest : List Char) :
  lexeme? '-' (d :: rest) = number? true (d :: rest)
  := by
  have hI : 'I' ≠ d := (ne_of_isDigit hd rfl).symm
  have hwords : words.find? (·.1.isPrefixOf ('-' :: d :: rest)) = none := by
    simp [words, hI]
  show (atom? ('-' :: d :: rest)).map _ = _
  simp only [atom?, hwords, Option.map_map]
  cases number? true (d :: rest) <;> rfl

/-- A digit is no blank. -/
theorem not_isSpace_of_isDigit {d : Char} (hd : d.isDigit) :
  ¬isSpace d
  := by
  have hne : ∀ e : Char, e.isDigit = false → d ≠ e := fun e => ne_of_isDigit hd
  simp [isSpace, hne ' ' rfl, hne '\t' rfl, hne '\n' rfl, hne '\r' rfl]

/-- A number with its sign is one lexeme: `more` is what it has behind its first digits. -/
theorem lexemes_number {negative : Bool} {n : Nat} (more : List Char) {rest : List Char}
    {found : Lexeme}
    (h : number? negative (digits n ++ (more ++ rest))
      = some (found, (digits n).length + more.length)) :
  lexemes ((if negative then ['-'] else []) ++ (digits n ++ (more ++ rest)))
    = found :: lexemes rest
  := by
  obtain ⟨d, ds, hdigits⟩ := exists_digits_eq_cons n
  have hd : d.isDigit := isDigit_of_mem_digits (n := n) (by simp [hdigits])
  rw [hdigits, List.cons_append] at h ⊢
  cases negative with
  | true =>
      have hlexeme : lexeme? '-' ((d :: ds ++ more) ++ rest)
          = some (found, (d :: ds ++ more).length) := by
        rw [List.append_assoc, List.cons_append, lexeme?_minus hd, h, List.length_append]
      rw [if_pos rfl, List.singleton_append, ← List.append_assoc, ← List.cons_append,
        ← List.cons_append]
      apply lexemes_of_lexeme? '-' (d :: ds ++ more) (by decide) hlexeme
  | false =>
      have hlexeme : lexeme? d ((ds ++ more) ++ rest) = some (found, (ds ++ more).length) := by
        have hsize : (d :: ds).length + more.length - 1 = (ds ++ more).length := by
          simp only [List.length_cons, List.length_append]
          omega
        rw [List.append_assoc, lexeme?_of_isDigit hd, h, ← hsize]
        rfl
      rw [if_neg Bool.false_ne_true, List.nil_append, ← List.append_assoc]
      apply lexemes_of_lexeme? d (ds ++ more) (not_isSpace_of_isDigit hd) hlexeme

/-- An integer is one lexeme. -/
theorem lexemes_decimalChars (n : Int) {rest : List Char} (h : Apart rest) :
  lexemes (decimalChars n ++ rest)
    = .integer (decide (n < 0)) (digits n.natAbs) :: lexemes rest
  := by
  have hnumber := lexemes_number [] (number?_digits (decide (n < 0)) n.natAbs h)
  by_cases hn : n < 0
  · simpa [decimalChars, hn] using hnumber
  · simpa [decimalChars, hn] using hnumber

/-- A number with an exponent is one lexeme. -/
theorem lexemes_real (negative : Bool) (n : Nat) (exponent : Int) {rest : List Char}
    (h : Apart rest) :
  lexemes ((if negative then ['-'] else []) ++ digits n ++ 'e' :: decimalChars exponent ++ rest)
    = .atom (.real negative n exponent) :: lexemes rest
  := by
  rw [List.append_assoc, List.append_assoc]
  apply lexemes_number _ (number?_exponent negative n exponent h)

/-! ### Values -/

theorem lexemes_null (rest : List Char) :
  lexemes ("null".toList ++ rest) = .atom null :: lexemes rest
  := lexemes_of_lexeme? 'n' "ull".toList (by decide) rfl

theorem lexemes_bool (b : Bool) (rest : List Char) :
  lexemes ((if b then "true" else "false").toList ++ rest) = .atom (.bool b) :: lexemes rest
  := by
  cases b with
  | true => exact lexemes_of_lexeme? 't' "rue".toList (by decide) rfl
  | false => exact lexemes_of_lexeme? 'f' "alse".toList (by decide) rfl

theorem lexemes_nan (rest : List Char) :
  lexemes ("NaN".toList ++ rest) = .atom nan :: lexemes rest
  := lexemes_of_lexeme? 'N' "aN".toList (by decide) rfl

theorem lexemes_infinity (negative : Bool) (rest : List Char) :
  lexemes ((if negative then "-Infinity" else "Infinity").toList ++ rest)
    = .atom (infinity negative) :: lexemes rest
  := by
  cases negative with
  | true => exact lexemes_of_lexeme? '-' "Infinity".toList (by decide) rfl
  | false => exact lexemes_of_lexeme? 'I' "nfinity".toList (by decide) rfl

/-- A mark is one lexeme. -/
theorem lexemes_mark {c : Char} {mark : Lexeme} (hspace : ¬isSpace c)
    (h : ∀ rest, lexeme? c rest = some (mark, 0)) (rest : List Char) :
  lexemes (c :: rest) = mark :: lexemes rest
  := lexemes_of_lexeme? c [] hspace (h rest)

variable (layout : Layout)

/-- A number may stand before the bracket or the brace that closes an array or an object. -/
theorem apart_lineBreak (depth : Nat) {c : Char} (hc : c = ']' ∨ c = '\x7d') (rest : List Char) :
  Apart (layout.lineBreak depth ++ c :: rest)
  := by
  cases layout with
  | oneLine =>
      rintro _ ⟨⟩
      rcases hc with rfl | rfl
      · decide
      · decide
  | lines width =>
      rintro _ ⟨⟩
      decide

/-- A number may stand before a separator. -/
theorem apart_separator (depth : Nat) (rest : List Char) :
  Apart (layout.separator depth ++ rest)
  := by
  cases layout with
  | oneLine =>
      rintro _ ⟨⟩
      decide
  | lines width =>
      rintro _ ⟨⟩
      decide

theorem apart_writeItems (depth : Nat) (items : List Json) {rest : List Char} (h : Apart rest) :
  Apart (writeItems layout depth items rest)
  := by
  cases items with
  | nil => apply h
  | cons item items => apply apart_separator

theorem apart_writeFields (depth : Nat) (fields : List Field) {rest : List Char}
    (h : Apart rest) :
  Apart (writeFields layout depth fields rest)
  := by
  cases fields with
  | nil => apply h
  | cons field fields =>
      rw [writeFields, List.append_assoc]
      apply apart_separator

mutual

/-- A written value is cut into its lexemes. -/
theorem lexemes_write :
    ∀ (v : Json) (depth : Nat) (rest : List Char), v.Plain → Apart rest →
      lexemes (v.write layout depth rest) = v.symbols ++ lexemes rest
  | null, depth, rest, hv, hrest => lexemes_null rest
  | bool b, depth, rest, hv, hrest => lexemes_bool b rest
  | int n, depth, rest, hv, hrest => lexemes_decimalChars n hrest
  | real negative ds exponent, depth, rest, hv, hrest => lexemes_real negative ds exponent hrest
  | nan, depth, rest, hv, hrest => lexemes_nan rest
  | infinity negative, depth, rest, hv, hrest => lexemes_infinity negative rest
  | string text, depth, rest, hv, hrest => lexemes_quote hv rest
  | array [], depth, rest, hv, hrest => by
      rw [write, lexemes_mark (by decide) fun _ => rfl, lexemes_mark (by decide) fun _ => rfl]
      rfl
  | array (item :: items), depth, rest, hv, hrest => by
      have hclose := apart_lineBreak layout depth (Or.inl rfl) rest
      rw [write, List.cons_append, lexemes_mark (by decide) fun _ => rfl, lexemes_lineBreak,
        lexemes_write item _ _ hv.1 (apart_writeItems layout _ items hclose),
        lexemes_writeItems items _ _ hv.2 hclose, lexemes_lineBreak,
        lexemes_mark (by decide) fun _ => rfl]
      simp [symbols]
  | object [], depth, rest, hv, hrest => by
      rw [write, lexemes_mark (by decide) fun _ => rfl, lexemes_mark (by decide) fun _ => rfl]
      rfl
  | object ((name, value) :: fields), depth, rest, hv, hrest => by
      have hclose := apart_lineBreak layout depth (Or.inr rfl) rest
      rw [write, List.append_assoc, List.cons_append, lexemes_mark (by decide) fun _ => rfl,
        lexemes_lineBreak, lexemes_quote hv.1, lexemes_mark (by decide) fun _ => rfl,
        lexemes_space (by decide),
        lexemes_write value _ _ hv.2.1 (apart_writeFields layout _ fields hclose),
        lexemes_writeFields fields _ _ hv.2.2 hclose, lexemes_lineBreak,
        lexemes_mark (by decide) fun _ => rfl]
      simp [symbols]

/-- Written items are cut into their lexemes. -/
theorem lexemes_writeItems :
    ∀ (items : List Json) (depth : Nat) (rest : List Char), PlainItems items → Apart rest →
      lexemes (writeItems layout depth items rest) = symbolsItems items ++ lexemes rest
  | [], depth, rest, hitems, hrest => rfl
  | item :: items, depth, rest, hitems, hrest => by
      rw [writeItems, lexemes_separator,
        lexemes_write item _ _ hitems.1 (apart_writeItems layout _ items hrest),
        lexemes_writeItems items _ _ hitems.2 hrest]
      simp [symbolsItems]

/-- Written fields are cut into their lexemes. -/
theorem lexemes_writeFields :
    ∀ (fields : List Field) (depth : Nat) (rest : List Char), PlainFields fields → Apart rest →
      lexemes (writeFields layout depth fields rest) = symbolsFields fields ++ lexemes rest
  | [], depth, rest, hfields, hrest => rfl
  | (name, value) :: fields, depth, rest, hfields, hrest => by
      rw [writeFields, List.append_assoc, lexemes_separator, lexemes_quote hfields.1,
        lexemes_mark (by decide) fun _ => rfl, lexemes_space (by decide),
        lexemes_write value _ _ hfields.2.1 (apart_writeFields layout _ fields hrest),
        lexemes_writeFields fields _ _ hfields.2.2 hrest]
      simp [symbolsFields]

end

end CallForm.Json
