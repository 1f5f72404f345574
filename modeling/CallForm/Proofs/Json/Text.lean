import CallForm.Proofs.Json.Lexeme
import Mathlib.Logic.Function.Basic

/-!
# The text of a value

The text of a value is made of the printing characters of ASCII and of line feeds.  `decode`
reads the value back from it, in whatever layout it is written: `readValue` takes the lexemes
of the value and goes on behind them as `readRest` does behind the value itself.

So records that hold no surrogates, and tell what they are the records of, are `Lossless`.
-/

namespace CallForm.Json

open Text

/-! ### Characters -/

/-- A printing character of ASCII, or a line feed. -/
def Printing (c : Char) : Prop :=
  ' ' ≤ c ∧ c ≤ '~' ∨ c = '\n'

instance : DecidablePred Printing :=
  fun c => inferInstanceAs (Decidable (' ' ≤ c ∧ c ≤ '~' ∨ c = '\n'))

/-- Of a list that is written out, this can be computed. -/
theorem printing_of_all {cs : List Char} (h : cs.all (decide <| Printing ·)) :
  ∀ c ∈ cs, Printing c
  := fun c hc => of_decide_eq_true (List.all_eq_true.mp h c hc)

theorem printing_of_shows {c : Char} (h : Repertoire.ascii.shows c) :
  Printing c
  := by
  left
  simpa [Repertoire.shows] using h

theorem printing_of_isDigit {c : Char} (h : c.isDigit) :
  Printing c
  := by
  left
  simp only [Char.isDigit, Bool.and_eq_true, decide_eq_true_eq] at h
  exact ⟨Char.le_trans (by decide) h.1, Char.le_trans h.2 (by decide)⟩

theorem printing_quote (text : List CodePoint) :
  ∀ c ∈ quote .ascii text, Printing c
  := fun _ hc => printing_of_shows (shows_of_mem_quote hc)

theorem printing_digits (n : Nat) :
  ∀ c ∈ digits n, Printing c
  := fun _ hc => printing_of_isDigit (isDigit_of_mem_digits hc)

theorem printing_decimalChars (n : Int) :
  ∀ c ∈ decimalChars n, Printing c
  := by
  unfold decimalChars
  split
  · rw [List.forall_mem_cons]
    exact ⟨by decide, printing_digits _⟩
  · apply printing_digits

variable (layout : Layout)

theorem printing_lineBreak (depth : Nat) :
  ∀ c ∈ layout.lineBreak depth, Printing c
  := by
  cases layout with
  | oneLine => rintro c ⟨⟩
  | lines width =>
      rw [Layout.lineBreak, List.forall_mem_cons]
      constructor
      · decide
      · intro c hc
        rw [List.eq_of_mem_replicate hc]
        decide

theorem printing_separator (depth : Nat) :
  ∀ c ∈ layout.separator depth, Printing c
  := by
  cases layout with
  | oneLine =>
      apply printing_of_all
      rfl
  | lines width =>
      rw [Layout.separator, List.forall_mem_cons]
      exact ⟨by decide, printing_lineBreak _ _⟩

mutual

/-- A value is written with printing characters and line feeds. -/
theorem printing_write :
    ∀ (v : Json) (depth : Nat) {rest : List Char}, (∀ c ∈ rest, Printing c) →
      ∀ c ∈ v.write layout depth rest, Printing c
  | null, depth, rest, hrest => by
      rw [write, List.forall_mem_append]
      exact ⟨printing_of_all (by decide), hrest⟩
  | bool b, depth, rest, hrest => by
      rw [write, List.forall_mem_append]
      exact ⟨printing_of_all (by cases b <;> decide), hrest⟩
  | int n, depth, rest, hrest => by
      rw [write, List.forall_mem_append]
      exact ⟨printing_decimalChars n, hrest⟩
  | real negative ds exponent, depth, rest, hrest => by
      rw [write, List.forall_mem_append, List.forall_mem_append, List.forall_mem_append,
        List.forall_mem_cons]
      have hsign : ∀ c ∈ (if negative then ['-'] else []), Printing c :=
        printing_of_all (by cases negative <;> decide)
      exact ⟨⟨⟨hsign, printing_digits ds⟩, by decide, printing_decimalChars exponent⟩, hrest⟩
  | nan, depth, rest, hrest => by
      rw [write, List.forall_mem_append]
      exact ⟨printing_of_all (by decide), hrest⟩
  | infinity negative, depth, rest, hrest => by
      rw [write, List.forall_mem_append]
      exact ⟨printing_of_all (by cases negative <;> decide), hrest⟩
  | string text, depth, rest, hrest => by
      rw [write, List.forall_mem_append]
      exact ⟨printing_quote text, hrest⟩
  | array [], depth, rest, hrest => by
      rw [write, List.forall_mem_cons, List.forall_mem_cons]
      exact ⟨by decide, by decide, hrest⟩
  | array (item :: items), depth, rest, hrest => by
      rw [write, List.forall_mem_append, List.forall_mem_cons]
      refine ⟨⟨by decide, printing_lineBreak _ _⟩, printing_write item _ ?_⟩
      apply printing_writeItems items
      rw [List.forall_mem_append, List.forall_mem_cons]
      exact ⟨printing_lineBreak _ _, by decide, hrest⟩
  | object [], depth, rest, hrest => by
      rw [write, List.forall_mem_cons, List.forall_mem_cons]
      exact ⟨by decide, by decide, hrest⟩
  | object ((name, value) :: fields), depth, rest, hrest => by
      rw [write, List.forall_mem_append, List.forall_mem_append, List.forall_mem_cons,
        List.forall_mem_cons, List.forall_mem_cons]
      refine ⟨⟨⟨by decide, printing_lineBreak _ _⟩, printing_quote name⟩, by decide, by decide,
        printing_write value _ ?_⟩
      apply printing_writeFields fields
      rw [List.forall_mem_append, List.forall_mem_cons]
      exact ⟨printing_lineBreak _ _, by decide, hrest⟩

/-- Items are written with printing characters and line feeds. -/
theorem printing_writeItems :
    ∀ (items : List Json) (depth : Nat) {rest : List Char}, (∀ c ∈ rest, Printing c) →
      ∀ c ∈ writeItems layout depth items rest, Printing c
  | [], depth, rest, hrest => hrest
  | item :: items, depth, rest, hrest => by
      rw [writeItems, List.forall_mem_append]
      exact ⟨printing_separator _ _, printing_write item _ (printing_writeItems items _ hrest)⟩

/-- Fields are written with printing characters and line feeds. -/
theorem printing_writeFields :
    ∀ (fields : List Field) (depth : Nat) {rest : List Char}, (∀ c ∈ rest, Printing c) →
      ∀ c ∈ writeFields layout depth fields rest, Printing c
  | [], depth, rest, hrest => hrest
  | (name, value) :: fields, depth, rest, hrest => by
      rw [writeFields, List.forall_mem_append, List.forall_mem_append, List.forall_mem_cons,
        List.forall_mem_cons]
      exact ⟨⟨printing_separator _ _, printing_quote name⟩, by decide, by decide,
        printing_write value _ (printing_writeFields fields _ hrest)⟩

end

/-- The text of a value is made of printing characters and line feeds. -/
theorem printing_text (v : Json) :
  ∀ c ∈ (v.text layout).toList, Printing c
  := by
  rw [text, String.toList_ofList]
  apply printing_write
  rintro c ⟨⟩

/-! ### Values -/

/-- The value that a text writes, however many digits its integers have and however deep it
nests. -/
def decode (text : String) : Except Flaw Json :=
  readBy (fun ds => .ok (ofDigits ds)) none text

/-- No value begins with the bracket that closes an array. -/
theorem exists_symbols_eq_cons (v : Json) :
  ∃ first more, v.symbols = first :: more ∧ first ≠ .rightBracket
  := by
  cases v with
  | array items => cases items <;> exact ⟨_, _, rfl, nofun⟩
  | object fields => cases fields <;> exact ⟨_, _, rfl, nofun⟩
  | _ => exact ⟨_, _, rfl, nofun⟩

theorem signed_natAbs (n : Int) :
  signed (decide (n < 0)) n.natAbs = n
  := by
  unfold signed
  split
  · next h =>
    have := of_decide_eq_true h
    omega
  · next h =>
    have := of_decide_eq_false (Bool.eq_false_iff.mpr h)
    omega

section

variable {natural : List Char → Except TooManyDigits Nat}

mutual

/-- Behind the lexemes of a value, the reader stands where it stands behind the value. -/
theorem readValue_symbols (hnatural : ∀ n, natural (digits n) = .ok n) :
    ∀ (v : Json) (stack : List Open) (rest : List Lexeme),
      readValue natural none stack (v.symbols ++ rest) = readRest natural none v stack rest
  | null, stack, rest => by
      rw [symbols, List.singleton_append, readValue]
  | bool b, stack, rest => by
      rw [symbols, List.singleton_append, readValue]
  | int n, stack, rest => by
      rw [symbols, List.singleton_append, readValue, hnatural]
      simp only [signed_natAbs]
  | real negative ds exponent, stack, rest => by
      rw [symbols, List.singleton_append, readValue]
  | nan, stack, rest => by
      rw [symbols, List.singleton_append, readValue]
  | infinity negative, stack, rest => by
      rw [symbols, List.singleton_append, readValue]
  | string text, stack, rest => by
      rw [symbols, List.singleton_append, readValue]
  | array [], stack, rest => by
      rw [symbols, List.cons_append, List.singleton_append, readValue]
      rfl
  | array (item :: items), stack, rest => by
      obtain ⟨first, more, hitem, hfirst⟩ := exists_symbols_eq_cons item
      have hopen : ∀ ts, readValue natural none stack (.leftBracket :: (item.symbols ++ ts))
          = readValue natural none (.array [] :: stack) (item.symbols ++ ts) := by
        intro ts
        rw [hitem, List.cons_append, readValue]
        · rfl
        · rintro _ heq
          exact hfirst (List.cons.inj heq).1
      rw [symbols, List.cons_append, List.append_assoc, hopen, readValue_symbols hnatural item,
        List.append_assoc, readRest_symbolsItems hnatural items]
      rfl
  | object [], stack, rest => by
      rw [symbols, List.cons_append, List.singleton_append, readValue]
      rfl
  | object ((name, value) :: fields), stack, rest => by
      rw [symbols, List.cons_append, List.cons_append, List.cons_append, readValue,
        List.append_assoc, readValue_symbols hnatural value, List.append_assoc,
        readRest_symbolsFields hnatural fields]
      rfl

/-- The items that follow `item` and the bracket behind them end the innermost array. -/
theorem readRest_symbolsItems (hnatural : ∀ n, natural (digits n) = .ok n) :
    ∀ (items : List Json) (item : Json) (done : List Json) (stack : List Open)
      (rest : List Lexeme),
      readRest natural none item (.array done :: stack) (symbolsItems items ++ ([.rightBracket] ++ rest))
        = readRest natural none (.array (done.reverse ++ item :: items)) stack rest
  | [], item, done, stack, rest => by
      rw [symbolsItems, List.nil_append, List.singleton_append, readRest, List.reverse_cons]
  | next :: items, item, done, stack, rest => by
      rw [symbolsItems, List.cons_append, readRest, List.append_assoc,
        readValue_symbols hnatural next, readRest_symbolsItems hnatural items, List.reverse_cons,
        List.append_assoc, List.singleton_append]

/-- The fields that follow the field `name` with the given value, and the brace behind them,
end the innermost object. -/
theorem readRest_symbolsFields (hnatural : ∀ n, natural (digits n) = .ok n) :
    ∀ (fields : List Field) (name : List CodePoint) (value : Json) (done : List Field)
      (stack : List Open) (rest : List Lexeme),
      readRest natural none value (.object done name :: stack)
          (symbolsFields fields ++ ([.rightBrace] ++ rest))
        = readRest natural none (.object (done.reverse ++ (name, value) :: fields)) stack rest
  | [], name, value, done, stack, rest => by
      rw [symbolsFields, List.nil_append, List.singleton_append, readRest, List.reverse_cons]
  | (next, inner) :: fields, name, value, done, stack, rest => by
      rw [symbolsFields, List.cons_append, List.cons_append, List.cons_append, readRest,
        List.append_assoc, readValue_symbols hnatural inner, readRest_symbolsFields hnatural fields,
        List.reverse_cons, List.append_assoc, List.singleton_append]

end

/-- A value is read back from its text, if its integers can be read. -/
theorem readBy_text (hnatural : ∀ n, natural (digits n) = .ok n) {v : Json} (hv : v.Plain) :
  readBy natural none (v.text layout) = .ok v
  := by
  have hlexemes := lexemes_write layout v 0 [] hv (by rintro c ⟨⟩)
  rw [readBy, text, String.toList_ofList, hlexemes, readValue_symbols hnatural, lexemes,
    readRest]

end

/-- A value without surrogates is decoded from its text. -/
theorem decode_text {v : Json} (hv : v.Plain) :
  decode (v.text layout) = .ok v
  := by
  apply readBy_text layout _ hv
  intro n
  rw [ofDigits_digits]

/-! ### Records -/

/-- The records of the things of a type are read back from their texts, and each tells what it
is the record of. -/
structure Lossless {α : Type} (record : α → Json) : Prop where
  /-- The text of a record is made of printing characters of ASCII and line feeds. -/
  printing : ∀ a indent, ∀ c ∈ ((record a).text (.ofIndent indent)).toList, Printing c
  /-- The text of a record is decoded to the record. -/
  decoded : ∀ a indent, decode ((record a).text (.ofIndent indent)) = .ok (record a)
  /-- Things whose records have the same text are the same. -/
  determined : ∀ a b indent indent',
    (record a).text (.ofIndent indent) = (record b).text (.ofIndent indent') → a = b
  /-- A thing can be rebuilt from the text of its record. -/
  rebuilt : ∃ rebuild : String → Option α, ∀ a indent,
    rebuild ((record a).text (.ofIndent indent)) = some a

/-- Records without surrogates are lossless if no two things have the same record. -/
theorem Lossless.of_injective {α : Type} {record : α → Json} (hplain : ∀ a, (record a).Plain)
    (hinjective : Function.Injective record) :
  Lossless record
  := by
  let rebuild (text : String) : Option α :=
    (decode text).toOption.bind (Function.partialInv record)
  have hrebuild : ∀ a indent, rebuild ((record a).text (.ofIndent indent)) = some a := by
    intro a indent
    show (decode _).toOption.bind _ = some a
    rw [decode_text _ (hplain a)]
    apply Function.partialInv_left hinjective
  constructor
  · intro a indent
    apply printing_text
  · intro a indent
    apply decode_text _ (hplain a)
  · intro a b indent indent' h
    apply Option.some.inj
    rw [← hrebuild a indent, h, hrebuild]
  · use rebuild

end CallForm.Json
