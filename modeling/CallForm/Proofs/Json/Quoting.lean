import CallForm.Json.Reader
import Mathlib.Data.List.Lemmas
import Mathlib.Tactic.Use

/-!
# Reading quoted texts back

A text of characters that is written between quotes is read as that text, whatever characters
may be shown as they are: `quoted?` finds the code points that are written and the closing
quote, and `pairUp` puts together the surrogates of a character beyond the first plane.  So
quoting is injective.  Only characters that may be shown as they are stand between the quotes,
so no control character does.
-/

namespace CallForm.Json

open Text

/-! ### What is written -/

/-- What ASCII shows is shown by every repertoire. -/
theorem shows_of_ascii {c : Char} (h : Repertoire.ascii.shows c) (shown : Repertoire) :
  shown.shows c
  := by
  cases shown with
  | ascii => apply h
  | unicode => apply (Bool.and_eq_true_iff.mp h).1

/-- No control character may stand as it is. -/
theorem space_le_of_shows {shown : Repertoire} {c : Char} (h : shown.shows c) :
  ' ' ≤ c
  := by
  cases shown with
  | ascii => simp_all [Repertoire.shows]
  | unicode => simpa [Repertoire.shows] using h

theorem shows_digitChar :
  ∀ n < 16, Repertoire.ascii.shows n.digitChar
  := by
  decide

/-- The escape of a unit is made of printing characters. -/
theorem shows_of_mem_escapeUnit {n : Nat} {c : Char} (h : c ∈ escapeUnit n) :
  Repertoire.ascii.shows c
  := by
  have hdigit : ∀ m : Nat, Repertoire.ascii.shows (m % 16).digitChar :=
    fun m => shows_digitChar _ (Nat.mod_lt _ (by decide))
  simp only [escapeUnit, List.mem_cons, List.not_mem_nil, or_false] at h
  rcases h with rfl | rfl | rfl | rfl | rfl | rfl
  · decide
  · decide
  · apply hdigit
  · apply hdigit
  · apply hdigit
  · apply hdigit

/-- A character is written with characters that may stand as they are. -/
theorem shows_of_mem_escape {shown : Repertoire} {c d : Char} (h : d ∈ escape shown c) :
  shown.shows d
  := by
  have hspecial : ∀ e, Repertoire.ascii.shows e → d ∈ ['\\', e] → shown.shows d := by
    intro e he hd
    simp only [List.mem_cons, List.not_mem_nil, or_false] at hd
    rcases hd with rfl | rfl
    · apply shows_of_ascii (by decide)
    · apply shows_of_ascii he
  unfold escape at h
  split at h
  · apply hspecial _ (by decide) h
  · apply hspecial _ (by decide) h
  · apply hspecial _ (by decide) h
  · apply hspecial _ (by decide) h
  · apply hspecial _ (by decide) h
  · apply hspecial _ (by decide) h
  · apply hspecial _ (by decide) h
  · split at h
    · next hshown =>
      rw [List.mem_singleton.mp h]
      apply hshown
    · obtain ⟨n, -, hn⟩ := List.mem_flatMap.mp h
      apply shows_of_ascii (shows_of_mem_escapeUnit hn)

/-- A quoted text is written with characters that may stand as they are. -/
theorem shows_of_mem_quote {shown : Repertoire} {text : List CodePoint} {c : Char}
    (h : c ∈ quote shown text) :
  shown.shows c
  := by
  simp only [quote, List.cons_append, List.mem_cons, List.mem_append, List.mem_flatMap,
    List.not_mem_nil, or_false] at h
  rcases h with rfl | ⟨p, -, hp⟩ | rfl
  · apply shows_of_ascii (by decide)
  · cases p with
    | char d => apply shows_of_mem_escape hp
    | high n => apply shows_of_ascii (shows_of_mem_escapeUnit hp)
    | low n => apply shows_of_ascii (shows_of_mem_escapeUnit hp)
  · apply shows_of_ascii (by decide)

/-! ### Escaped units -/

theorem hexDigit?_digitChar :
  ∀ n < 16, hexDigit? n.digitChar = some n
  := by
  decide

/-- The four digits of an escape tell the unit. -/
theorem unit?_digitChars {n : Nat} (h : n < 0x10000) :
  unit? (n / 0x1000 % 16).digitChar (n / 0x100 % 16).digitChar (n / 0x10 % 16).digitChar
      (n % 16).digitChar
    = some n
  := by
  have hdigits : n / 0x1000 % 16 * 0x1000 + n / 0x100 % 16 * 0x100 + n / 0x10 % 16 * 0x10 + n % 16
      = n := by
    omega
  simp [unit?, hexDigit?_digitChar _ (Nat.mod_lt _ (by decide : 0 < 16)), hdigits]

/-! ### Characters between quotes -/

/-- `Writes cs points`: between quotes, the characters `cs` are read as the code points
`points`, and what follows them is read as if it stood by itself. -/
def Writes (cs : List Char) (points : List CodePoint) : Prop :=
  ∀ rest, quoted? (cs ++ rest)
    = (quoted? rest).map fun (more, size) => (points ++ more, size + cs.length)

namespace Writes

theorem nil :
  Writes [] []
  := by
  intro rest
  simp

theorem append {cs ds : List Char} {points more : List CodePoint} (hcs : Writes cs points)
    (hds : Writes ds more) :
  Writes (cs ++ ds) (points ++ more)
  := by
  intro rest
  rw [List.append_assoc, hcs, hds, Option.map_map]
  congr 1
  funext tail
  simp [Nat.add_comm cs.length, Nat.add_assoc]

/-- A character that needs no escape is read as itself. -/
theorem plain {c : Char} (hquote : c ≠ '"') (hslash : c ≠ '\\') (hc : ' ' ≤ c) :
  Writes [c] [.char c]
  := by
  intro rest
  rw [List.singleton_append, quoted?]
  · rw [guard, if_pos hc]
    cases quoted? rest <;> rfl
  · exact hquote
  · rintro a b d e tail rfl
    contradiction
  · rintro a tail rfl
    contradiction

/-- A backslash and a character are read as what they stand for. -/
theorem short {c d : Char} (hc : c ≠ 'u') (h : unescape? c = some d) :
  Writes ['\\', c] [.char d]
  := by
  intro rest
  rw [List.cons_append, List.singleton_append, quoted?]
  · rw [h]
    simp only [Option.bind_eq_bind, Option.bind_some]
    cases quoted? rest <;> rfl
  · rintro a b d e tail rfl
    contradiction

/-- The escape of a unit is read as its code point. -/
theorem escapeUnit {n : Nat} {p : CodePoint} (h : n < 0x10000)
    (hp : CodePoint.ofNat? n = some p) :
  Writes (escapeUnit n) [p]
  := by
  intro rest
  simp only [Json.escapeUnit, List.cons_append, List.nil_append]
  rw [quoted?, unit?_digitChars h]
  simp only [Option.bind_eq_bind, Option.bind_some, hp]
  cases quoted? rest <;> rfl

end Writes

/-! ### Texts between quotes -/

theorem ofNat?_toNat (c : Char) :
  CodePoint.ofNat? c.toNat = some (.char c)
  := by
  have hvalid : c.toNat.isValidChar := c.valid
  rw [CodePoint.ofNat?, dif_pos hvalid]
  rfl

/-- The units of a character beyond the first plane are a pair of surrogates that means it. -/
theorem exists_paired {c : Char} (h : ¬c.toNat < 0x10000) :
  ∃ m n : Fin 0x400, units c = [0xD800 + m.val, 0xDC00 + n.val] ∧ paired m n = c
  := by
  have hmax : c.toNat < 0x110000 := by
    have hvalid : c.toNat.isValidChar := c.valid
    simp only [Nat.isValidChar] at hvalid
    omega
  use ⟨(c.toNat - 0x10000) / 0x400, by omega⟩, ⟨(c.toNat - 0x10000) % 0x400, by omega⟩
  constructor
  · rw [units, if_neg h]
  · have hcode : 0x10000 + (c.toNat - 0x10000) / 0x400 * 0x400 + (c.toNat - 0x10000) % 0x400
        = c.toNat := by
      omega
    show Char.ofNat (0x10000 + (c.toNat - 0x10000) / 0x400 * 0x400 + (c.toNat - 0x10000) % 0x400)
      = c
    rw [hcode, Char.ofNat_toNat]

theorem ofNat?_high (m : Fin 0x400) :
  CodePoint.ofNat? (0xD800 + m) = some (.high m)
  := by
  have hvalid : ¬(0xD800 + m : Nat).isValidChar := by
    simp only [Nat.isValidChar]
    omega
  rw [CodePoint.ofNat?, dif_neg hvalid, dif_pos (by omega)]
  simp

theorem ofNat?_low (n : Fin 0x400) :
  CodePoint.ofNat? (0xDC00 + n) = some (.low n)
  := by
  have hvalid : ¬(0xDC00 + n : Nat).isValidChar := by
    simp only [Nat.isValidChar]
    omega
  rw [CodePoint.ofNat?, dif_neg hvalid, dif_neg (by omega), dif_pos (by omega)]
  simp

/-- `Means points c`: the code points, put together, are the character `c`, whatever comes
behind them. -/
def Means (points : List CodePoint) (c : Char) : Prop :=
  ∀ more, pairUp (points ++ more) = .char c :: pairUp more

theorem means_char (c : Char) :
  Means [.char c] c
  := by
  intro more
  rw [List.singleton_append, pairUp]
  rintro m n tail ⟨⟩

/-- The escapes of the units of a character are read as that character. -/
theorem exists_writes_units (c : Char) :
  ∃ points, Writes ((units c).flatMap escapeUnit) points ∧ Means points c
  := by
  by_cases h : c.toNat < 0x10000
  · use [.char c]
    constructor
    · rw [units, if_pos h, List.flatMap_singleton]
      apply Writes.escapeUnit h (ofNat?_toNat c)
    · apply means_char
  · obtain ⟨m, n, hunits, hpaired⟩ := exists_paired h
    use [.high m, .low n]
    constructor
    · rw [hunits, List.flatMap_cons, List.flatMap_singleton]
      apply (Writes.escapeUnit (by omega) (ofNat?_high m)).append
      apply Writes.escapeUnit (by omega) (ofNat?_low n)
    · intro more
      rw [List.cons_append, List.cons_append, pairUp, hpaired, List.nil_append]

/-- However a character is written between quotes, it is read as itself. -/
theorem exists_writes_escape (shown : Repertoire) (c : Char) :
  ∃ points, Writes (escape shown c) points ∧ Means points c
  := by
  unfold escape
  split
  · exact ⟨_, .short (by decide) rfl, means_char _⟩
  · exact ⟨_, .short (by decide) rfl, means_char _⟩
  · exact ⟨_, .short (by decide) rfl, means_char _⟩
  · exact ⟨_, .short (by decide) rfl, means_char _⟩
  · exact ⟨_, .short (by decide) rfl, means_char _⟩
  · exact ⟨_, .short (by decide) rfl, means_char _⟩
  · exact ⟨_, .short (by decide) rfl, means_char _⟩
  · next hquote hslash _ _ _ _ _ =>
    split
    · next hshown => exact ⟨_, .plain hquote hslash (space_le_of_shows hshown), means_char c⟩
    · apply exists_writes_units

/-- However the characters of a text are written between quotes, they are read as that text. -/
theorem exists_writes_text (shown : Repertoire) (cs : List Char) :
  ∃ points, Writes (cs.flatMap (escape shown)) points ∧ pairUp points = cs.map .char
  := by
  induction cs with
  | nil => exact ⟨[], .nil, rfl⟩
  | cons c cs ih =>
      obtain ⟨first, hfirst, hmeans⟩ := exists_writes_escape shown c
      obtain ⟨points, hpoints, hpair⟩ := ih
      use first ++ points
      constructor
      · rw [List.flatMap_cons]
        apply hfirst.append hpoints
      · rw [hmeans, hpair, List.map_cons]

/-- The characters of a quoted text behind its opening quote. -/
theorem quote_ofString (shown : Repertoire) (s : String) :
  quote shown s = '"' :: (s.toList.flatMap (escape shown) ++ ['"'])
  := by
  rw [quote, ofString, List.flatMap_map, List.cons_append]
  rfl

/-- A quoted text is read up to its closing quote, as the text that it was made of. -/
theorem exists_quoted?_quote (shown : Repertoire) (s : String) :
  ∃ body, quote shown s = '"' :: body
    ∧ ∀ rest, ∃ points, quoted? (body ++ rest) = some (points, body.length)
      ∧ pairUp points = ofString s
  := by
  use s.toList.flatMap (escape shown) ++ ['"'], quote_ofString shown s
  intro rest
  obtain ⟨points, hpoints, hpair⟩ := exists_writes_text shown s.toList
  use points
  constructor
  · rw [List.append_assoc, hpoints]
    simp [quoted?, Nat.add_comm]
  · rw [hpair, ofString]

theorem ofString_injective {s t : String} (h : ofString s = ofString t) :
  s = t
  := by
  apply String.toList_inj.mp
  apply List.map_injective_iff.mpr (fun c d => CodePoint.char.inj) h

@[simp]
theorem ofString_inj {s t : String} :
  ofString s = ofString t ↔ s = t
  := ⟨ofString_injective, congrArg ofString⟩

/-- A text is determined by its quoted form. -/
theorem quote_injective {shown : Repertoire} {s t : String} (h : quote shown s = quote shown t) :
  s = t
  := by
  obtain ⟨b, hb, hbpoints⟩ := exists_quoted?_quote shown s
  obtain ⟨c, hc, hcpoints⟩ := exists_quoted?_quote shown t
  obtain ⟨points, hpoints, hs⟩ := hbpoints []
  obtain ⟨points', hpoints', ht⟩ := hcpoints []
  rw [hb, hc] at h
  obtain ⟨-, rfl⟩ := List.cons.inj h
  rw [hpoints] at hpoints'
  obtain ⟨rfl, -⟩ := Prod.mk.inj (Option.some.inj hpoints')
  apply ofString_injective
  rw [← hs, ht]

end CallForm.Json
