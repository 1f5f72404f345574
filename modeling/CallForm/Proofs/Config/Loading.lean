import CallForm.Config.Loading
import CallForm.Proofs.FileSystem.Reading
import Mathlib.Tactic.Use

/-!
# When a configuration is loaded

A configuration file that is passed over leaves the default configuration in force, but not
every file that has no settings is passed over.  `PassesOver host fs path w` says that the file
at a path is, and why, and `Obstructs host fs path e` says that it lets loading fail instead: its
bytes are no text, a value in it does not exist or nests too deep, or a setting has no text.
Loading fails exactly for what obstructs it.

All of this holds for every host, so for every reader of YAML and for every depth.
-/

namespace CallForm.Config

/-- The path of the file that is loaded: the given one, else that of the nearest file. -/
def chosen? (fs : FileSystem) (path? : Option String) (start : String) : Option String :=
  path? <|> find? fs start

/-- `Textless depth entries key e`: the setting of a key is a value without a text. -/
def Textless (depth : Nat) (entries : List (Value × Value)) (key : String) (e : Value.TextError) :
    Prop :=
  ∃ value, Value.get? key entries = some value ∧ value.toText depth = .error e

section

variable (host : Host) (fs : FileSystem) (path : String)

/-- `PassesOver host fs path w`: the file at the path is passed over with the warning `w`. -/
inductive PassesOver : Warning → Prop where
  /-- Nothing stands at the path. -/
  | missing (h : fs.Bars path .missing) : PassesOver (.unreadable path)
  /-- A directory stands at the path. -/
  | directory {named : String} (h : fs.Bars path (.directory named)) :
    PassesOver (.unreadable path)
  /-- The text of the file is malformed. -/
  | malformed {text : String} (htext : fs.readText path = .ok text)
    (h : readValue host path text = .error .malformed) : PassesOver (.malformed path)
  /-- The text of the file holds something other than a table. -/
  | noTable {text : String} {value : Value} (htext : fs.readText path = .ok text)
    (hvalue : readValue host path text = .ok value) (h : ∀ entries, value ≠ .table entries) :
    PassesOver (.noTable path)

/-- `Obstructs host fs path e`: the file at the path keeps any configuration from being
loaded. -/
inductive Obstructs : LoadError → Prop where
  /-- The path is none for the system. -/
  | path (h : fs.Bars path .nullInPath) : Obstructs (.unreadable .nullInPath)
  /-- The bytes of the file are no text. -/
  | bytes {error : Text.Utf8Error} (h : fs.Bars path (.notText error)) :
    Obstructs (.unreadable (.notText error))
  /-- The text of the file is not found to be malformed, but has no value either: an integer is
  too long, or it nests too deep, or the reader of YAML fails in a way of its own. -/
  | text {text : String} {e : LoadError} (htext : fs.readText path = .ok text)
    (h : readValue host path text = .error (.load e)) : Obstructs e
  /-- The format is set to a value without a text. -/
  | format {text : String} {entries : List (Value × Value)} {e : Value.TextError}
    (htext : fs.readText path = .ok text)
    (hentries : readValue host path text = .ok (.table entries))
    (h : Textless host.valueDepth entries "format" e) : Obstructs (.ofValue e)
  /-- The level of the log is set to a value without a text, and the format is not. -/
  | logLevel {text : String} {entries : List (Value × Value)} {e : Value.TextError}
    (htext : fs.readText path = .ok text)
    (hentries : readValue host path text = .ok (.table entries))
    (hformat : ∀ e, ¬Textless host.valueDepth entries "format" e)
    (h : Textless host.valueDepth entries "log_level" e) : Obstructs (.ofValue e)

end

/-! ### Settings -/

theorem mapM_toText_eq_error_iff {depth : Nat} {entries : List (Value × Value)} {key : String}
    {e : Value.TextError} :
  (Value.get? key entries).mapM (·.toText depth) = .error e ↔ Textless depth entries key e
  := by
  rw [Textless]
  cases Value.get? key entries with
  | none => simp [pure, Except.pure]
  | some value => cases htext : value.toText depth <;> simp [htext, Functor.map, Except.map]

/-- A table describes no configuration exactly if the format, or else the level of the log, is set
to a value without a text. -/
theorem ofTable_eq_error_iff {depth : Nat} {entries : List (Value × Value)} {e : Value.TextError} :
  ofTable depth entries = .error e
    ↔ Textless depth entries "format" e
      ∨ (∀ e, ¬Textless depth entries "format" e) ∧ Textless depth entries "log_level" e
  := by
  simp only [← mapM_toText_eq_error_iff]
  cases hformat : (Value.get? "format" entries).mapM (·.toText depth) with
  | error e' => simp [ofTable, hformat, bind, Except.bind]
  | ok format =>
      cases hlevel : (Value.get? "log_level" entries).mapM (·.toText depth) with
      | error e' => simp [ofTable, hformat, hlevel, bind, Except.bind]
      | ok level => simp [ofTable, hformat, hlevel, bind, Except.bind, pure, Except.pure]

/-- A text names the JSON format if, in small letters, it is the word for it. -/
theorem formatOf_eq_json_iff {text : List Text.CodePoint} :
  formatOf text = .json ↔ Text.toString? (Text.lowerCase text) = some Format.json.word
  := by
  rw [formatOf]
  cases Text.toString? (Text.lowerCase text) with
  | none => simp
  | some word =>
      by_cases hjson : word = Format.json.word
      · subst hjson
        simp [Format.ofWord?, Format.all, Format.word]
      · have hword : Format.json.word ≠ word := Ne.symm hjson
        by_cases htext : Format.text.word = word <;>
          simp [Format.ofWord?, Format.all, hjson, hword, htext]

/-- The format of a configuration is JSON exactly if the format is set to something whose
text is, in small letters, the word for it. -/
theorem format_of_ofTable {depth : Nat} {entries : List (Value × Value)} {config : Config}
    (h : ofTable depth entries = .ok config) :
  config.format = .json
    ↔ ∃ value text, Value.get? "format" entries = some value ∧ value.toText depth = .ok text
      ∧ Text.toString? (Text.lowerCase text) = some Format.json.word
  := by
  simp only [← formatOf_eq_json_iff]
  cases hformat : (Value.get? "format" entries).mapM (·.toText depth) with
  | error e => simp [ofTable, hformat, bind, Except.bind] at h
  | ok format =>
      cases hlevel : (Value.get? "log_level" entries).mapM (·.toText depth) with
      | error e => simp [ofTable, hformat, hlevel, bind, Except.bind] at h
      | ok level =>
          simp only [ofTable, hformat, hlevel, bind, Except.bind, pure, Except.pure] at h
          obtain rfl := Except.ok.inj h
          cases hvalue : Value.get? "format" entries with
          | none =>
              rw [hvalue] at hformat
              obtain rfl := Except.ok.inj hformat
              simp [default]
          | some value =>
              rw [hvalue, Option.mapM_some] at hformat
              cases htext : value.toText depth with
              | error e =>
                  rw [htext] at hformat
                  cases hformat
              | ok text =>
                  rw [htext] at hformat
                  obtain rfl := Except.ok.inj hformat
                  simp [htext]

/-! ### Files -/

variable {host : Host} {fs : FileSystem} {path : String}

/-- A file that is passed over leaves the default configuration. -/
theorem PassesOver.ofFile_eq {w : Warning} (h : PassesOver host fs path w) :
  ofFile host fs path = .ok (default, some w)
  := by
  cases h with
  | missing h => rw [ofFile, FileSystem.readText_eq_error_iff.mpr h]
  | directory h => rw [ofFile, FileSystem.readText_eq_error_iff.mpr h]
  | malformed htext h => simp only [ofFile, htext, ofText, h]
  | @noTable text value htext hvalue h =>
      simp only [ofFile, htext, ofText, hvalue]

/-- A file that obstructs loading lets it fail. -/
theorem Obstructs.ofFile_eq {e : LoadError} (h : Obstructs host fs path e) :
  ofFile host fs path = .error e
  := by
  cases h with
  | path h => rw [ofFile, FileSystem.readText_eq_error_iff.mpr h]
  | bytes h => rw [ofFile, FileSystem.readText_eq_error_iff.mpr h]
  | text htext h => simp only [ofFile, htext, ofText, h]
  | format htext hentries h =>
      have htable := ofTable_eq_error_iff.mpr (Or.inl h)
      simp only [ofFile, htext, ofText, hentries, htable]
  | logLevel htext hentries hformat h =>
      have htable := ofTable_eq_error_iff.mpr (Or.inr ⟨hformat, h⟩)
      simp only [ofFile, htext, ofText, hentries, htable]

/-- A table that describes a configuration lets the file be loaded as that. -/
theorem ofFile_of_table {text : String} {entries : List (Value × Value)} {config : Config}
    (htext : fs.readText path = .ok text)
    (hentries : readValue host path text = .ok (.table entries))
    (h : ofTable host.valueDepth entries = .ok config) :
  ofFile host fs path = .ok (config, none)
  := by
  simp only [ofFile, htext, ofText, hentries, h]

/-- A file is passed over, or it obstructs loading, or it holds the table that describes the
configuration. -/
theorem ofFile_cases (host : Host) (fs : FileSystem) (path : String) :
  (∃ w, PassesOver host fs path w)
  ∨ (∃ e, Obstructs host fs path e)
  ∨ ∃ text entries config, fs.readText path = .ok text
    ∧ readValue host path text = .ok (.table entries)
    ∧ ofTable host.valueDepth entries = .ok config
  := by
  cases htext : fs.readText path with
  | error e =>
      have hbars := FileSystem.readText_eq_error_iff.mp htext
      cases e with
      | missing => exact Or.inl ⟨_, .missing hbars⟩
      | directory named => exact Or.inl ⟨_, .directory hbars⟩
      | nullInPath => exact Or.inr (Or.inl ⟨_, .path hbars⟩)
      | notText error => exact Or.inr (Or.inl ⟨_, .bytes hbars⟩)
  | ok text =>
      cases hvalue : readValue host path text with
      | error flaw =>
          cases flaw with
          | malformed => exact Or.inl ⟨_, .malformed htext hvalue⟩
          | load e => exact Or.inr (Or.inl ⟨e, .text htext hvalue⟩)
      | ok value =>
          by_cases htable : ∃ entries, value = .table entries
          · obtain ⟨entries, rfl⟩ := htable
            right
            cases hconfig : ofTable host.valueDepth entries with
            | ok config => exact Or.inr ⟨text, entries, config, rfl, hvalue, hconfig⟩
            | error e =>
                left
                rcases ofTable_eq_error_iff.mp hconfig with h | ⟨hformat, h⟩
                · exact ⟨_, .format htext hvalue h⟩
                · exact ⟨_, .logLevel htext hvalue hformat h⟩
          · left
            exact ⟨_, .noTable htext hvalue (not_exists.mp htable)⟩

/-- Loading a file fails exactly for what obstructs it. -/
theorem ofFile_eq_error_iff {e : LoadError} :
  ofFile host fs path = .error e ↔ Obstructs host fs path e
  := by
  constructor
  · intro h
    rcases ofFile_cases host fs path with
      ⟨w, hw⟩ | ⟨e', he⟩ | ⟨text, entries, config, htext, hentries, htable⟩
    · cases hw.ofFile_eq.symm.trans h
    · obtain rfl := Except.error.inj (he.ofFile_eq.symm.trans h)
      apply he
    · cases (ofFile_of_table htext hentries htable).symm.trans h
  · intro h
    apply h.ofFile_eq

/-! ### Loading -/

theorem load_of_chosen {path? : Option String} {start : String}
    (h : chosen? fs path? start = some path) :
  load host fs path? start = ofFile host fs path
  := by
  rw [chosen?] at h
  rw [load, h]

theorem load_of_not_chosen {path? : Option String} {start : String}
    (h : chosen? fs path? start = none) :
  load host fs path? start = .ok (default, none)
  := by
  rw [chosen?] at h
  rw [load, h]

/-- Loading fails exactly if there is a file that obstructs it. -/
theorem load_eq_error_iff {path? : Option String} {start : String} {e : LoadError} :
  load host fs path? start = .error e
    ↔ ∃ path, chosen? fs path? start = some path ∧ Obstructs host fs path e
  := by
  cases hchosen : chosen? fs path? start with
  | none => simp [load_of_not_chosen hchosen]
  | some path => simp [load_of_chosen hchosen, ofFile_eq_error_iff]

/-- A configuration in the JSON format comes from a table that sets the format to JSON. -/
theorem table_of_format {config : Config} {w : Option Warning}
    (h : ofFile host fs path = .ok (config, w)) (hformat : config.format = .json) :
  ∃ text entries value word, fs.readText path = .ok text
    ∧ readValue host path text = .ok (.table entries) ∧ Value.get? "format" entries = some value
    ∧ value.toText host.valueDepth = .ok word
    ∧ Text.toString? (Text.lowerCase word) = some Format.json.word
  := by
  rcases ofFile_cases host fs path with
    ⟨w', hw⟩ | ⟨e, he⟩ | ⟨text, entries, _, htext, hentries, htable⟩
  · obtain ⟨rfl, -⟩ := Prod.mk.inj (Except.ok.inj (hw.ofFile_eq.symm.trans h))
    cases hformat
  · cases he.ofFile_eq.symm.trans h
  · obtain ⟨rfl, -⟩ :=
      Prod.mk.inj (Except.ok.inj ((ofFile_of_table htext hentries htable).symm.trans h))
    obtain ⟨value, word, hvalue, hword, hjson⟩ := (format_of_ofTable htable).mp hformat
    exact ⟨text, entries, value, word, htext, hentries, hvalue, hword, hjson⟩

/-- Loading a configuration fails exactly if there is a file that obstructs it.  Without a
file, and for a file that is passed over, the default configuration is loaded.  The format of
a configuration is the text format, unless it comes from a table that sets it to JSON. -/
theorem load_or_obstructed (host : Host) (fs : FileSystem) (path? : Option String)
    (start : String) :
  (∀ e, load host fs path? start = .error e
    ↔ ∃ path, chosen? fs path? start = some path ∧ Obstructs host fs path e)
  ∧ (chosen? fs path? start = none → load host fs path? start = .ok (default, none))
  ∧ (∀ path w, chosen? fs path? start = some path → PassesOver host fs path w →
    load host fs path? start = .ok (default, some w))
  ∧ ∀ config w, load host fs path? start = .ok (config, w) →
    config.format = .text
    ∨ config.format = .json
      ∧ ∃ path text entries value word, chosen? fs path? start = some path
        ∧ fs.readText path = .ok text ∧ readValue host path text = .ok (.table entries)
        ∧ Value.get? "format" entries = some value ∧ value.toText host.valueDepth = .ok word
        ∧ Text.toString? (Text.lowerCase word) = some Format.json.word
  := by
  refine ⟨fun e => load_eq_error_iff, load_of_not_chosen, ?_, ?_⟩
  · intro path w hchosen hw
    rw [load_of_chosen hchosen, hw.ofFile_eq]
  · intro config w h
    cases hformat : config.format with
    | text => exact Or.inl rfl
    | json =>
        cases hchosen : chosen? fs path? start with
        | none =>
            obtain ⟨rfl, -⟩ :=
              Prod.mk.inj (Except.ok.inj ((load_of_not_chosen hchosen).symm.trans h))
            cases hformat
        | some path =>
            rw [load_of_chosen hchosen] at h
            obtain ⟨text, entries, value, word, htable⟩ := table_of_format h hformat
            exact Or.inr ⟨rfl, path, text, entries, value, word, rfl, htable⟩

/-- On no host can a configuration always be loaded: a file with a byte that begins no character
keeps any from being loaded. -/
theorem load_not_total :
  ¬∃ host, ∀ fs path? start, ∃ config w, load host fs path? start = .ok (config, w)
  := by
  rintro ⟨host, h⟩
  have hbytes : Obstructs host ⟨.directory [("c.json", .file [0xFF])], []⟩ "c.json"
      (.unreadable (.notText ⟨0, [0xFF], .start⟩)) := by
    apply Obstructs.bytes
    refine ⟨by decide, [0xFF], rfl, ?_⟩
    rw [Text.decodeUtf8, Text.decodeFrom]
    rfl
  obtain ⟨config, w, hload⟩ := h _ (some "c.json") "."
  cases (load_eq_error_iff.mpr ⟨"c.json", rfl, hbytes⟩).symm.trans hload

end CallForm.Config
