import CallForm.Proofs.Command.Agreement
import CallForm.Proofs.Config.Loading

/-!
# How sessions end

A session with a command and a configuration ends with a report, unless the word for the
level of the log is refused, or the source is there but cannot be read, or its program is to be
reported as JSON and is too deep for that.  The status of the report is zero if there is a source
and the command gets through its steps, and one otherwise.  A word that is no level has no say in
this: it means the level of warnings.

How the arguments are read has no part in any of this: it is said of every command with whatever
settings and arguments it is given.
-/

namespace CallForm

namespace LogLevel

/-- The words that are refused as levels. -/
def refusedWords : List String :=
  ["BASIC_FORMAT", "_STYLES"]

/-- A word that is refused as a level, in letters of either case. -/
def Refused (word : List Text.CodePoint) : Prop :=
  ∃ w ∈ refusedWords, Text.toString? (Text.upperCase word) = some w

/-- A word that means no level and is not refused either, in letters of either case. -/
def Unknown (word : List Text.CodePoint) : Prop :=
  ¬Refused word ∧ ∀ w ∈ words.map (·.1), Text.toString? (Text.upperCase word) ≠ some w

/-- Every word has a level but those that are refused. -/
theorem ofWord_eq_error_iff {word : List Text.CodePoint} :
  (∃ e, ofWord word = .error e) ↔ Refused word
  := by
  rw [ofWord, Refused]
  split
  case h_1 hcapitals => simp [hcapitals]
  case h_2 hcapitals => simp [hcapitals, refusedWords]
  case h_3 hcapitals => simp [hcapitals, refusedWords]
  case h_4 hformat hstyles hcapitals =>
      simpa [hcapitals, refusedWords] using And.intro hformat hstyles

/-- A word that means no level means the level of warnings. -/
theorem ofWord_of_unknown {word : List Text.CodePoint} (h : Unknown word) :
  ofWord word = .ok .warning
  := by
  obtain ⟨hrefused, hwords⟩ := h
  rw [← ofWord_eq_error_iff] at hrefused
  rw [ofWord] at hrefused ⊢
  split
  case h_1 => rfl
  case h_2 hcapitals => simp [hcapitals] at hrefused
  case h_3 hcapitals => simp [hcapitals] at hrefused
  case h_4 capitals _ _ hcapitals =>
      have hlookup : words.lookup capitals = none := by
        rw [List.lookup_eq_none_iff]
        intro entry hentry
        rw [bne_iff_ne]
        rintro rfl
        apply hwords entry.1 (List.mem_map_of_mem hentry) hcapitals
      rw [hlookup]
      rfl

end LogLevel

namespace CommandLine

/-- The source is to be read from a path where something stands, but something bars it from
being read. -/
def Arguments.Unreadable (fs : FileSystem) (a : Arguments) (e : FileSystem.ReadError) : Prop :=
  a.expr = none
    ∧ ∃ path entry, a.file = some path ∧ fs.entryAt? path = some entry ∧ fs.Bars path e

/-- A source is unreadable exactly if its file is. -/
theorem Arguments.source_eq_unreadable_iff {fs : FileSystem} {a : Arguments}
    {e : FileSystem.ReadError} :
  a.source fs = .error (.unreadable e) ↔ a.Unreadable fs e
  := by
  obtain ⟨expr, file, format⟩ := a
  cases expr with
  | some given => simp [source, Unreadable]
  | none =>
      cases file with
      | none => simp [source, Unreadable]
      | some path =>
          have hexists : fs.pathExists path ↔ ∃ entry, fs.entryAt? path = some entry :=
            FileSystem.pathExists_iff
          cases hentry : fs.entryAt? path with
          | none =>
              have hnowhere : ¬fs.pathExists path := by simp [hexists, hentry]
              simp [source, Unreadable, hnowhere, hentry]
          | some entry =>
              have hsomewhere : fs.pathExists path := hexists.mpr ⟨entry, hentry⟩
              simp only [source, Unreadable, hsomewhere, ← FileSystem.readText_eq_error_iff]
              cases htext : fs.readText path <;>
                simp [Except.map, Except.mapError, htext, hentry]

/-! ### Reports and sessions -/

variable {host : Host} {fs : FileSystem} {settings : Settings} {c : Command} {a : Arguments}
  {config : Config} {warning? : Option Config.Warning} {level : LogLevel}

/-- The source is that of a program that is to be reported as JSON, and too deep for that. -/
def Arguments.TooDeep (host : Host) (fs : FileSystem) (settings : Settings) (c : Command)
    (a : Arguments) (config : Config) : Prop :=
  ∃ source, a.source fs = .ok source
    ∧ c.Overflows host.recordDepth (outputFormat settings a config) source.toText

theorem status_reportMissing (format : Format) (path : String) :
  (reportMissing format path).status = 1
  := by
  cases format with
  | text => rfl
  | json => rfl

/-- A report on a source has the status one unless the command gets through its steps. -/
theorem status_of_reportOn {report : Report}
    (h : Session.reportOn host fs settings c a config level = .ok report) :
  (report.status = 0 ∨ report.status = 1)
  ∧ (report.status = 0 ↔ ∃ source, a.source fs = .ok source ∧ c.Succeeds source.toText)
  := by
  cases hsource : a.source fs with
  | ok source =>
      rcases reportOn_cases host hsource settings c config level with
        ⟨-, herror⟩ | ⟨-, report', hreport, hstatus⟩
      · cases herror.symm.trans h
      · obtain rfl := Except.ok.inj (hreport.symm.trans h)
        rw [hstatus]
        constructor
        · apply Command.statusOn_eq_zero_or_one
        · simp only [Command.statusOn_eq_zero_iff, Except.ok.injEq, exists_eq_left']
  | error cause =>
      cases cause with
      | unreadable e => simp [Session.reportOn, hsource] at h
      | missing path =>
          simp only [Session.reportOn, hsource] at h
          obtain rfl := Except.ok.inj h
          simp [status_reportMissing]

/-- There is no report exactly if the source is unreadable or its program is too deep. -/
theorem reportOn_eq_ok_iff :
  (∃ report, Session.reportOn host fs settings c a config level = .ok report)
    ↔ (¬∃ e, a.Unreadable fs e) ∧ ¬a.TooDeep host fs settings c config
  := by
  simp only [← Arguments.source_eq_unreadable_iff, Arguments.TooDeep]
  cases hsource : a.source fs with
  | ok source =>
      rcases reportOn_cases host hsource settings c config level with
        ⟨hoverflows, herror⟩ | ⟨hfits, report, hreport, -⟩
      · simp [herror, hoverflows]
      · simp [hreport, hfits]
  | error cause => cases cause <;> simp [Session.reportOn, hsource]

/-- A session with a configuration ends without a report if the word for the level is refused. -/
theorem ofCommand_of_refused
    (hconfig : Session.configOf host fs settings = .ok (config, warning?)) {e : LogLevelError}
    (hlevel : LogLevel.ofWord (levelWord settings config) = .error e) (c : Command)
    (a : Arguments) :
  Session.ofCommand host fs settings c a = ⟨.error (.logLevel e), warning?.toList⟩
  := by
  simp only [Session.ofCommand, hconfig, hlevel]

/-- A session with a configuration ends as the report on the source does. -/
theorem ofCommand_of_level
    (hconfig : Session.configOf host fs settings = .ok (config, warning?))
    (hlevel : LogLevel.ofWord (levelWord settings config) = .ok level) (c : Command)
    (a : Arguments) :
  Session.ofCommand host fs settings c a
    = ⟨Session.reportOn host fs settings c a config level, warning?.toList⟩
  := by
  simp only [Session.ofCommand, hconfig, hlevel]

/-- Arguments that are read as a command with its settings and arguments run that command. -/
theorem run_of_arguments {arguments : List String}
    (h : Invocation.ofArguments arguments = .ok ⟨settings, some (c, a)⟩) :
  Session.run host fs arguments = Session.ofCommand host fs settings c a
  := by
  simp only [Session.run, h]

/-- How a session with a command and a configuration ends.  It ends with a report unless the
word for the level is refused, the source is unreadable or its program is too deep.  The status of
the report is zero or one, and it is zero exactly if there is a source and the command gets through
its steps.  A word that means no level lets the session end as the level of warnings does.  All
arguments that are read as the command run this session. -/
theorem ending_of_run
    (hconfig : Session.configOf host fs settings = .ok (config, warning?)) (c : Command)
    (a : Arguments) :
  ((∃ report, (Session.ofCommand host fs settings c a).ending = .ok report)
    ↔ ¬LogLevel.Refused (levelWord settings config) ∧ (¬∃ e, a.Unreadable fs e)
      ∧ ¬a.TooDeep host fs settings c config)
  ∧ (∀ report, (Session.ofCommand host fs settings c a).ending = .ok report →
    (report.status = 0 ∨ report.status = 1)
    ∧ (report.status = 0 ↔ ∃ source, a.source fs = .ok source ∧ c.Succeeds source.toText))
  ∧ (LogLevel.Unknown (levelWord settings config) →
    Session.ofCommand host fs settings c a
      = ⟨Session.reportOn host fs settings c a config .warning, warning?.toList⟩)
  ∧ ∀ arguments, Invocation.ofArguments arguments = .ok ⟨settings, some (c, a)⟩ →
    Session.run host fs arguments = Session.ofCommand host fs settings c a
  := by
  cases hlevel : LogLevel.ofWord (levelWord settings config) with
  | error e =>
      have hrefused := LogLevel.ofWord_eq_error_iff.mp ⟨e, hlevel⟩
      rw [ofCommand_of_refused hconfig hlevel]
      refine ⟨?_, ?_, ?_, ?_⟩
      · constructor
        · rintro ⟨report, ⟨⟩⟩
        · rintro ⟨hnot, -⟩
          contradiction
      · rintro report ⟨⟩
      · rintro ⟨hnot, -⟩
        contradiction
      · intro arguments h
        rw [run_of_arguments h, ofCommand_of_refused hconfig hlevel]
  | ok level =>
      have hnot : ¬LogLevel.Refused (levelWord settings config) := by
        rw [← LogLevel.ofWord_eq_error_iff]
        rintro ⟨e, he⟩
        cases he.symm.trans hlevel
      rw [ofCommand_of_level hconfig hlevel]
      refine ⟨?_, fun report h => status_of_reportOn h, ?_, ?_⟩
      · rw [and_iff_right hnot]
        apply reportOn_eq_ok_iff
      · intro hunknown
        obtain rfl := Except.ok.inj (hlevel.symm.trans (LogLevel.ofWord_of_unknown hunknown))
        rfl
      · intro arguments h
        rw [run_of_arguments h, ofCommand_of_level hconfig hlevel]

/-- A source file with a tilde behind a call. -/
theorem ending_of_run_tilde :
  let fs : FileSystem := ⟨.directory [("s", .file [0x28, 0x66, 0x29, 0x7E])], []⟩
  let settings : Settings := ⟨none, some "loud", false, none⟩
  let a : Arguments := ⟨none, some "s", none⟩
  Session.configOf .standard fs settings = .ok (.default, none)
    ∧ Session.run .standard fs ["--log-level", "loud", "ast", "s"]
      = Session.ofCommand .standard fs settings .ast a
    ∧ ∀ report, (Session.ofCommand .standard fs settings .ast a).ending = .ok report →
      (report.status = 0 ∨ report.status = 1)
      ∧ (report.status = 0 ↔ ∃ source, a.source fs = .ok source
        ∧ Command.ast.Succeeds source.toText)
  := by
  intro fs settings a
  have harguments : Invocation.ofArguments ["--log-level", "loud", "ast", "s"]
      = .ok ⟨settings, some (.ast, a)⟩ := rfl
  have hchosen : Config.chosen? fs none "." = none := by decide +kernel
  have hconfig : Session.configOf .standard fs settings = .ok (.default, none) := by
    simp [Session.configOf, settings, Config.load_of_not_chosen hchosen, Except.mapError]
  obtain ⟨-, hstatus, -, hrun⟩ := ending_of_run hconfig .ast a
  exact ⟨hconfig, hrun _ harguments, hstatus⟩

/-- On no host does every session with a command and a configuration end with a report: the name
of a format of the log in the place of a level ends it without one. -/
theorem run_not_total :
  ¬∃ host, ∀ fs arguments settings c a config warning?,
    Invocation.ofArguments arguments = .ok ⟨settings, some (c, a)⟩ →
    Session.configOf host fs settings = .ok (config, warning?) →
    ∃ report, (Session.run host fs arguments).ending = .ok report
  := by
  rintro ⟨host, h⟩
  let fs : FileSystem := ⟨.directory [], []⟩
  let settings : Settings := ⟨none, some "basic_format", false, none⟩
  have harguments :
      Invocation.ofArguments ["--log-level", "basic_format", "compile", "-e", "(f 1)"]
        = .ok ⟨settings, some (.compile, ⟨some (.text "(f 1)"), none, none⟩)⟩ := rfl
  have hchosen : Config.chosen? fs none "." = none := by decide +kernel
  have hconfig : Session.configOf host fs settings = .ok (.default, none) := by
    simp [Session.configOf, settings, Config.load_of_not_chosen hchosen, Except.mapError]
  have hrefused : LogLevel.ofWord (levelWord settings .default) = .error .format := rfl
  obtain ⟨report, hreport⟩ := h fs _ _ _ _ _ _ harguments hconfig
  rw [run_of_arguments harguments, ofCommand_of_refused hconfig hrefused] at hreport
  cases hreport

end CommandLine

end CallForm
