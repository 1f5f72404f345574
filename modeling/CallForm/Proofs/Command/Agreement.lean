import CallForm.CommandLine.Session
import CallForm.Host.Standard
import CallForm.Proofs.Compile.Grammar
import CallForm.Proofs.Compile.Records

/-!
# Commands that agree

The three commands go different lengths with a source: one cuts it into tokens, one reads
the tokens as a program, and one compiles.  `c.Succeeds source` and `c.FailsWith source e`
say how far the command `c` gets.  Since every program compiles, the last two commands
succeed on the same sources, and wherever a command fails, those that go further fail too,
with the same error.

What is reported follows from this alone: the format, the echo of the source and the level of
the log have no part in the status.  But a program may be too deep for its record
(`Command.Overflows`), and then there is no report as JSON at all, while there is one as text.
-/

namespace CallForm

namespace Command

/-- The command gets through its steps. -/
def Succeeds (c : Command) (source : String) : Prop :=
  match c with
  | compile => ∃ output, CallForm.compile source = .ok output
  | tokens => ∃ ts, tokenize source = .ok ts
  | ast => ∃ p, readProgram source = .ok p

/-- A step of the command fails with the given error. -/
def FailsWith (c : Command) (source : String) (e : CompileError) : Prop :=
  match c with
  | compile => CallForm.compile source = .error e
  | tokens => tokenize source = .error e
  | ast => readProgram source = .error e

theorem succeeds_or_fails (c : Command) (source : String) :
  c.Succeeds source ∨ ∃ e, c.FailsWith source e
  := by
  have hresult : ∀ {α : Type} (result : Except CompileError α),
      (∃ a, result = .ok a) ∨ ∃ e, result = .error e := by
    intro α result
    cases result with
    | ok a => exact Or.inl ⟨a, rfl⟩
    | error e => exact Or.inr ⟨e, rfl⟩
  cases c with
  | compile => apply hresult
  | tokens => apply hresult
  | ast => apply hresult

/-! ### From one command to another -/

/-- Every program that can be read compiles. -/
theorem succeeds_compile_iff {source : String} :
  compile.Succeeds source ↔ ast.Succeeds source
  := by
  rw [Succeeds, Succeeds, compile_eq]
  cases readProgram source with
  | error e => simp [Except.map]
  | ok p => simp [Except.map]

/-- Only reading the program can keep a text from being compiled. -/
theorem failsWith_compile_iff {source : String} {e : CompileError} :
  compile.FailsWith source e ↔ ast.FailsWith source e
  := by
  rw [FailsWith, FailsWith, compile_eq]
  cases readProgram source with
  | error e' => simp [Except.map]
  | ok p => simp [Except.map]

/-- A text that cannot be cut into tokens cannot be read as a program. -/
theorem FailsWith.ast_of_tokens {source : String} {e : CompileError}
    (h : tokens.FailsWith source e) :
  ast.FailsWith source e
  := by
  have htokens : tokenize source = .error e := h
  show readProgram source = .error e
  rw [readProgram, htokens]
  rfl

/-- Wherever a command fails, compiling fails with the same error. -/
theorem FailsWith.compile {c : Command} {source : String} {e : CompileError}
    (h : c.FailsWith source e) :
  CallForm.compile source = .error e
  := by
  cases c with
  | compile => apply h
  | tokens => apply failsWith_compile_iff.mpr h.ast_of_tokens
  | ast => apply failsWith_compile_iff.mpr h

/-- Wherever a command fails, it leaves the notes that compiling leaves. -/
theorem FailsWith.notes_eq {c : Command} {source : String} {e : CompileError}
    (h : c.FailsWith source e) :
  c.notes source = Command.compile.notes source
  := by
  have hread : readProgram source = .error e := by
    cases c with
    | compile => apply failsWith_compile_iff.mp h
    | tokens => apply h.ast_of_tokens
    | ast => apply h
  cases c with
  | compile => rfl
  | tokens => simp [notes, Note.ofCompile, Note.ofRead, hread]
  | ast => simp [notes, Note.ofCompile, hread]

/-! ### Reports -/

/-- What a command has said of its source before it gets to its steps. -/
def echo (c : Command) (echoes : Bool) (source : Given) : String :=
  if c = compile ∧ echoes then "Input:  " ++ source.shown ++ "\n" else ""

/-- The record of an error in the report of a command. -/
def errorRecord (c : Command) (source : Given) (e : CompileError) : Json :=
  match c with
  | compile => .object [("input", source.toJson), ("ok", .bool false), ("error", e.toJson)]
  | tokens | ast => e.toJson

/-- The command is to report as JSON on a program whose record is deeper than the given depth. -/
def Overflows (c : Command) (depth : Nat) (format : Format) (source : String) : Prop :=
  c = ast ∧ format = .json ∧ ∃ p, readProgram source = .ok p ∧ depth < p.toNode.nesting

/-- A command that gets through its steps reports a success, unless the program is too deep. -/
theorem Succeeds.report_eq {c : Command} {source : Given} (h : c.Succeeds source.toText)
    (depth : Nat) (format : Format) (echoes : Bool) :
  c.Overflows depth format source.toText ∧ c.report depth format echoes source = .error .tooDeep
  ∨ ¬c.Overflows depth format source.toText
    ∧ ∃ r, c.report depth format echoes source = .ok r ∧ r.status = 0
  := by
  cases c with
  | compile =>
      obtain ⟨output, houtput⟩ := h
      right
      refine ⟨by simp [Overflows], _, rfl, ?_⟩
      cases format with
      | text => simp [reportCompile, Compilation.of, houtput]
      | json =>
          simp only [reportCompile, Compilation.of, houtput]
          rfl
  | tokens =>
      obtain ⟨ts, hts⟩ := h
      right
      refine ⟨by simp [Overflows], _, rfl, ?_⟩
      cases format <;> simp [reportTokens, hts, Report.success]
  | ast =>
      obtain ⟨p, hp⟩ := h
      cases format with
      | text =>
          right
          refine ⟨by simp [Overflows], .success p.outline, ?_, rfl⟩
          simp [report, reportProgram, hp]
      | json =>
          have hoverflows : ast.Overflows depth .json source.toText ↔ depth < p.toNode.nesting := by
            simp [Overflows, hp]
          have hrecord := Source.Node.toJson_eq p.toNode depth p.recorded_toNode
          rw [hoverflows]
          by_cases hdepth : p.toNode.nesting ≤ depth
          · right
            refine ⟨Nat.not_lt.mpr hdepth, .success (p.toNode.record.text (.lines 2)), ?_, rfl⟩
            simp [report, reportProgram, hp, hrecord, RecordError.within, hdepth, bind, Except.bind,
              pure, Except.pure]
          · left
            use Nat.lt_of_not_le hdepth
            simp [report, reportProgram, hp, hrecord, RecordError.within, hdepth, bind, Except.bind]

/-- A command of which a step fails reports the error. -/
theorem FailsWith.report_eq {c : Command} {source : Given} {e : CompileError}
    (h : c.FailsWith source.toText e) (depth : Nat) (format : Format) (echoes : Bool) :
  c.report depth format echoes source = .ok (match format with
    | .text => ⟨1, c.echo echoes source, "error: " ++ e.message ++ "\n"⟩
    | .json => ⟨1, (c.errorRecord source e).text (.lines 2) ++ "\n", ""⟩)
  := by
  cases c with
  | compile =>
      have hcompile : CallForm.compile source.toText = .error e := h
      cases format with
      | text => simp [report, reportCompile, Compilation.of, hcompile, echo]
      | json =>
          simp only [report, reportCompile, Compilation.of, hcompile]
          rfl
  | tokens =>
      have htokens : tokenize source.toText = .error e := h
      cases format with
      | text =>
          simp only [report, reportTokens, htokens]
          rfl
      | json =>
          simp only [report, reportTokens, htokens]
          rfl
  | ast =>
      have hread : readProgram source.toText = .error e := h
      cases format with
      | text =>
          simp only [report, reportProgram, hread]
          rfl
      | json =>
          simp only [report, reportProgram, hread]
          rfl

/-- A command of which a step fails needs no record of a program. -/
theorem FailsWith.not_overflows {c : Command} {source : String} {e : CompileError}
    (h : c.FailsWith source e) (depth : Nat) (format : Format) :
  ¬c.Overflows depth format source
  := by
  rintro ⟨rfl, -, p, hp, -⟩
  have hread : readProgram source = .error e := h
  cases hread.symm.trans hp

/-- The status for a result: zero if there is one. -/
def statusOf {α : Type} : Except CompileError α → Nat
  | .ok _ => 0
  | .error _ => 1

/-- The status of a command on a source, whatever it reports. -/
def statusOn (c : Command) (source : String) : Nat :=
  match c with
  | compile => statusOf (CallForm.compile source)
  | tokens => statusOf (tokenize source)
  | ast => statusOf (readProgram source)

/-- The status tells whether the command gets through its steps. -/
theorem statusOn_eq_zero_iff {c : Command} {source : String} :
  c.statusOn source = 0 ↔ c.Succeeds source
  := by
  have hresult : ∀ {α : Type} (result : Except CompileError α),
      statusOf result = 0 ↔ ∃ a, result = .ok a := by
    intro α result
    cases result <;> simp [statusOf]
  cases c with
  | compile => apply hresult
  | tokens => apply hresult
  | ast => apply hresult

theorem FailsWith.statusOn_eq {c : Command} {source : String} {e : CompileError}
    (h : c.FailsWith source e) :
  c.statusOn source = 1
  := by
  cases c with
  | compile => exact congrArg statusOf h
  | tokens => exact congrArg statusOf h
  | ast => exact congrArg statusOf h

theorem statusOn_eq_zero_or_one (c : Command) (source : String) :
  c.statusOn source = 0 ∨ c.statusOn source = 1
  := by
  rcases c.succeeds_or_fails source with hsucceeds | ⟨e, hfails⟩
  · left
    apply statusOn_eq_zero_iff.mpr hsucceeds
  · right
    apply hfails.statusOn_eq

theorem failsWith_of_statusOn_ne_zero {c : Command} {source : String}
    (h : c.statusOn source ≠ 0) :
  ∃ e, c.FailsWith source e
  := by
  rw [Ne, statusOn_eq_zero_iff] at h
  apply (c.succeeds_or_fails source).resolve_left h

/-- A command reports with its status, unless the program is too deep for its record. -/
theorem report_cases (c : Command) (depth : Nat) (format : Format) (echoes : Bool)
    (source : Given) :
  c.Overflows depth format source.toText ∧ c.report depth format echoes source = .error .tooDeep
  ∨ ¬c.Overflows depth format source.toText
    ∧ ∃ r, c.report depth format echoes source = .ok r ∧ r.status = c.statusOn source.toText
  := by
  rcases c.succeeds_or_fails source.toText with hsucceeds | ⟨e, hfails⟩
  · rw [statusOn_eq_zero_iff.mpr hsucceeds]
    apply hsucceeds.report_eq
  · right
    refine ⟨hfails.not_overflows depth format, _, hfails.report_eq depth format echoes, ?_⟩
    rw [hfails.statusOn_eq]
    cases format with
    | text => rfl
    | json => rfl

/-! ### Programs that are too deep -/

/-- The characters of calls inside one another, with none around the innermost for zero. -/
def nestedChars : Nat → List Char
  | 0 => ['(', 'f', ')']
  | n + 1 => '(' :: 'f' :: nestedChars n ++ [')']

/-- A lexeme other than a number may stand in front of anything. -/
theorem layout_cons {l rest : List Char} {t : Token} {us : List Token} (hl : Spells l t)
    (ht : t.kind ≠ .number) (h : Layout NumbersApart us rest) :
  Layout NumbersApart (t :: us) (l ++ rest)
  := by
  have hgap : ∀ c ∈ ([] : List Char), Text.isBlank c := nofun
  apply Layout.next hgap hl _ h
  intro hnumber
  contradiction

/-- The characters of calls inside one another spell their tokens. -/
theorem layout_nested (n : Nat) {us : List Token} {rest : List Char}
    (h : Layout NumbersApart us rest) :
  Layout NumbersApart ((Source.Expr.nested n).tokens ++ us) (nestedChars n ++ rest)
  := by
  have hname : Spells ['f'] ⟨.name, "f"⟩ := Spells.name (by decide) nofun
  induction n generalizing us rest with
  | zero =>
      have hclose := layout_cons .closing nofun h
      apply layout_cons .opening nofun (layout_cons hname nofun hclose)
  | succ n ih =>
      have hinside := ih (layout_cons .closing nofun h)
      rw [Source.Expr.nested, Source.Expr.tokens, Source.tokensOf, Source.tokensOf, nestedChars]
      simp only [List.append_nil, List.cons_append, List.append_assoc]
      apply layout_cons .opening nofun (layout_cons hname nofun hinside)

/-- Calls inside one another are read as such. -/
theorem readProgram_nested (n : Nat) :
  readProgram (String.ofList (nestedChars n)) = .ok ⟨[Source.Expr.nested n]⟩
  := by
  have hend : Layout NumbersApart [] [] := Layout.done nofun
  have hlayout := layout_nested n hend
  have htokens : (Source.Program.mk [Source.Expr.nested n]).tokens
      = (Source.Expr.nested n).tokens ++ [] := rfl
  rw [readProgram_eq_ok_iff, htokens, tokenize, String.toList_ofList, ← List.append_nil (nestedChars n),
    tokensFrom_of_layout (hlayout.munched (namesApart_program ⟨[Source.Expr.nested n]⟩))]
  rfl

/-- There is a text that compiles, and of which there is no report as JSON for its depth. -/
theorem overflows_nested (depth : Nat) :
  ast.Overflows depth .json (String.ofList (nestedChars depth))
  := by
  refine ⟨rfl, rfl, _, readProgram_nested depth, ?_⟩
  have hnesting := Source.nesting_nested depth
  simp only [Source.Program.toNode, Source.toNodes, Source.Node.nesting, Source.Node.nestings]
  omega

end Command

namespace CommandLine

/-- What a session reports of a source: what the command reports, behind the notes. -/
def annotated (level : LogLevel) (c : Command) (source : Given) (r : Report) : Report :=
  ⟨r.status, r.output, Session.noteText level (c.notes source.toText) ++ r.messages⟩

section

variable {host : Host} {fs : FileSystem} {a : Arguments} {source : Given}

theorem reportOn_of_report (h : a.source fs = .ok source) {settings : Settings} {c : Command}
    {config : Config} {r : Report}
    (hreport : c.report host.recordDepth (outputFormat settings a config) config.echoInput source
      = .ok r) (level : LogLevel) :
  Session.reportOn host fs settings c a config level = .ok (annotated level c source r)
  := by
  simp [Session.reportOn, h, hreport, annotated]

theorem reportOn_of_error (h : a.source fs = .ok source) {settings : Settings} {c : Command}
    {config : Config} {e : RecordError}
    (hreport : c.report host.recordDepth (outputFormat settings a config) config.echoInput source
      = .error e) (level : LogLevel) :
  Session.reportOn host fs settings c a config level = .error (.record e)
  := by
  simp [Session.reportOn, h, hreport]

/-- A session reports on a source with the status of the command, unless the program is too deep
for its record. -/
theorem reportOn_cases (host : Host) (h : a.source fs = .ok source) (settings : Settings)
    (c : Command) (config : Config) (level : LogLevel) :
  c.Overflows host.recordDepth (outputFormat settings a config) source.toText
      ∧ Session.reportOn host fs settings c a config level = .error (.record .tooDeep)
  ∨ ¬c.Overflows host.recordDepth (outputFormat settings a config) source.toText
    ∧ ∃ report, Session.reportOn host fs settings c a config level = .ok report
      ∧ report.status = c.statusOn source.toText
  := by
  rcases c.report_cases host.recordDepth (outputFormat settings a config) config.echoInput source
    with ⟨hoverflows, hreport⟩ | ⟨hfits, r, hreport, hstatus⟩
  · left
    exact ⟨hoverflows, reportOn_of_error h hreport level⟩
  · right
    exact ⟨hfits, _, reportOn_of_report h hreport level, hstatus⟩

end

/-- The commands agree on a source, however it is obtained and whatever the formats, the echo and
the levels of the log.  Each command has one status under all of them, and reports with it unless
it is to report as JSON on a program that is too deep for its record.  Compiling succeeds exactly
where outlining does, and listing the tokens succeeds exactly where the source can be cut into
tokens, so that it fails only where the others fail.  A command that fails always reports the
error with which compiling fails: as JSON, in a record of its own, or in that of the compilation;
as text, with the same messages, and with nothing but the echo on the output. -/
theorem reportOn_agree (source : Given) :
  ∃ status : Command → Nat,
    (∀ host fs settings c a config level, Arguments.source fs a = .ok source →
      c.Overflows host.recordDepth (outputFormat settings a config) source.toText
        ∧ Session.reportOn host fs settings c a config level = .error (.record .tooDeep)
      ∨ ¬c.Overflows host.recordDepth (outputFormat settings a config) source.toText
        ∧ ∃ report, Session.reportOn host fs settings c a config level = .ok report
          ∧ report.status = status c)
    ∧ (status .ast = 0 ↔ status .compile = 0)
    ∧ (status .tokens = 0 ↔ ∃ ts, tokenize source.toText = .ok ts)
    ∧ (status .tokens ≠ 0 → status .ast ≠ 0 ∧ status .compile ≠ 0)
    ∧ ∀ c, status c ≠ 0 → ∃ e, compile source.toText = .error e
      ∧ ∀ host fs settings a config level, Arguments.source fs a = .ok source →
        ∃ report compiled, Session.reportOn host fs settings c a config level = .ok report
          ∧ Session.reportOn host fs settings .compile a config level = .ok compiled
          ∧ (outputFormat settings a config = .json →
            report.output = (c.errorRecord source e).text (.lines 2) ++ "\n")
          ∧ (outputFormat settings a config = .text →
            report.output = c.echo config.echoInput source
              ∧ report.messages = Session.noteText level (c.notes source.toText)
                ++ ("error: " ++ e.message ++ "\n")
              ∧ report.messages = compiled.messages)
  := by
  refine ⟨fun c => c.statusOn source.toText, ?_, ?_, ?_, ?_, ?_⟩
  · intro host fs settings c a config level hsource
    apply reportOn_cases host hsource
  · exact Command.statusOn_eq_zero_iff.trans
      (Command.succeeds_compile_iff.symm.trans Command.statusOn_eq_zero_iff.symm)
  · apply Command.statusOn_eq_zero_iff
  · intro h
    obtain ⟨e, he⟩ := Command.failsWith_of_statusOn_ne_zero h
    have hcompile : Command.compile.FailsWith source.toText e := he.compile
    simp only [he.ast_of_tokens.statusOn_eq, hcompile.statusOn_eq]
    decide
  · intro c h
    obtain ⟨e, he⟩ := Command.failsWith_of_statusOn_ne_zero h
    have hcompile : Command.compile.FailsWith source.toText e := he.compile
    refine ⟨e, he.compile, ?_⟩
    intro host fs settings a config level hsource
    refine ⟨_, _, reportOn_of_report hsource (he.report_eq _ _ _) level,
      reportOn_of_report hsource (hcompile.report_eq _ _ _) level, ?_, ?_⟩
    · intro hformat
      simp only [annotated, hformat]
    · intro hformat
      simp only [annotated, he.notes_eq, hformat, and_self]

/-- The source `)~`, reported on as JSON, and as text with notes. -/
theorem reportOn_agree_tilde :
  let fs : FileSystem := ⟨.directory [], []⟩
  let a : Option Format → Arguments := fun format => ⟨some (.text ")~"), none, format⟩
  let settings : Settings := ⟨none, none, false, none⟩
  (∀ format, (a format).source fs = .ok (.text ")~"))
    ∧ ∀ c, ∃ report report',
      Session.reportOn .standard fs settings c (a (some .json)) .default .warning = .ok report
        ∧ Session.reportOn .standard fs settings c (a none) .default .debug = .ok report'
        ∧ report.status = report'.status
  := by
  intro fs a settings
  have hsource : ∀ format, (a format).source fs = .ok (.text ")~") := fun _ => rfl
  have htokens : tokenize ")~" = .error (.invalidCharacter "~" 1) := by
    decide +kernel
  have hfits : ∀ (c : Command) format, ¬c.Overflows Host.standard.recordDepth format ")~" := by
    rintro c format ⟨-, -, p, hp, -⟩
    rw [readProgram, htokens] at hp
    cases hp
  obtain ⟨status, hreports, -⟩ := reportOn_agree (.text ")~")
  refine ⟨hsource, ?_⟩
  intro c
  obtain ⟨-, report, hreport, hstatus⟩ := (hreports .standard fs settings c (a (some .json))
    .default .warning (hsource _)).resolve_left fun h => hfits c _ h.1
  obtain ⟨-, report', hreport', hstatus'⟩ := (hreports .standard fs settings c (a none)
    .default .debug (hsource _)).resolve_left fun h => hfits c _ h.1
  exact ⟨report, report', hreport, hreport', hstatus.trans hstatus'.symm⟩

/-- On no host does outlining have the same status as text and as JSON for all sources. -/
theorem reportOn_not_agree :
  ¬∃ host : Host, ∀ fs settings source config level,
    ∃ report report',
      Session.reportOn host fs settings .ast ⟨some source, none, some .text⟩ config level
        = .ok report
      ∧ Session.reportOn host fs settings .ast ⟨some source, none, some .json⟩ config level
        = .ok report'
      ∧ report.status = report'.status
  := by
  rintro ⟨host, h⟩
  let fs : FileSystem := ⟨.directory [], []⟩
  let settings : Settings := ⟨none, none, false, none⟩
  let source : Given := .text (String.ofList (Command.nestedChars host.recordDepth))
  obtain ⟨-, report', -, hreport', -⟩ := h fs settings source .default .warning
  have hsource : Arguments.source fs ⟨some source, none, some .json⟩ = .ok source := rfl
  rcases reportOn_cases host hsource settings .ast .default .warning with ⟨-, herror⟩ | ⟨hfits, -⟩
  · cases herror.symm.trans hreport'
  · exact hfits (Command.overflows_nested host.recordDepth)

end CommandLine

end CallForm
