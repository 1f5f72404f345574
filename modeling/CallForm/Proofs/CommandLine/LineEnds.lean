import CallForm.CommandLine.Session
import CallForm.Proofs.FileSystem.Reading
import CallForm.Proofs.Source.Placement
import CallForm.Proofs.Target.Rendering
import CallForm.Proofs.Token.LineEnds

/-!
# Sources with other line ends

A source in a file is read with its line ends unified, and an inline source as it stands.  If no
string of the source holds a carriage return, this makes no difference to what is compiled: the
output is the same, and so is the error, except that a character that cannot be read is reported
at its place in the text that was read.
-/

namespace CallForm

/-- Errors from reading tokens do not depend on line ends. -/
theorem CompileError.unified_of_parse {ts : List Token} {e : CompileError}
    (h : Source.parse ts = .error e) (source : String) :
  e.unified source = e
  := by
  obtain rfl | ⟨front, t, rest, -, rfl⟩ := Source.failure_of_programFrom h
  · rfl
  · rfl

/-- If no string holds a carriage return, unifying the line ends of a text changes nothing about
its program but the place of a character that cannot be read. -/
theorem readProgram_unified {source : String} (h : Reader.NoReturns ⟨source.toList, 0⟩) :
  readProgram (unified source) = (readProgram source).mapError (.unified source)
  := by
  rw [readProgram, readProgram, tokenize_unified h]
  cases tokenize source with
  | error e => rfl
  | ok ts =>
      cases hp : Source.parse ts with
      | error e =>
          simp [bind, Except.bind, Except.mapError, hp, CompileError.unified_of_parse hp]
      | ok p => simp [bind, Except.bind, Except.mapError, hp]

/-- If no string holds a carriage return, unifying the line ends of a text changes nothing about
its call form. -/
theorem compile_unified {source : String} (h : Reader.NoReturns ⟨source.toList, 0⟩) :
  compile (unified source) = (compile source).mapError (.unified source)
  := by
  rw [compile_eq, compile_eq, readProgram_unified h]
  cases readProgram source with
  | error e => rfl
  | ok p => rfl

/-- Texts with the same tokens, or the same error instead of them, are reported on alike, unless
the report repeats the text. -/
theorem Command.report_congr {source source' : String} (h : tokenize source = tokenize source')
    {c : Command} (depth : Nat) {format : Format} (hc : c = .compile → format = .text) :
  c.report depth format false (.text source) = c.report depth format false (.text source')
  := by
  cases c with
  | compile =>
      obtain rfl := hc rfl
      simp only [report, reportCompile, Compilation.of, Given.toText, CallForm.compile,
        readProgram, h]
      rfl
  | tokens => simp only [report, reportTokens, Given.toText, h]
  | ast => simp only [report, reportProgram, Given.toText, readProgram, h]

namespace CommandLine

/-- A file that holds a text is a source with unified line ends. -/
theorem Arguments.source_of_file {fs : FileSystem} {path : String} {bytes : List UInt8}
    {source : String} (hpath : '\x00' ∉ path.toList)
    (hentry : fs.entryAt? path = some (.file bytes))
    (hbytes : Text.decodeUtf8 bytes = .ok source.toList) (format : Option Format) :
  Arguments.source fs ⟨none, some path, format⟩ = .ok (.text (unified source))
  := by
  have hexists : fs.pathExists path := FileSystem.pathExists_iff.mpr ⟨_, hentry⟩
  have htext : fs.readText path = .ok (unified source) := by
    have hnull : ¬path.toList.contains '\x00' := by simpa using hpath
    rw [FileSystem.entryAt?] at hentry
    simp only [FileSystem.readText, if_neg hnull, hentry, hbytes]
    rfl
  simp only [Arguments.source, if_pos hexists, htext]
  rfl

/-- A source in which no string holds a carriage return gives the same whether it stands in a
file, from which it is read with its line ends unified, or inline, as it stands.  The tokens and
the call form are the same, and so is the error, except that a character that cannot be read is
reported at its place less the number of pairs in front of it.  Unless there is such a character,
the reports agree that do not repeat the source. -/
theorem file_or_inline {source : String} (h : Reader.NoReturns ⟨source.toList, 0⟩) :
  (∀ fs path bytes format, '\x00' ∉ path.toList → fs.entryAt? path = some (.file bytes) →
    Text.decodeUtf8 bytes = .ok source.toList →
    Arguments.source fs ⟨none, some path, format⟩ = .ok (.text (unified source))
    ∧ Arguments.source fs ⟨some (.text source), none, format⟩ = .ok (.text source))
  ∧ tokenize (unified source) = (tokenize source).mapError (.unified source)
  ∧ compile (unified source) = (compile source).mapError (.unified source)
  ∧ ((∀ c n, tokenize source ≠ .error (.invalidCharacter c n)) →
    ∀ (c : Command) (depth : Nat) (format : Format), (c = .compile → format = .text) →
      c.report depth format false (.text (unified source))
        = c.report depth format false (.text source))
  := by
  refine ⟨?_, tokenize_unified h, compile_unified h, ?_⟩
  · intro fs path bytes format hpath hentry hbytes
    exact ⟨Arguments.source_of_file hpath hentry hbytes format, rfl⟩
  · intro hvalid c depth format hc
    apply Command.report_congr (tokenize_unified_of_valid h hvalid) depth hc

/-- A tilde on the line behind a string, where lines end in a pair. -/
theorem file_or_inline_tilde :
  Reader.NoReturns ⟨"\"a\"\r\n~".toList, 0⟩
  ∧ compile "\"a\"\r\n~" = .error (.invalidCharacter "~" 5)
  ∧ compile (unified "\"a\"\r\n~") = .error (.invalidCharacter "~" 4)
  ∧ Arguments.source ⟨.directory [("s", .file [0x22, 0x61, 0x22, 0x0D, 0x0A, 0x7E])], []⟩
      ⟨none, some "s", none⟩
    = .ok (.text "\"a\"\n~")
  := by
  have h : Reader.NoReturns ⟨"\"a\"\r\n~".toList, 0⟩ := by
    have hstring : Reader.round ⟨"\"a\"\r\n~".toList, 0⟩ = .success (some ⟨.string, "a"⟩) 3 := rfl
    have hreturn : Reader.round ⟨"\"a\"\r\n~".toList, 3⟩ = .success none 4 := rfl
    have hfeed : Reader.round ⟨"\"a\"\r\n~".toList, 4⟩ = .success none 5 := rfl
    have htilde : Reader.round ⟨"\"a\"\r\n~".toList, 5⟩
        = .failure (.stopped (.invalidCharacter "~" 5)) 5 := rfl
    rw [Reader.noReturns_iff_of_round hstring, Reader.noReturns_iff_of_round hreturn,
      Reader.noReturns_iff_of_round hfeed, Reader.noReturns_iff_of_failure htilde]
    decide
  have hcompile : compile "\"a\"\r\n~" = .error (.invalidCharacter "~" 5) := by
    decide +kernel
  obtain ⟨hsource, -, hunified, -⟩ := file_or_inline h
  refine ⟨h, hcompile, ?_, ?_⟩
  · rw [hunified, hcompile]
    rfl
  · have hfile := hsource ⟨.directory [("s", .file [0x22, 0x61, 0x22, 0x0D, 0x0A, 0x7E])], []⟩ "s"
      [0x22, 0x61, 0x22, 0x0D, 0x0A, 0x7E] none (by decide) rfl (by decide +kernel)
    apply hfile.1

end CommandLine

end CallForm
