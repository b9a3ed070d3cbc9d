import MonkeySyntax.Proofs.CommandLine.Agreement
import MonkeySyntax.Proofs.Diagnostic.Report
import MonkeySyntax.Proofs.Node.Printout

/-!
# The output of parsing

Neither the printed program nor the reports say how long their parts are, and a file may have a name
that looks like the end of a location.  Both can be read back all the same.
-/

set_option autoImplicit false

namespace MonkeySyntax

open Text

/-! ## Programs -/

theorem Parser.exists_statements (source file : String) :
    ∃ statements : List Node,
      (Parser.ofSource source file).parseProgram.1 = .program statements ∧
        ∀ statement ∈ statements, statement.StatementOf source.toList := by
  obtain ⟨tokens, ending, spans, split, segments, parsed⟩ := exists_parse source
  refine ⟨_, (parsed file).1, segments.statementOf ?_⟩
  intro token member
  rw [split]
  exact List.mem_append_left _ member

/-- The printer gives two texts, and the texts are the same just if the trees are. -/
def Printer.TellsApart (printer : Printer) (tree other : Node) : Prop :=
  ∃ text otherText, (printer.render tree).1 = .ok text ∧
    (printer.render other).1 = .ok otherText ∧ (text = otherText ↔ tree = other)

theorem Printer.tellsApart_parseProgram (printer : Printer)
    (source file other otherFile : String) :
    printer.TellsApart (Parser.ofSource source file).parseProgram.1
      (Parser.ofSource other otherFile).parseProgram.1 := by
  have known := Parser.isKnown_parseProgram (Parser.ofSource source file)
  have otherKnown := Parser.isKnown_parseProgram (Parser.ofSource other otherFile)
  obtain ⟨statements, program, forms⟩ := Parser.exists_statements source file
  obtain ⟨others, otherProgram, otherForms⟩ := Parser.exists_statements other otherFile
  rw [program] at known ⊢
  rw [otherProgram] at otherKnown ⊢
  obtain ⟨text, rendered, _⟩ := printer.exists_render_program known
  obtain ⟨otherText, otherRendered, _⟩ := printer.exists_render_program otherKnown
  refine ⟨text, otherText, rendered, otherRendered, ?_, ?_⟩
  · rintro rfl
    rw [printer.render_inj forms otherForms known otherKnown rendered otherRendered]
  · intro same
    rw [same, otherRendered] at rendered
    exact (Except.ok.inj rendered).symm

/-! ## Reports -/

def Parser.reportText (parser : Parser) : String :=
  String.join (parser.diagnostics.toList.map Diagnostic.text)

theorem Parser.reportText_inj (file source other : String) :
    (Parser.ofSource source file).parseProgram.2.reportText
        = (Parser.ofSource other file).parseProgram.2.reportText ↔
      (Parser.ofSource source file).parseProgram.2.diagnostics.toList
        = (Parser.ofSource other file).parseProgram.2.diagnostics.toList := by
  obtain ⟨_, ending, spans, _, _, parsed⟩ := exists_parse source
  obtain ⟨_, otherEnding, otherSpans, _, _, otherParsed⟩ := exists_parse other
  rw [Parser.reportText, Parser.reportText, (parsed file).2, (otherParsed file).2]
  constructor
  · apply eq_of_join_eq Diagnostic.text_ne_nil
    intro diagnostic member otherDiagnostic otherMember
    obtain ⟨fault, _, rfl⟩ := List.mem_map.mp member
    obtain ⟨otherFault, _, rfl⟩ := List.mem_map.mp otherMember
    exact Diagnostic.toldApart_unexpectedToken file _ _ _ _
  · intro same
    rw [same]

/-! ## Output -/

namespace CommandLine

theorem stdout_parseText_inj (level otherLevel : Level) (file otherFile source other : String) :
    (parseText level file source).stdout = (parseText otherLevel otherFile other).stdout ↔
      (Parser.ofSource source file).parseProgram.1
        = (Parser.ofSource other otherFile).parseProgram.1 := by
  obtain ⟨text, otherText, rendered, otherRendered, told⟩ :=
    Printer.tellsApart_parseProgram {} source file other otherFile
  simp only [parseText, renderedText, Node.render, rendered, otherRendered,
    String.append_left_inj, told]

theorem stderr_parseText {level : Level} (quiet : level ≠ .debug) (file source : String) :
    (parseText level file source).stderr
      = (Parser.ofSource source file).parseProgram.2.reportText := by
  obtain ⟨text, rendered⟩ :=
    Node.exists_render (Parser.isKnown_parseProgram (Parser.ofSource source file))
  rw [parseText_eq quiet file source rendered, Parser.reportText]

/-- Programs of two texts are printed alike under an indent just if they are equal, and the texts of
the diagnostics of two texts under one file name are alike just if the diagnostics are equal.  So
the output of the command tells the program, and its error stream, on which no events are recorded,
the diagnostics. -/
theorem printouts_tell_parses :
    (∀ (printer : Printer) (source file other otherFile : String),
      printer.TellsApart (Parser.ofSource source file).parseProgram.1
        (Parser.ofSource other otherFile).parseProgram.1) ∧
    (∀ file source other : String,
      (Parser.ofSource source file).parseProgram.2.reportText
          = (Parser.ofSource other file).parseProgram.2.reportText ↔
        (Parser.ofSource source file).parseProgram.2.diagnostics.toList
          = (Parser.ofSource other file).parseProgram.2.diagnostics.toList) ∧
    (∀ (level otherLevel : Level) (file otherFile source other : String),
      (parseText level file source).stdout = (parseText otherLevel otherFile other).stdout ↔
        (Parser.ofSource source file).parseProgram.1
          = (Parser.ofSource other otherFile).parseProgram.1) ∧
    ∀ level otherLevel : Level, level ≠ .debug → otherLevel ≠ .debug →
      ∀ file source other : String,
        (parseText level file source).stderr = (parseText otherLevel file other).stderr ↔
          (Parser.ofSource source file).parseProgram.2.diagnostics.toList
            = (Parser.ofSource other file).parseProgram.2.diagnostics.toList := by
  refine ⟨Printer.tellsApart_parseProgram, Parser.reportText_inj, stdout_parseText_inj, ?_⟩
  intro level otherLevel quiet otherQuiet file source other
  rw [stderr_parseText quiet, stderr_parseText otherQuiet]
  exact Parser.reportText_inj file source other

/-- Two texts that break off in a header, in a file with a name like the end of a report. -/
theorem broken_headers_told_apart :
    Level.warning ≠ .debug ∧ Level.error ≠ .debug ∧
      (parseText .warning "a:1:4\n" "let").stderr ≠ (parseText .error "a:1:4\n" "let x").stderr := by
  have quiet : Level.warning ≠ .debug := by decide
  have otherQuiet : Level.error ≠ .debug := by decide
  have differ : (Parser.ofSource "let" "a:1:4\n").parseProgram.2.diagnostics.toList
      ≠ (Parser.ofSource "let x" "a:1:4\n").parseProgram.2.diagnostics.toList := by
    decide +kernel
  refine ⟨quiet, otherQuiet, ?_⟩
  rw [Ne, printouts_tell_parses.2.2.2 .warning .error quiet otherQuiet]
  exact differ

end CommandLine

end MonkeySyntax
